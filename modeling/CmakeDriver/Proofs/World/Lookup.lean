import CmakeDriver.Proofs.World.Search

/-!
# Where a start looks

A start first looks for what it opens, and only then hands arguments on. What it opens, or why it
opens nothing, is therefore a matter of the files, the name and the search path alone: not of the
arguments, and of the environment not beyond its search path. A search that may turn to the shell
ends where the other one ends, except that it takes to the shell a text at which the other gives up.

Results:
* `opened_image`, `opened_attempt`: arguments do not matter to what is opened.
* `findProgram_eq_lookup`: a start is a look-up, followed by an attempt at what it found.
* `lookup_congr`: environments with the same search path look alike.
* `lookup_shell`: how the two searches differ.
* `lookup_under`: worlds with the same files look up alike.
* `resolve_under`: with the same search path they resolve alike, too.
-/

namespace CmakeDriver

/-- What was opened: the program and the path by which it is called, whatever its arguments. -/
def Image.opened (image : Image) : Program × Option Path :=
  (image.program, image.call.map Prod.fst)

namespace World

open CmakeDriver.Path

variable {w : World} {α β : Type}

/-! ## Arguments do not matter -/

theorem eq_error_of_map {x y : Except OsFault α} {f : α → β} (h : x.map f = y.map f) {e : OsFault}
    (hx : x = .error e) : y = .error e := by
  subst hx
  cases y with
  | error e' =>
    obtain rfl : e = e' := by simpa [Except.map] using h
    rfl
  | ok a => exact absurd h (by simp [Except.map])

theorem opened_image (room : Nat) (found : Startable) (p : Path) (args args' : List Bytes) :
    (w.image room found p args).map Image.opened =
      (w.image room found p args').map Image.opened := by
  induction room generalizing found p args args' with
  | zero => cases found <;> rfl
  | succ room ih =>
    cases found with
    | program program =>
      rw [image, image]
      split <;> rfl
    | text content =>
      rw [image, image]
      cases Script.interpreter? content with
      | none => rfl
      | some i =>
        cases hs : w.startableInterpreter i.path with
        | error e => simp only [hs]
        | ok next =>
          simp only [hs]
          exact ih _ _ _ _

theorem opened_attempt (shell : Bool) (p : Path) (args args' : List Bytes) :
    (w.attempt shell p args).map Image.opened = (w.attempt shell p args').map Image.opened := by
  unfold attempt
  cases w.startable p with
  | error e => rfl
  | ok found =>
    have h := opened_image (w := w) maxOpened found p args args'
    simp only
    cases hi : w.image maxOpened found p args with
    | error e =>
      rw [eq_error_of_map h hi]
    | ok image =>
      cases hi' : w.image maxOpened found p args' with
      | error e =>
        rw [eq_error_of_map h.symm hi'] at hi
        exact absurd hi (by simp)
      | ok image' =>
        rw [hi, hi'] at h
        exact h

/-! ## Look-ups -/

/-- The path, if what it names can be started. -/
def startableAt (w : World) (shell : Bool) (p : Path) : Except OsFault Path :=
  (w.attempt shell p []).map fun _ => p

/-- The path that the start of a program opens, or why there is none. -/
def lookup (w : World) (environment : Environment) (shell : Bool) (name : Path) :
    Except OsFault Path :=
  if name = [] then .error .notFound
  else if hasSlash name then w.startableAt false name
  else seek (w.startableAt shell) false .notFound
    ((tried (environment.searchPath?.getD defaultSearchPath)).map (candidate · name))

theorem startableAt_eq (shell : Bool) (p : Path) (args : List Bytes) :
    w.startableAt shell p = (w.attempt shell p args).map fun _ => p := by
  have h := congrArg (Except.map fun _ => p) (opened_attempt (w := w) shell p [] args)
  unfold startableAt
  cases ha : w.attempt shell p [] <;> cases hb : w.attempt shell p args <;>
    simp_all [Except.map]

theorem startableAt_of_holdsRunnable {p : Path} (h : w.holdsRunnable p = true)
    (ht : w.TextsRun p) : w.startableAt false p = .ok p := by
  obtain ⟨image, -, hi, -⟩ := attempt_of_holdsRunnable h ht []
  rw [startableAt, hi]
  rfl

theorem lookup_of_hasSlash (e : Environment) (shell : Bool) {name : Path}
    (hs : hasSlash name = true) : w.lookup e shell name = w.startableAt false name := by
  have hn : name ≠ [] := by
    rintro rfl
    exact absurd hs (by decide)
  rw [lookup, if_neg hn, if_pos hs]

theorem lookup_of_bare (e : Environment) (shell : Bool) {name : Path} (hn : name ≠ [])
    (hs : hasSlash name = false) :
    w.lookup e shell name = seek (w.startableAt shell) false .notFound
      ((tried (e.searchPath?.getD defaultSearchPath)).map (candidate · name)) := by
  rw [lookup, if_neg hn, if_neg (by simp [hs])]

theorem seek_bind {start : Path → Except OsFault α} {look : Path → Except OsFault Path}
    (h : ∀ p, look p = (start p).map fun _ => p) (denied : Bool) (last : OsFault)
    (ps : List Path) :
    seek start denied last ps = seek look denied last ps >>= start := by
  induction ps generalizing denied last with
  | nil => rfl
  | cons p rest ih =>
    rw [seek, seek, h]
    cases hp : start p with
    | ok a => exact hp.symm
    | error e =>
      simp only [Except.map]
      split
      · exact ih _ _
      · rfl

/-- **A start is a look-up and an attempt at what it found.** -/
theorem findProgram_eq_lookup (e : Environment) (shell : Bool) (name : Path) (args : List Bytes) :
    w.findProgram e shell name args =
      w.lookup e shell name >>= fun p => w.attempt (shell && !hasSlash name) p args := by
  unfold findProgram lookup
  split
  · rfl
  split
  · rename_i hs
    rw [startableAt_eq false name args, hs, Bool.not_true, Bool.and_false]
    cases ha : w.attempt false name args with
    | ok image => exact ha.symm
    | error e => rfl
  · rename_i hs
    rw [Bool.eq_false_iff.2 hs, Bool.not_false, Bool.and_true]
    exact seek_bind (fun p => startableAt_eq shell p args) _ _ _

/-- What a look-up has found can be started. -/
theorem attempt_of_lookup {e : Environment} {shell : Bool} {name p : Path}
    (h : w.lookup e shell name = .ok p) (args : List Bytes) :
    ∃ image, w.attempt (shell && !hasSlash name) p args = .ok image := by
  have hat : ∃ q, w.startableAt (shell && !hasSlash name) q = .ok p := by
    unfold lookup at h
    split at h
    · exact absurd h (by simp)
    split at h
    · rename_i hs
      exact ⟨name, by rw [hs, Bool.not_true, Bool.and_false, h]⟩
    · rename_i hs
      obtain ⟨-, q, -, -, hq, -⟩ := (seek_eq_ok_iff _ _ _ _ _).1 h
      exact ⟨q, by rw [Bool.eq_false_iff.2 hs, Bool.not_false, Bool.and_true, hq]⟩
  obtain ⟨q, hq⟩ := hat
  rw [startableAt_eq _ q args] at hq
  cases hi : w.attempt (shell && !hasSlash name) q args with
  | error e =>
    rw [hi] at hq
    exact absurd hq (by simp [Except.map])
  | ok image =>
    rw [hi] at hq
    obtain rfl : q = p := Except.ok.inj hq
    exact ⟨image, hi⟩

theorem findProgram_of_lookup_error {e : Environment} {shell : Bool} {name : Path} {f : OsFault}
    (h : w.lookup e shell name = .error f) (args : List Bytes) :
    w.findProgram e shell name args = .error f := by
  rw [findProgram_eq_lookup, h]
  rfl

theorem findProgram_of_lookup {e : Environment} {shell : Bool} {name p : Path}
    (h : w.lookup e shell name = .ok p) (args : List Bytes) :
    ∃ image, w.attempt (shell && !hasSlash name) p args = .ok image ∧
      w.findProgram e shell name args = .ok image := by
  obtain ⟨image, hi⟩ := attempt_of_lookup h args
  refine ⟨image, hi, ?_⟩
  rw [findProgram_eq_lookup, h]
  exact hi

/-- **Only the search path matters** of an environment in which a program is sought. -/
theorem lookup_congr {e e' : Environment} (h : e.searchPath? = e'.searchPath?) (shell : Bool)
    (name : Path) : w.lookup e shell name = w.lookup e' shell name := by
  unfold lookup
  rw [h]

/-! ## Only the files matter -/

/-- The same files, seen from the same directory in another environment. -/
def under (w : World) (environment : Environment) : World :=
  { w with environment }

theorem image_under (e : Environment) (room : Nat) (found : Startable) (p : Path)
    (args : List Bytes) : (w.under e).image room found p args = w.image room found p args := by
  induction room generalizing found p args with
  | zero => cases found <;> rfl
  | succ room ih =>
    cases found with
    | program program => rfl
    | text content =>
      have hs : (w.under e).startableInterpreter = w.startableInterpreter := rfl
      rw [image, image, hs]
      simp only [ih]

theorem attempt_under (e : Environment) : (w.under e).attempt = w.attempt := by
  funext shell p args
  have hs : (w.under e).startable = w.startable := rfl
  have hshell : (w.under e).shellImage = w.shellImage := rfl
  unfold attempt
  simp only [hs, hshell, image_under]

/-- **Worlds with the same files look up alike.** -/
theorem lookup_under (e e' : Environment) (shell : Bool) (name : Path) :
    (w.under e).lookup e' shell name = w.lookup e' shell name := by
  unfold lookup startableAt
  rw [attempt_under]

section SameSearchPath

variable {e : Environment} {name : Path} (he : e.searchPath? = w.environment.searchPath?)

include he

theorem noHome_under (hh : w.NoHome) : (w.under e).NoHome :=
  fun ds hds => hh ds (he.symm.trans hds)

theorem candidates_under (hh : w.NoHome) : (w.under e).candidates name = w.candidates name := by
  cases hs : hasSlash name with
  | true =>
    rw [candidates_of_hasSlash _ hs, candidates_of_hasSlash _ hs]
    rfl
  | false =>
    cases hds : w.environment.searchPath? with
    | none =>
      have hpath : (w.under e).environment.searchPath? = none := he.trans hds
      unfold candidates
      rw [hpath, hds, hs]
      rfl
    | some ds =>
      rw [candidates_of_noHome hh hs hds,
        candidates_of_noHome (noHome_under he hh) hs (he.trans hds)]

/-- **Worlds with the same files and the same search path resolve alike.** -/
theorem resolve_under (hh : w.NoHome) : (w.under e).resolve name = w.resolve name := by
  unfold resolve
  rw [candidates_under he hh]
  rfl

end SameSearchPath

/-! ## The search that turns to the shell -/

/-- Only the shell can run what is at this path: it may be run, but it comes down to a text that
names no interpreter. -/
def ForShell (w : World) (p : Path) : Prop :=
  ∃ found, w.startable p = .ok found ∧ w.image maxOpened found p [] = .error .notRunnable

theorem ForShell.attempt_eq {p : Path} (h : w.ForShell p) (shell : Bool) (args : List Bytes) :
    w.attempt shell p args =
      if shell then .ok (w.shellImage p) else .error .notRunnable := by
  obtain ⟨found, hs, hi⟩ := h
  have himage : w.image maxOpened found p args = .error .notRunnable :=
    eq_error_of_map (opened_image maxOpened found p [] args) hi
  simp only [attempt, hs, himage]

theorem attempt_of_not_forShell {p : Path} (h : ¬ w.ForShell p) (args : List Bytes) :
    w.attempt true p args = w.attempt false p args := by
  unfold attempt
  cases hs : w.startable p with
  | error e => rfl
  | ok found =>
    simp only
    split
    · rename_i hi
      exact absurd ⟨found, hs, eq_error_of_map (opened_image maxOpened found p args []) hi⟩ h
    · rfl

/-- Where the texts that may be run can be run nothing is for the shell. -/
theorem not_forShell {p : Path} (ht : w.TextsRun p) : ¬ w.ForShell p := by
  rintro ⟨found, hs, hi⟩
  cases found with
  | program program =>
    rw [image_of_program w (by decide)] at hi
    exact absurd hi (by simp)
  | text content =>
    have hf : w.tree.find w.cwd p = .ok (.file content true) := by
      unfold startable at hs
      split at hs
      · exact absurd hs (by simp)
      · exact absurd hs (by simp)
      · rename_i hf
        obtain ⟨rfl⟩ := Startable.text.inj (Except.ok.inj hs)
        exact hf
      · exact absurd hs (by simp)
    obtain ⟨image, himage⟩ := ht content hf []
    exact absurd (himage.symm.trans hi) (by simp)

/-- What is started without the shell is opened the same in any other start. -/
theorem opened_eq_of_attempt {shell : Bool} {p : Path} {args args' : List Bytes}
    {image image' : Image} (h : w.attempt shell p args = .ok image)
    (h' : w.attempt false p args' = .ok image') : image.opened = image'.opened := by
  have hno : ¬ w.ForShell p := by
    intro hs
    rw [hs.attempt_eq] at h'
    exact absurd h' (by simp)
  have hfalse : w.attempt false p args = .ok image := by
    cases shell with
    | false => exact h
    | true => rwa [attempt_of_not_forShell hno] at h
  have hopened := opened_attempt (w := w) false p args args'
  rw [hfalse, h'] at hopened
  exact Except.ok.inj hopened

theorem seek_shell (denied : Bool) (last : OsFault) (ps : List Path) :
    seek (w.startableAt true) denied last ps = seek (w.startableAt false) denied last ps ∨
      seek (w.startableAt false) denied last ps = .error .notRunnable ∧
        ∃ p ∈ ps, w.ForShell p ∧ seek (w.startableAt true) denied last ps = .ok p := by
  induction ps generalizing denied last with
  | nil => exact Or.inl rfl
  | cons p rest ih =>
    rw [seek, seek]
    by_cases hp : w.ForShell p
    · -- Here the one search gives up, for no search passes over such a text.
      right
      simp only [startableAt, hp.attempt_eq]
      exact ⟨rfl, p, List.mem_cons_self, hp, rfl⟩
    · have heq : w.startableAt true p = w.startableAt false p := by
        rw [startableAt, attempt_of_not_forShell hp, startableAt]
      rw [heq]
      cases w.startableAt false p with
      | ok q => exact Or.inl rfl
      | error e =>
        simp only
        split
        · refine (ih _ _).imp_right ?_
          rintro ⟨hgivesUp, q, hq, hshell⟩
          exact ⟨hgivesUp, q, List.mem_cons_of_mem _ hq, hshell⟩
        · exact Or.inl rfl

/-- **The search that turns to the shell ends where the other one does**, unless that one gives up
at a text: then it takes the text to the shell. Only names without a slash are searched for. -/
theorem lookup_shell (e : Environment) (name : Path) :
    w.lookup e true name = w.lookup e false name ∨
      hasSlash name = false ∧ w.lookup e false name = .error .notRunnable ∧
        ∃ p ∈ (w.under e).tries name, w.ForShell p ∧ w.lookup e true name = .ok p := by
  have htries : (w.under e).tries name = if name = [] then []
      else if hasSlash name then [name]
      else (tried (e.searchPath?.getD defaultSearchPath)).map (candidate · name) := rfl
  unfold lookup
  by_cases hn : name = []
  · simp only [if_pos hn, true_or]
  cases hs : hasSlash name with
  | true => exact Or.inl rfl
  | false =>
    simp only [htries, if_neg hn, hs, Bool.false_eq_true, if_false, true_and]
    exact seek_shell _ _ _

theorem lookup_shell_of_textsRun {e : Environment} {name : Path}
    (ht : ∀ p ∈ (w.under e).tries name, w.TextsRun p) (shell : Bool) :
    w.lookup e shell name = w.lookup e false name := by
  cases shell with
  | false => rfl
  | true =>
    rcases lookup_shell e name with heq | ⟨-, -, p, hp, hshell, -⟩
    · exact heq
    · exact absurd hshell (not_forShell (ht p hp))

/-! ## The search that turns to the shell does not give up at a text -/

theorem attempt_ne_notRunnable (p : Path) (args : List Bytes) :
    w.attempt true p args ≠ .error .notRunnable := by
  unfold attempt
  cases hs : w.startable p with
  | error e =>
    rintro ⟨rfl⟩
    unfold startable at hs
    split at hs
    · rename_i e he
      obtain rfl : e = .notRunnable := Except.error.inj hs
      cases FileTree.find_fault he
    · exact absurd hs (by simp)
    · exact absurd hs (by simp)
    · exact absurd hs (by simp)
  | ok found =>
    simp only
    split
    · simp
    · rename_i hne
      exact hne

theorem startableAt_eq_error_iff {shell : Bool} {p : Path} {e : OsFault} :
    w.startableAt shell p = .error e ↔ w.attempt shell p [] = .error e := by
  unfold startableAt
  cases w.attempt shell p [] <;> simp [Except.map]

/-- A search fails with a fault of a candidate, or with one that it begins with or makes itself. -/
theorem seek_ne {start : Path → Except OsFault α} {f : OsFault} (hf : f ≠ .permissionDenied)
    (hstart : ∀ p, start p ≠ .error f) (denied : Bool) {last : OsFault} (hlast : last ≠ f)
    (ps : List Path) : seek start denied last ps ≠ .error f := by
  induction ps generalizing denied last with
  | nil =>
    rw [seek]
    split
    · simpa using hf.symm
    · simpa using hlast
  | cons p rest ih =>
    rw [seek]
    cases hp : start p with
    | ok a => simp
    | error e =>
      have he : e ≠ f := by
        rintro rfl
        exact hstart p hp
      simp only
      split
      · exact ih _ he
      · simpa using he

theorem lookup_ne_notRunnable (e : Environment) {name : Path} (hs : hasSlash name = false) :
    w.lookup e true name ≠ .error .notRunnable := by
  by_cases hn : name = []
  · rw [lookup, if_pos hn]
    simp
  · rw [lookup_of_bare e true hn hs]
    refine seek_ne (by decide) (fun p hp => ?_) false (by decide) _
    exact attempt_ne_notRunnable p [] (startableAt_eq_error_iff.1 hp)

end World

end CmakeDriver
