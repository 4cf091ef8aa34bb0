import CmakeDriver.Proofs.CommandLine.Occurrence

/-!
# Options, written and scanned

An option is written as one argument, with its value attached by an equals sign, or as two, of which
the second is a word; a flag is written by its name alone. A scan takes exactly what is written this
way, up to where it stops: it goes on behind whatever options stand in front, and what it has taken
when it stops was written for the options that it has settled.

Results:
* `ofString_eq_iff`: each argument has one form.
* `scan_spelled`, `scan_written`: a scan goes through written options, one after the other, and
  settles them.
* `takes_of_scan`, `written_of_scan`: what a scan takes is written for what it settles.
* `scan_of_written`: a scan of written options stops where they end.
-/

namespace CmakeDriver

namespace CommandLine

/-! ## The forms of arguments -/

/-- An argument that is a word: it does not begin with a dash, or is nothing but a dash. -/
def IsWord (argument : String) : Prop :=
  argument.toList.head? ≠ some '-' ∨ argument = "-"

namespace Token

/-- **The forms of arguments.** -/
inductive HasForm : String → Token → Prop
  | escape : HasForm "--" escape
  | attached {name value : String} (h : '=' ∉ name.toList) :
      HasForm ("--" ++ name ++ "=" ++ value) (long name (some value))
  | name {name : String} (hne : name ≠ "") (h : '=' ∉ name.toList) :
      HasForm ("--" ++ name) (long name none)
  | short {letter : Char} {rest : List Char} (h : letter ≠ '-') :
      HasForm (String.ofList ('-' :: letter :: rest)) (short letter)
  | word {text : String} (h : IsWord text) : HasForm text (word text)

/-- What stands behind two dashes is a name, or a name with a value. -/
theorem hasForm_dashes {text : List Char} (h : text ≠ []) :
    HasForm (String.ofList ('-' :: '-' :: text))
      (long (nameAndValue text).1 (nameAndValue text).2) := by
  unfold nameAndValue
  split
  · rename_i hc
    have ht : String.ofList ('-' :: '-' :: text) = "--" ++ String.ofList text := by
      rw [← String.toList_inj]
      simp
    rw [ht]
    refine HasForm.name (fun he => h ?_) (by simpa using cutAt_eq_none_iff.1 hc)
    simpa using congrArg String.toList he
  · rename_i name value hc
    obtain ⟨rfl, hn⟩ := cutAt_eq_some_iff.1 hc
    have ht : String.ofList ('-' :: '-' :: (name ++ '=' :: value)) =
        "--" ++ String.ofList name ++ "=" ++ String.ofList value := by
      rw [← String.toList_inj]
      simp
    rw [ht]
    exact HasForm.attached (by simpa using hn)

theorem hasForm_ofChars (cs : List Char) : HasForm (String.ofList cs) (ofChars cs) := by
  cases cs with
  | nil => exact HasForm.word (Or.inl (by simp))
  | cons first rest =>
    rw [ofChars.eq_def]
    simp only
    split
    · rename_i hf
      exact HasForm.word (Or.inl (by simpa using hf))
    rename_i hf
    obtain rfl : first = '-' := Classical.not_not.1 hf
    split
    · exact HasForm.word (Or.inr rfl)
    rename_i second text
    split
    · rename_i hs
      exact HasForm.short hs
    rename_i hs
    obtain rfl : second = '-' := Classical.not_not.1 hs
    split
    · rename_i ht
      subst ht
      exact HasForm.escape
    · rename_i ht
      exact hasForm_dashes ht

/-- **Each argument has one form.** -/
theorem ofString_eq_iff {argument : String} {t : Token} :
    ofString argument = t ↔ HasForm argument t := by
  constructor
  · rintro rfl
    have h := hasForm_ofChars argument.toList
    rwa [String.ofList_toList] at h
  · intro h
    cases h with
    | escape => decide
    | attached h => exact ofString_long h
    | @name name hne h =>
      have ht : ("--" ++ name).toList = '-' :: '-' :: name.toList := by simp
      have hn : name.toList ≠ [] := fun he => hne (String.toList_inj.1 he)
      rw [ofString, ht]
      simp [ofChars, hn, nameAndValue, cutAt_eq_none_iff.2 h]
    | short h => simp [ofString, ofChars, h]
    | word h =>
      rcases h with h | rfl
      · exact ofString_word h
      · decide

end Token

/-! ## The names of options -/

theorem Opt.not_mem_longName (o : Opt) : '=' ∉ o.longName.toList := by
  cases o <;> decide

theorem Opt.longName_ne (o : Opt) : o.longName ≠ "" := by
  cases o <;> decide

theorem Opt.ofString_longName (o : Opt) : Token.ofString ("--" ++ o.longName) =
    .long o.longName none :=
  Token.ofString_eq_iff.2 (.name o.longName_ne o.not_mem_longName)

theorem Opt.ofString_attached (o : Opt) (value : String) :
    Token.ofString ("--" ++ o.longName ++ "=" ++ value) = .long o.longName (some value) :=
  Token.ofString_long o.not_mem_longName

theorem Scope.longOption?_eq_some_iff {scope : Scope} {name : String} {o : Opt} :
    scope.longOption? name = some o ↔ name = o.longName ∧ scope.knows o = true := by
  constructor
  · intro h
    have hn : o.longName = name := by simpa using List.find?_some h
    refine ⟨hn.symm, ?_⟩
    rw [← hn, longOption?_longName] at h
    split at h
    · assumption
    · exact absurd h (by simp)
  · rintro ⟨rfl, hk⟩
    rw [longOption?_longName, if_pos hk]

/-! ## Ways to write options -/

/-- **The ways to spell an option.** -/
inductive Spelled : Occurrence → List String → Prop
  | attached {o : Opt} (h : o.takesValue = true) (value : String) :
      Spelled { option := o, value } ["--" ++ o.longName ++ "=" ++ value]
  | apart {o : Opt} {value : String} (h : o.takesValue = true) (hw : IsWord value) :
      Spelled { option := o, value } ["--" ++ o.longName, value]
  | flag {o : Opt} (h : o.takesValue = false) : Spelled { option := o } ["--" ++ o.longName]

/-- The ways to write options one after the other. -/
inductive Written : List Occurrence → List String → Prop
  | nil : Written [] []
  | cons {o : Occurrence} {os : List Occurrence} {ts rest : List String} (h : Spelled o ts)
      (hr : Written os rest) : Written (o :: os) (ts ++ rest)

/-! ## Reading one long option -/

theorem mapError_eq_ok_iff {α : Type} {x : Except UsageError α} {a : α} :
    x.mapError Refusal.usage = .ok a ↔ x = .ok a := by
  cases x <;> simp [Except.mapError]

theorem bind_eq_ok_iff {α β : Type} {x : Except Refusal α} {f : α → Except Refusal β} {b : β} :
    x >>= f = .ok b ↔ ∃ a, x = .ok a ∧ f a = .ok b := by
  cases x <;> simp [bind, Except.bind]

variable {scope : Scope} {settled settled' done after : List Setting} {pending pending' : Pending}
  {occ : Occurrence} {os : List Occurrence} {ts rest args : List String} {stop : Stop}

/-- What a long option, with or without an attached value, leaves behind the settings `done`. -/
inductive Reads (o : Opt) (done : List Setting) :
    Option String → List Setting × Pending → Prop
  | attached {value : String} {after : List Setting} (ht : o.takesValue = true)
      (hs : settle done o value = .ok after) : Reads o done (some value) (after, .nothing)
  | opened (ht : o.takesValue = true) : Reads o done none (done, .waiting o)
  | flag {after : List Setting} (ht : o.takesValue = false) (hs : settle done o "" = .ok after) :
      Reads o done none (after, .nothing)

theorem exists_option_of_readLong {name : String} {value : Option String}
    {r : List Setting × Pending} (h : readLong scope settled pending name value = .ok r) :
    ∃ o, name = o.longName ∧ scope.knows o = true := by
  cases ho : scope.longOption? name with
  | some o => exact ⟨o, Scope.longOption?_eq_some_iff.1 ho⟩
  | none =>
    unfold readLong at h
    rw [ho] at h
    split at h
    · rename_i hn
      exact absurd hn (by simp)
    · rename_i hn
      exact absurd hn (by simp)
    · exact absurd h (by simp)
    · exact absurd h (by simp)
    · exact absurd h (by simp)

theorem readLong_eq_ok_iff {o : Opt} (hk : scope.knows o = true) {value : Option String}
    {r : List Setting × Pending} :
    readLong scope settled pending o.longName value = .ok r ↔
      ∃ done, pending.close settled = .ok done ∧ Reads o done value r := by
  unfold readLong
  rw [Scope.longOption?_longName, if_pos hk]
  cases value with
  | some v =>
    simp only
    cases ht : o.takesValue with
    | true =>
      simp only [if_true, bind_eq_ok_iff, mapError_eq_ok_iff]
      constructor
      · rintro ⟨done, hc, after, hs, hr⟩
        cases hr
        exact ⟨done, hc, .attached ht hs⟩
      · rintro ⟨done, hc, hr⟩
        cases hr with
        | attached _ hs => exact ⟨done, hc, _, hs, rfl⟩
    | false =>
      simp only [Bool.false_eq_true, if_false, reduceCtorEq, false_iff]
      rintro ⟨done, hc, hr⟩
      cases hr with
      | attached h _ => exact absurd h (by simp [ht])
  | none =>
    simp only
    cases ht : o.takesValue with
    | true =>
      simp only [if_true, bind_eq_ok_iff, mapError_eq_ok_iff]
      constructor
      · rintro ⟨done, hc, hr⟩
        cases hr
        exact ⟨done, hc, .opened ht⟩
      · rintro ⟨done, hc, hr⟩
        cases hr with
        | opened _ => exact ⟨done, hc, rfl⟩
        | flag h _ => exact absurd h (by simp [ht])
    | false =>
      simp only [Bool.false_eq_true, if_false, bind_eq_ok_iff, mapError_eq_ok_iff]
      constructor
      · rintro ⟨done, hc, after, hs, hr⟩
        cases hr
        exact ⟨done, hc, .flag ht hs⟩
      · rintro ⟨done, hc, hr⟩
        cases hr with
        | opened h => exact absurd h (by simp [ht])
        | flag _ hs => exact ⟨done, hc, _, hs, rfl⟩

theorem scan_long {argument name : String} {value : Option String}
    (h : Token.ofString argument = .long name value) (rest : List String) :
    scan scope settled pending (argument :: rest) =
      readLong scope settled pending name value >>= fun r => scan scope r.1 r.2 rest := by
  rw [scan, h]

theorem scan_value {o : Opt} {value : String} (hw : IsWord value) (rest : List String) :
    scan scope settled (.waiting o) (value :: rest) = scan scope settled (.held o value) rest := by
  rw [scan, Token.ofString_eq_iff.2 (.word hw)]

/-! ## Scanning what is written -/

/-- **A scan goes through a spelled option.** Behind it the option is settled, or its value is held
and can be. -/
theorem scan_spelled (h : Spelled occ ts) (hk : scope.knows occ.option = true)
    (hc : pending.close settled = .ok done)
    (hs : settle done occ.option occ.value = .ok after) :
    ∃ settled' pending', pending'.close settled' = .ok after ∧
      ∀ rest, scan scope settled pending (ts ++ rest) = scan scope settled' pending' rest := by
  cases h with
  | @attached o ht value =>
    refine ⟨after, .nothing, rfl, fun rest => ?_⟩
    rw [List.singleton_append, scan_long (o.ofString_attached value),
      (readLong_eq_ok_iff hk).2 ⟨done, hc, .attached ht hs⟩]
    rfl
  | @apart o value ht hw =>
    refine ⟨done, .held o value, hs, fun rest => ?_⟩
    rw [List.cons_append, List.singleton_append, scan_long o.ofString_longName,
      (readLong_eq_ok_iff hk).2 ⟨done, hc, .opened ht⟩]
    exact scan_value hw rest
  | @flag o ht =>
    refine ⟨after, .nothing, rfl, fun rest => ?_⟩
    rw [List.singleton_append, scan_long o.ofString_longName,
      (readLong_eq_ok_iff hk).2 ⟨done, hc, .flag ht hs⟩]
    rfl

/-- A scan goes through written options. -/
theorem scan_written (h : Written os ts) (hk : ∀ o ∈ os, scope.knows o.option = true)
    (hc : pending.close settled = .ok done) (hs : settleAll done os = .ok after) :
    ∃ settled' pending', pending'.close settled' = .ok after ∧
      ∀ rest, scan scope settled pending (ts ++ rest) = scan scope settled' pending' rest := by
  induction h generalizing settled pending done with
  | nil =>
    refine ⟨settled, pending, ?_, fun rest => rfl⟩
    rw [hc, ← hs]
    rfl
  | @cons o os ts more ho _ ih =>
    obtain ⟨next, hn, hrest⟩ := settleAll_cons.1 hs
    obtain ⟨settled₁, pending₁, hc₁, hscan₁⟩ :=
      scan_spelled ho (hk o List.mem_cons_self) hc hn
    obtain ⟨settled₂, pending₂, hc₂, hscan₂⟩ :=
      ih (fun b hb => hk b (List.mem_cons_of_mem _ hb)) hc₁ hrest
    refine ⟨settled₂, pending₂, hc₂, fun rest => ?_⟩
    rw [List.append_assoc, hscan₁, hscan₂]

/-- The arguments at which a scan stops. -/
def Stop.arguments : Stop → List String
  | finished => []
  | escaped rest => "--" :: rest
  | word text rest => text :: rest

/-- Where a scan stops at all: at a word, not at any other argument. -/
def Stop.Stops : Stop → Prop
  | word text _ => IsWord text
  | _ => True

theorem scan_stop (hstop : stop.Stops) (hc : pending.close settled = .ok after) :
    scan scope settled pending stop.arguments = .ok (settled, pending, stop) := by
  cases stop with
  | finished => rfl
  | escaped rest => rw [Stop.arguments, scan, Token.ofString_eq_iff.2 .escape]
  | word text rest =>
    rw [Stop.arguments, scan, Token.ofString_eq_iff.2 (.word hstop)]
    cases pending with
    | waiting o => exact absurd hc (by simp [Pending.close])
    | nothing => rfl
    | held o v => rfl

/-- **A scan of written options stops where they end**, and all of them can be settled. -/
theorem scan_of_written (h : Written os ts) (hk : ∀ o ∈ os, scope.knows o.option = true)
    (hs : settleAll [] os = .ok after) (stop : Stop) (hstop : stop.Stops) :
    ∃ settled pending,
      scan scope [] .nothing (ts ++ stop.arguments) = .ok (settled, pending, stop) ∧
        pending.close settled = .ok after := by
  obtain ⟨settled, pending, hc, hscan⟩ := scan_written h hk (close_nothing []) hs
  exact ⟨settled, pending, by rw [hscan, scan_stop hstop hc], hc⟩

/-! ## What a scan has taken -/

/-- The arguments of the pending option, if its value is still to come. -/
def Pending.begun : Pending → List String
  | waiting o => ["--" ++ o.longName]
  | _ => []

/-- What is settled in front of the option whose value is still to come. -/
def Pending.closeBefore (settled : List Setting) : Pending → Except UsageError (List Setting)
  | waiting _ => .ok settled
  | pending => pending.close settled

/-- The option whose value is still to come belongs to the scope and takes one. -/
def Pending.Fits (scope : Scope) : Pending → Prop
  | waiting o => scope.knows o = true ∧ o.takesValue = true
  | _ => True

theorem closeBefore_of_close (h : pending.close settled = .ok done) :
    pending.closeBefore settled = .ok done ∧ pending.begun = [] := by
  cases pending with
  | waiting o => exact absurd h (by simp [Pending.close])
  | nothing => exact ⟨h, rfl⟩
  | held o v => exact ⟨h, rfl⟩

/-- **What a scan takes up to its stop**: options written one after the other, which are settled. An
option whose value is still to come is counted among them. -/
def Takes (scope : Scope) (settled : List Setting) (pending : Pending) (args : List String)
    (stop : Stop) (after : List Setting) : Prop :=
  ∃ done os ts, pending.closeBefore settled = .ok done ∧
    pending.begun ++ args = ts ++ stop.arguments ∧ Written os ts ∧
    (∀ o ∈ os, scope.knows o.option = true) ∧ settleAll done os = .ok after

/-- Where a scan stops nothing more is taken. -/
theorem takes_of_close (stop : Stop) (h : pending.close settled = .ok after) :
    Takes scope settled pending stop.arguments stop after := by
  obtain ⟨hbefore, hbegun⟩ := closeBefore_of_close h
  exact ⟨after, [], [], hbefore, by rw [hbegun], .nil, by simp, rfl⟩

/-- In front of what is taken, a long option is taken too. -/
theorem takes_of_reads {argument : String} {o : Opt} {value : Option String}
    {r : List Setting × Pending} (hk : scope.knows o = true)
    (hclose : pending.close settled = .ok done) (hreads : Reads o done value r)
    (hform : Token.HasForm argument (.long o.longName value))
    (h : Takes scope r.1 r.2 rest stop after) :
    Takes scope settled pending (argument :: rest) stop after := by
  obtain ⟨hbefore, hbegun⟩ := closeBefore_of_close hclose
  obtain ⟨next, os, ts, hd, hargs, hw, hks, hrest⟩ := h
  unfold Takes
  rw [hbegun, List.nil_append]
  cases hreads with
  | @attached v _ hto hs =>
    obtain rfl := Except.ok.inj hd
    cases hform
    refine ⟨done, { option := o, value := v } :: os, _, hbefore, ?_, .cons (.attached hto v) hw,
      List.forall_mem_cons.2 ⟨hk, hks⟩, settleAll_cons.2 ⟨_, hs, hrest⟩⟩
    rw [List.append_assoc, ← hargs]
    rfl
  | opened hto =>
    -- The option is counted already: its value is still to come.
    obtain rfl := Except.ok.inj hd
    cases hform
    exact ⟨_, os, ts, hbefore, hargs, hw, hks, hrest⟩
  | flag hto hs =>
    obtain rfl := Except.ok.inj hd
    cases hform
    refine ⟨done, { option := o } :: os, _, hbefore, ?_, .cons (.flag hto) hw,
      List.forall_mem_cons.2 ⟨hk, hks⟩, settleAll_cons.2 ⟨_, hs, hrest⟩⟩
    rw [List.append_assoc, ← hargs]
    rfl

/-- In front of what is taken, the value that an option waits for is taken too. -/
theorem takes_of_value {o : Opt} {value : String} (hfit : (Pending.waiting o).Fits scope)
    (hword : IsWord value) (h : Takes scope settled (.held o value) rest stop after) :
    Takes scope settled (.waiting o) (value :: rest) stop after := by
  obtain ⟨next, os, ts, hd, hargs, hw, hks, hrest⟩ := h
  refine ⟨settled, { option := o, value } :: os, _, rfl, ?_, .cons (.apart hfit.2 hword) hw,
    List.forall_mem_cons.2 ⟨hfit.1, hks⟩, settleAll_cons.2 ⟨next, hd, hrest⟩⟩
  rw [List.append_assoc, ← hargs]
  rfl

theorem fits_of_reads {o : Opt} (hk : scope.knows o = true) {value : Option String}
    {r : List Setting × Pending} (h : Reads o done value r) : r.2.Fits scope := by
  cases h with
  | attached _ _ => trivial
  | opened hto => exact ⟨hk, hto⟩
  | flag _ _ => trivial

/-- Each argument that a scan takes belongs to an option that it settles. -/
theorem takes_of_scan (hfit : pending.Fits scope)
    (h : scan scope settled pending args = .ok (settled', pending', stop))
    (hc : pending'.close settled' = .ok after) :
    Takes scope settled pending args stop after := by
  induction args generalizing settled pending with
  | nil =>
    rw [scan, Except.ok.injEq, Prod.mk.injEq, Prod.mk.injEq] at h
    obtain ⟨rfl, rfl, rfl⟩ := h
    exact takes_of_close .finished hc
  | cons argument rest ih =>
    cases ht : Token.ofString argument with
    | escape =>
      rw [scan, ht] at h
      simp only [Except.ok.injEq, Prod.mk.injEq] at h
      obtain ⟨rfl, rfl, rfl⟩ := h
      cases Token.ofString_eq_iff.1 ht
      exact takes_of_close (.escaped rest) hc
    | short letter =>
      rw [scan, ht] at h
      simp only at h
      split at h <;> exact absurd h (by simp)
    | long name value =>
      rw [scan_long ht, bind_eq_ok_iff] at h
      obtain ⟨⟨settled₁, pending₁⟩, hread, h⟩ := h
      obtain ⟨o, rfl, hk⟩ := exists_option_of_readLong hread
      obtain ⟨done, hclose, hreads⟩ := (readLong_eq_ok_iff hk).1 hread
      exact takes_of_reads hk hclose hreads (Token.ofString_eq_iff.1 ht)
        (ih (fits_of_reads hk hreads) h)
    | word text =>
      cases Token.ofString_eq_iff.1 ht with
      | word hword =>
      rw [scan, ht] at h
      simp only at h
      split at h
      · rename_i o
        have hheld : (Pending.held o argument).Fits scope := trivial
        exact takes_of_value hfit hword (ih hheld h)
      · simp only [Except.ok.injEq, Prod.mk.injEq] at h
        obtain ⟨rfl, rfl, rfl⟩ := h
        exact takes_of_close (.word argument rest) hc

/-- **What a scan from the start takes is written for what it settles.** -/
theorem written_of_scan
    (h : scan scope [] .nothing args = .ok (settled', pending', stop))
    (hc : pending'.close settled' = .ok after) :
    ∃ os ts, args = ts ++ stop.arguments ∧ Written os ts ∧
      (∀ o ∈ os, scope.knows o.option = true) ∧ settleAll [] os = .ok after := by
  have hnothing : Pending.nothing.Fits scope := trivial
  obtain ⟨_, os, ts, hd, hargs, hw, hk, hs⟩ := takes_of_scan hnothing h hc
  obtain rfl := Except.ok.inj hd
  exact ⟨os, ts, hargs, hw, hk, hs⟩

end CommandLine

end CmakeDriver
