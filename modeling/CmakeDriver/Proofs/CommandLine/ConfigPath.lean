import CmakeDriver.Proofs.CommandLine.Parse

/-!
# The path of the configuration on either side of the subcommand

A scan takes an option by what is settled of that option and of no other. So a path of the
configuration that is settled first changes nothing for arguments that name none: they are accepted
or refused as before, for the same reason, and leave the same settings behind that path. It is all
the same then whether the path stands in front of the subcommand or right behind it.

Results:
* `settle_front`, `close_front`, `readLong_front`: settings of other options do not matter to one
  option.
* `scan_finish_front`: they do not matter to a whole scan, be it accepted or refused.
* `option_ne_of_parseInner`: arguments that do not name an option leave no setting of it.
* `config_on_either_side`: a path in front of the subcommand, behind it, on both sides, and twice.
-/

namespace CmakeDriver

namespace CommandLine

variable {scope : Scope} {front settled : List Setting} {pending : Pending} {o : Opt}
  {value : String} {args rest : List String} {s : Subcommand}

/-! ## Settings of other options -/

/-- No setting is one of this option. -/
def Apart (front : List Setting) (o : Opt) : Prop :=
  ∀ x ∈ front, x.option ≠ o

/-- The option that is pending. -/
def Pending.option? : Pending → Option Opt
  | nothing => none
  | waiting o => some o
  | held o _ => some o

theorem settle_front (h : Apart front o) :
    settle (front ++ settled) o value = (settle settled o value).map (front ++ ·) := by
  have hnone : front.any (fun x => decide (x.option = o)) = false := by
    simpa [Apart] using h
  unfold settle
  rw [List.any_append, hnone, Bool.false_or]
  split
  · rfl
  · cases Setting.ofValue o value with
    | error reason => rfl
    | ok x => simp [Except.map]

theorem close_front (h : ∀ o ∈ pending.option?, Apart front o) :
    pending.close (front ++ settled) = (pending.close settled).map (front ++ ·) := by
  cases pending with
  | nothing => rfl
  | waiting o => rfl
  | held o value => exact settle_front (h o rfl)

theorem ask_front (h : ∀ o ∈ pending.option?, Apart front o) (q : Question) :
    ask scope (front ++ settled) pending q = ask scope settled pending q := by
  unfold ask
  rw [close_front h]
  cases pending.close settled <;> rfl

/-- Settles the pending option, and another one with its value behind it. -/
def settleBehind (settled : List Setting) (pending : Pending) (o : Opt) (value : String) :
    Except Refusal (List Setting × Pending) := do
  let done ← (pending.close settled).mapError .usage
  let after ← (settle done o value).mapError .usage
  pure (after, .nothing)

theorem settleBehind_front (h : ∀ o ∈ pending.option?, Apart front o) (ho : Apart front o) :
    settleBehind (front ++ settled) pending o value =
      (settleBehind settled pending o value).map fun r => (front ++ r.1, r.2) := by
  unfold settleBehind
  rw [close_front h]
  cases pending.close settled with
  | error e => rfl
  | ok done =>
    have hsettle : settle (front ++ done) o value =
        (settle done o value).map (front ++ ·) := settle_front ho
    cases hs : settle done o value with
    | error e =>
      rw [hs] at hsettle
      simp only [Except.map, Except.mapError, bind, Except.bind, hsettle, hs]
    | ok after =>
      rw [hs] at hsettle
      simp only [Except.map, Except.mapError, bind, Except.bind, hsettle, hs]
      rfl

/-- **A long option is read the same** behind settings of other options. -/
theorem readLong_front {name : String} (h : ∀ o ∈ pending.option?, Apart front o)
    (hname : ∀ o, o.longName = name → Apart front o) (value : Option String) :
    readLong scope (front ++ settled) pending name value =
      (readLong scope settled pending name value).map fun r => (front ++ r.1, r.2) := by
  unfold readLong
  cases hlong : scope.longOption? name with
  | none =>
    cases scope.longQuestion? name with
    | none => rfl
    | some q =>
      cases value with
      | none => simp only [ask_front h, Except.map]
      | some v => rfl
  | some o =>
    have ho : Apart front o := hname o (Scope.longOption?_eq_some_iff.1 hlong).1.symm
    cases value with
    | some v =>
      cases ht : o.takesValue with
      | true =>
        simp only [ht, if_true]
        exact settleBehind_front h ho
      | false => simp only [ht, Bool.false_eq_true, if_false, Except.map]
    | none =>
      cases ht : o.takesValue with
      | true =>
        simp only [ht, if_true, close_front h]
        cases pending.close settled <;> rfl
      | false =>
        simp only [ht, Bool.false_eq_true, if_false]
        exact settleBehind_front h ho

theorem apart_of_readLong {name : String} {value : Option String} {r : List Setting × Pending}
    (hname : ∀ o, o.longName = name → Apart front o)
    (h : readLong scope settled pending name value = .ok r) :
    ∀ o ∈ r.2.option?, Apart front o := by
  obtain ⟨o, rfl, hk⟩ := exists_option_of_readLong h
  obtain ⟨done, -, hreads⟩ := (readLong_eq_ok_iff hk).1 h
  rintro o' ho'
  cases hreads with
  | attached _ _ => exact absurd ho' (by simp [Pending.option?])
  | opened _ =>
    obtain rfl : o = o' := Option.some.inj ho'
    exact hname o rfl
  | flag _ _ => exact absurd ho' (by simp [Pending.option?])

/-! ## Whole scans -/

/-- An option is not named by any argument, neither alone nor with a value attached. -/
def Unnamed (o : Opt) (args : List String) : Prop :=
  ∀ a ∈ args, a ≠ "--" ++ o.longName ∧ ∀ value, a ≠ "--" ++ o.longName ++ "=" ++ value

theorem Unnamed.longName_ne {argument name : String} {value : Option String}
    (h : Unnamed o (argument :: rest)) (ht : Token.ofString argument = .long name value) :
    o.longName ≠ name := by
  rintro rfl
  obtain ⟨halone, hattached⟩ := h argument List.mem_cons_self
  cases Token.ofString_eq_iff.1 ht with
  | attached _ => exact hattached _ rfl
  | name _ _ => exact halone rfl

/-- What becomes of a scan behind a subcommand, where no word may stand. -/
def finish : List Setting × Pending × Stop → Except Refusal (List Setting)
  | (settled, pending, stop) =>
    match stop with
    | .finished | .escaped [] => (pending.close settled).mapError .usage
    | .escaped (text :: _) => .error (.usage (.unknownArgument text))
    | .word text _ => .error (.usage (.unknownArgument text))

theorem parseInner_eq (s : Subcommand) (args : List String) :
    parseInner s args = scan s.scope [] .nothing args >>= finish := rfl

theorem finish_close_front (h : ∀ o ∈ pending.option?, Apart front o) :
    finish (front ++ settled, pending, .finished) =
      (finish (settled, pending, .finished)).map (front ++ ·) := by
  simp only [finish, close_front h]
  cases pending.close settled <;> rfl

/-- **A scan goes on behind settings of an option that is not named** as it does without them, be it
accepted or refused. -/
theorem scan_finish_front (hfront : ∀ o', o' ≠ o → Apart front o') (hargs : Unnamed o args)
    (h : ∀ o' ∈ pending.option?, Apart front o') :
    scan scope (front ++ settled) pending args >>= finish =
      (scan scope settled pending args >>= finish).map (front ++ ·) := by
  induction args generalizing settled pending with
  | nil => exact finish_close_front h
  | cons argument rest ih =>
    have hrest : Unnamed o rest := fun a ha => hargs a (List.mem_cons_of_mem _ ha)
    cases ht : Token.ofString argument with
    | escape =>
      rw [scan, scan, ht]
      cases rest with
      | nil => exact finish_close_front h
      | cons text more => rfl
    | short letter =>
      rw [scan, scan, ht]
      simp only
      split
      · rw [ask_front h]
        rfl
      · rfl
    | long name value =>
      have hname : ∀ o', o'.longName = name → Apart front o' := by
        rintro o' rfl
        refine hfront o' fun he => hargs.longName_ne ht (by rw [he])
      rw [scan_long ht, scan_long ht, readLong_front h hname]
      cases hr : readLong scope settled pending name value with
      | error e => rfl
      | ok r =>
        have hpending := apart_of_readLong hname hr
        exact ih hrest hpending
    | word text =>
      rw [scan, scan, ht]
      cases pending with
      | waiting o' => exact ih hrest h
      | nothing => rfl
      | held o' value => rfl

/-- What is named among arguments that write options. -/
theorem not_unnamed_of_written {os : List Occurrence} {ts : List String} (h : Written os ts) :
    ∀ occ ∈ os, ¬ Unnamed occ.option ts := by
  induction h with
  | nil => exact fun occ hm => absurd hm List.not_mem_nil
  | @cons occ os ts rest hs _ ih =>
    intro occ' hm hu
    rcases List.mem_cons.1 hm with rfl | hm
    · cases hs with
      | @attached o _ value => exact (hu _ (by simp)).2 value rfl
      | apart _ _ => exact (hu _ (by simp)).1 rfl
      | flag _ => exact (hu _ (by simp)).1 rfl
    · exact ih occ' hm fun a ha => hu a (List.mem_append_right _ ha)

theorem exists_makes_of_mem {os : List Occurrence} {ss : List Setting}
    (h : List.Forall₂ Makes os ss) : ∀ x ∈ ss, ∃ occ ∈ os, Makes occ x := by
  induction h with
  | nil => exact fun x hx => absurd hx List.not_mem_nil
  | @cons occ y os ss hm _ ih =>
    intro x hx
    rcases List.mem_cons.1 hx with rfl | hx
    · exact ⟨occ, List.mem_cons_self, hm⟩
    · obtain ⟨occ', hocc, hmake⟩ := ih x hx
      exact ⟨occ', List.mem_cons_of_mem _ hocc, hmake⟩

/-- **Arguments that do not name an option leave no setting of it.** -/
theorem option_ne_of_parseInner {inner : List Setting} (h : parseInner s args = .ok inner)
    (hargs : Unnamed o args) : ∀ x ∈ inner, x.option ≠ o := by
  obtain ⟨os, ts, tail, rfl, -, hw, -, hs⟩ := parseInner_eq_ok_iff.1 h
  obtain ⟨hmakes, -⟩ := settleAll_nil_eq_ok_iff.1 hs
  rintro x hx rfl
  obtain ⟨occ, hocc, hmake⟩ := exists_makes_of_mem hmakes x hx
  refine not_unnamed_of_written hw occ hocc fun a ha => ?_
  rw [← hmake.option_eq]
  exact hargs a (List.mem_append_left _ ha)

/-! ## Both sides of the subcommand -/

theorem map_map {α β γ : Type} (x : Except Refusal α) (f : α → β) (g : β → γ) :
    (x.map f).map g = x.map fun a => g (f a) := by
  cases x <;> rfl

/-- Behind the program's own options stands a subcommand. -/
theorem parse_of_scan {outer : List Setting} (s : Subcommand)
    (h : scan .top [] .nothing args = .ok (outer, .nothing, .word s.name rest)) :
    parse args = (parseInner s rest).map fun inner => .ofSettings outer (some (s, inner)) := by
  unfold parse
  rw [h]
  simp only [bind, Except.bind, s.name_ne_help, if_false, Subcommand.ofName?_name, close_nothing]
  cases parseInner s rest <;> rfl

theorem scan_name (s : Subcommand) (outer : List Setting) (rest : List String) :
    scan .top outer .nothing (s.name :: rest) = .ok (outer, .nothing, .word s.name rest) := by
  rw [scan, Token.ofString_eq_iff.2 (.word s.isWord_name)]

theorem parse_name (s : Subcommand) (rest : List String) :
    parse (s.name :: rest) =
      (parseInner s rest).map fun inner => .ofSettings [] (some (s, inner)) :=
  parse_of_scan s (scan_name s [] rest)

theorem Opt.attached_config : "--" ++ Opt.config.longName ++ "=" = "--config=" := by
  decide

theorem ofString_path (path : String) :
    Token.ofString ("--config=" ++ path) = .long Opt.config.longName (some path) := by
  rw [← Opt.attached_config]
  exact Opt.config.ofString_attached path

/-- A path of the configuration is taken at once where none is settled. -/
theorem scan_path (scope : Scope) (path : String) (args : List String) :
    scan scope [] .nothing (("--config=" ++ path) :: args) =
      scan scope [.config path] .nothing args := by
  have hknows : scope.knows .config = true := by cases scope <;> rfl
  have hread : readLong scope [] .nothing Opt.config.longName (some path) =
      .ok ([.config path], .nothing) :=
    (readLong_eq_ok_iff hknows).2 ⟨[], rfl, .attached rfl rfl⟩
  rw [scan_long (ofString_path path), hread]
  rfl

theorem parse_path_name (s : Subcommand) (path : String) (rest : List String) :
    parse (("--config=" ++ path) :: s.name :: rest) =
      (parseInner s rest).map fun inner => .ofSettings [.config path] (some (s, inner)) := by
  refine parse_of_scan s ?_
  rw [scan_path, scan_name]

theorem parseInner_path {path : String} (hrest : Unnamed .config rest) :
    parseInner s (("--config=" ++ path) :: rest) =
      (parseInner s rest).map ([.config path] ++ ·) := by
  have hfront : ∀ o, o ≠ .config → Apart [.config path] o := by
    rintro o ho x hx rfl
    rw [List.mem_singleton.1 hx] at ho
    exact ho rfl
  have hnothing : ∀ o ∈ Pending.nothing.option?, Apart [.config path] o :=
    fun o ho => absurd ho (by simp [Pending.option?])
  rw [parseInner_eq, parseInner_eq, scan_path]
  show scan s.scope ([.config path] ++ []) .nothing rest >>= finish = _
  exact scan_finish_front hfront hrest hnothing

/-- A second path of the configuration is refused where one is settled. -/
theorem parseInner_path_path (s : Subcommand) (path path' : String) (rest : List String) :
    parseInner s (("--config=" ++ path) :: ("--config=" ++ path') :: rest) =
      .error (.usage (.repeated .config)) := by
  have hread : readLong s.scope [.config path] .nothing Opt.config.longName (some path') =
      .error (.usage (.repeated .config)) := by
    cases s <;> rfl
  rw [parseInner_eq, scan_path, scan_long (ofString_path path'), hread]
  rfl

/-! ## The invocation -/

/-- Settings of a path are no part of the command. -/
theorem command_path (s : Subcommand) (path : String) (inner : List Setting) :
    s.command (.config path :: inner) = s.command inner := by
  cases s <;> simp [Subcommand.command, Setting.configuration?, Setting.buildFolder?,
    Setting.toolchain?, Setting.envPairs]

theorem config?_of_last {before inner : List Setting} {path : String}
    (h : ∀ x ∈ inner, x.option ≠ .config) :
    Setting.config? (before ++ .config path :: inner) = some path := by
  have hnone : Setting.config? inner = none := by
    refine List.findSome?_eq_none_iff.2 fun x hx => ?_
    have hx := h x (List.mem_reverse.1 hx)
    cases x with
    | config path => exact absurd rfl hx
    | _ => rfl
  unfold Setting.config? at hnone ⊢
  rw [List.reverse_append, List.reverse_cons, List.findSome?_append, List.findSome?_append, hnone]
  rfl

/-- **The last path of the configuration is the invocation's**, and nothing else depends on it. -/
theorem ofSettings_path {inner : List Setting} (before : List Setting) (s : Subcommand)
    (path : String) (h : ∀ x ∈ inner, x.option ≠ .config) :
    Invocation.ofSettings before (some (s, .config path :: inner)) =
      { Invocation.ofSettings [] (some (s, inner)) with config := path } := by
  simp only [Invocation.ofSettings, Option.map_some, Option.getD_some, config?_of_last h,
    command_path]

/-- A path settled in front of the subcommand is as good as one settled first behind it. -/
theorem ofSettings_front (s : Subcommand) (path : String) (inner : List Setting) :
    Invocation.ofSettings [.config path] (some (s, inner)) =
      Invocation.ofSettings [] (some (s, .config path :: inner)) := by
  simp only [Invocation.ofSettings, Option.map_some, Option.getD_some, command_path]
  rfl

/-- What follows the last path of the configuration decides on all but that path. -/
theorem parse_before_path (s : Subcommand) (path : String) (hrest : Unnamed .config rest)
    (before : List Setting) :
    ((parseInner s rest).map fun inner =>
        Invocation.ofSettings before (some (s, .config path :: inner))) =
      (parse (s.name :: rest)).map fun i => { i with config := path } := by
  rw [parse_name]
  cases hi : parseInner s rest with
  | error e => rfl
  | ok inner =>
    exact congrArg Except.ok (ofSettings_path before s path (option_ne_of_parseInner hi hrest))

/-- **The path of the configuration may stand on either side of the subcommand.** Where no argument
behind names one, a path in front of the subcommand and one right behind it have the same answer,
be it an invocation or a refusal: that to the command line without a path, with this path in it.
With a path on each side the one behind counts, and of two behind the second is refused. -/
theorem config_on_either_side (s : Subcommand) (path path' : String) {rest : List String}
    (hrest : ∀ a ∈ rest, a ≠ "--config" ∧ ∀ value, a ≠ "--config=" ++ value) :
    parse (["--config=" ++ path, s.name] ++ rest) =
      parse ([s.name, "--config=" ++ path] ++ rest) ∧
    parse ([s.name, "--config=" ++ path] ++ rest) =
      ((parse ([s.name] ++ rest)).map fun i => { i with config := path }) ∧
    parse (["--config=" ++ path, s.name, "--config=" ++ path'] ++ rest) =
      ((parse ([s.name] ++ rest)).map fun i => { i with config := path' }) ∧
    parse ([s.name, "--config=" ++ path, "--config=" ++ path'] ++ rest) =
      .error (.usage (.repeated .config)) := by
  have hunnamed : Unnamed .config rest := by
    have halone : "--" ++ Opt.config.longName = "--config" := by decide
    unfold Unnamed
    rwa [Opt.attached_config, halone]
  have houter : parse (["--config=" ++ path, s.name] ++ rest) =
      (parse ([s.name] ++ rest)).map fun i => { i with config := path } := by
    rw [List.cons_append, List.singleton_append, parse_path_name]
    simp only [ofSettings_front]
    exact parse_before_path s path hunnamed []
  have hinner : parse ([s.name, "--config=" ++ path] ++ rest) =
      (parse ([s.name] ++ rest)).map fun i => { i with config := path } := by
    rw [List.cons_append, List.singleton_append, parse_name, parseInner_path hunnamed,
      map_map]
    exact parse_before_path s path hunnamed []
  have hboth : parse (["--config=" ++ path, s.name, "--config=" ++ path'] ++ rest) =
      (parse ([s.name] ++ rest)).map fun i => { i with config := path' } := by
    rw [List.cons_append, List.cons_append, List.singleton_append, parse_path_name,
      parseInner_path hunnamed, map_map]
    exact parse_before_path s path' hunnamed [.config path]
  refine ⟨houter.trans hinner.symm, hinner, hboth, ?_⟩
  rw [List.cons_append, List.cons_append, List.singleton_append, parse_name, parseInner_path_path]
  rfl

/-- A value that looks like a path of the configuration is none. -/
def oddRest : List String :=
  ["--env", "CC=--config=x", "--toolchain", "build", "--verbose"]

/-- With odd values behind them an odd path and the empty one have the same answer on either side,
and the one behind the subcommand counts. -/
theorem oddRest_either_side :
    (∀ a ∈ oddRest, a ≠ "--config" ∧ ∀ value, a ≠ "--config=" ++ value) ∧
    parse (["--config=-", "configure"] ++ oddRest) =
      parse (["configure", "--config=-"] ++ oddRest) ∧
    parse (["--config=-", "configure", "--config="] ++ oddRest) =
      .ok { config := "", command := some (.configure {
        toolchain := some "build", verbose := true, env := [("CC", "--config=x")] }) } := by
  have hrest : ∀ a ∈ oddRest, a ≠ "--config" ∧ ∀ value, a ≠ "--config=" ++ value := by
    have hfirst : ∀ a ∈ oddRest, a ≠ "--config" ∧ a.toList.take 9 ≠ "--config=".toList := by
      decide
    intro a ha
    refine ⟨(hfirst a ha).1, fun value he => (hfirst a ha).2 ?_⟩
    rw [he]
    simp
  obtain ⟨heither, -, hboth, -⟩ := config_on_either_side .configure "-" "" hrest
  exact ⟨hrest, heither, hboth.trans (by decide)⟩

end CommandLine

end CmakeDriver
