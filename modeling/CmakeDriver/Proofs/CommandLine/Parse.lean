import CmakeDriver.Proofs.CommandLine.Written

/-!
# Command lines, written and parsed

A command line is a path of the configuration at most, a subcommand, its options in any order, and a
lone `--` at most. The parser accepts exactly these, and each argument of what it accepts is
accounted for in its answer.

Results:
* `parse_eq_ok_iff_parts`: parsing is scanning the two scopes.
* `accounted_of_parse`: an accepted command line leaves no argument out.
* `parse_of_accounted`: a command line whose arguments are accounted for is accepted.
* `parse_written`: so a command can be written with its options in any order.
-/

namespace CmakeDriver

namespace CommandLine

variable {args : List String}

/-- The ends that a command line may have behind its options. -/
inductive Closing : List String → Prop
  | finished : Closing []
  | dashes : Closing ["--"]

/-! ## The two scopes -/

theorem Subcommand.eq_name_of_ofName? {word : String} {s : Subcommand}
    (h : Subcommand.ofName? word = some s) : word = s.name := by
  have hn : s.name = word := by simpa using List.find?_some h
  exact hn.symm

theorem Subcommand.name_ne_help (s : Subcommand) : s.name ≠ helpWord := by
  cases s <;> decide

theorem Subcommand.isWord_name (s : Subcommand) : IsWord s.name := by
  cases s <;> exact Or.inl (by decide)

theorem parseInner_eq_ok_iff {s : Subcommand} {ss : List Setting} :
    parseInner s args = .ok ss ↔
      ∃ os ts tail, args = ts ++ tail ∧ Closing tail ∧ Written os ts ∧
        (∀ o ∈ os, s.scope.knows o.option = true) ∧ settleAll [] os = .ok ss := by
  constructor
  · intro h
    unfold parseInner at h
    obtain ⟨⟨settled, pending, stop⟩, hscan, h⟩ := bind_eq_ok_iff.1 h
    simp only at h
    split at h
    · obtain ⟨os, ts, hargs, hw, hk, hs⟩ := written_of_scan hscan (mapError_eq_ok_iff.1 h)
      exact ⟨os, ts, [], hargs, .finished, hw, hk, hs⟩
    · obtain ⟨os, ts, hargs, hw, hk, hs⟩ := written_of_scan hscan (mapError_eq_ok_iff.1 h)
      exact ⟨os, ts, ["--"], hargs, .dashes, hw, hk, hs⟩
    · exact absurd h (by simp)
    · exact absurd h (by simp)
  · rintro ⟨os, ts, tail, rfl, hclosing, hw, hk, hs⟩
    unfold parseInner
    rw [bind_eq_ok_iff]
    cases hclosing with
    | finished =>
      obtain ⟨settled, pending, hscan, hc⟩ := scan_of_written hw hk hs .finished trivial
      exact ⟨_, hscan, mapError_eq_ok_iff.2 hc⟩
    | dashes =>
      obtain ⟨settled, pending, hscan, hc⟩ := scan_of_written hw hk hs (.escaped []) trivial
      exact ⟨_, hscan, mapError_eq_ok_iff.2 hc⟩

/-- **What stands in the two scopes of a command line**, with the settings on either side of the
subcommand. -/
inductive Parts : List String → List Setting → Option (Subcommand × List Setting) → Prop
  | alone {os : List Occurrence} {ts tail : List String} {outer : List Setting}
      (hw : Written os ts) (hk : ∀ o ∈ os, Scope.top.knows o.option = true)
      (hs : settleAll [] os = .ok outer) (ht : Closing tail) : Parts (ts ++ tail) outer none
  | command {os : List Occurrence} {ts rest : List String} {outer inner : List Setting}
      {s : Subcommand} (hw : Written os ts) (hk : ∀ o ∈ os, Scope.top.knows o.option = true)
      (hs : settleAll [] os = .ok outer) (hi : parseInner s rest = .ok inner) :
      Parts (ts ++ s.name :: rest) outer (some (s, inner))

/-- **Parsing is scanning the two scopes.** -/
theorem parse_eq_ok_iff_parts {invocation : Invocation} :
    parse args = .ok invocation ↔
      ∃ outer inner, Parts args outer inner ∧ invocation = .ofSettings outer inner := by
  constructor
  · intro h
    unfold parse at h
    obtain ⟨⟨settled, pending, stop⟩, hscan, h⟩ := bind_eq_ok_iff.1 h
    simp only at h
    split at h
    · obtain ⟨outer, hc, hout⟩ := bind_eq_ok_iff.1 h
      obtain ⟨os, ts, rfl, hw, hk, hs⟩ := written_of_scan hscan (mapError_eq_ok_iff.1 hc)
      exact ⟨outer, none, .alone hw hk hs .finished, (Except.ok.inj hout).symm⟩
    · obtain ⟨outer, hc, hout⟩ := bind_eq_ok_iff.1 h
      obtain ⟨os, ts, rfl, hw, hk, hs⟩ := written_of_scan hscan (mapError_eq_ok_iff.1 hc)
      exact ⟨outer, none, .alone hw hk hs .dashes, (Except.ok.inj hout).symm⟩
    · split at h <;> exact absurd h (by simp)
    · split at h
      · exact absurd h (by simp)
      split at h
      · exact absurd h (by simp)
      rename_i s hname
      obtain ⟨inner, hi, h⟩ := bind_eq_ok_iff.1 h
      obtain ⟨outer, hc, hout⟩ := bind_eq_ok_iff.1 h
      obtain ⟨os, ts, rfl, hw, hk, hs⟩ := written_of_scan hscan (mapError_eq_ok_iff.1 hc)
      obtain rfl := Subcommand.eq_name_of_ofName? hname
      exact ⟨outer, some (s, inner), .command hw hk hs hi, (Except.ok.inj hout).symm⟩
  · rintro ⟨outer, inner, hparts, rfl⟩
    unfold parse
    rw [bind_eq_ok_iff]
    cases hparts with
    | alone hw hk hs ht =>
      cases ht with
      | finished =>
        obtain ⟨settled, pending, hscan, hc⟩ := scan_of_written hw hk hs .finished trivial
        refine ⟨_, hscan, ?_⟩
        simp only [hc]
        rfl
      | dashes =>
        obtain ⟨settled, pending, hscan, hc⟩ := scan_of_written hw hk hs (.escaped []) trivial
        refine ⟨_, hscan, ?_⟩
        simp only [hc]
        rfl
    | @command _ _ rest _ inner s hw hk hs hi =>
      obtain ⟨settled, pending, hscan, hc⟩ :=
        scan_of_written hw hk hs (.word s.name rest) s.isWord_name
      refine ⟨_, hscan, ?_⟩
      simp only [s.name_ne_help, if_false, Subcommand.ofName?_name, hi, hc]
      rfl

/-! ## The path of the configuration -/

/-- The occurrences of an option with these values. -/
def Opt.given (o : Opt) (values : List String) : List Occurrence :=
  values.map fun value => { option := o, value }

theorem valuesOf_given (o o' : Opt) (values : List String) :
    valuesOf o (o'.given values) = if o' = o then values else [] := by
  induction values with
  | nil => simp [Opt.given, valuesOf]
  | cons value values ih =>
    have hcons : o'.given (value :: values) = { option := o', value } :: o'.given values := rfl
    rw [hcons, valuesOf_cons, ih]
    split <;> rfl

theorem option_of_mem_given {o : Opt} {values : List String} {occ : Occurrence}
    (h : occ ∈ o.given values) : occ.option = o := by
  obtain ⟨value, -, rfl⟩ := List.mem_map.1 h
  rfl

/-- In front of the subcommand stands a path of the configuration, or nothing. -/
theorem exists_given_of_top {os : List Occurrence}
    (hk : ∀ o ∈ os, Scope.top.knows o.option = true) (ho : Once os) :
    ∃ before : Option String, os = Opt.config.given before.toList := by
  have hconfig : ∀ o ∈ os, o.option = .config := by
    intro o hm
    have hko := hk o hm
    cases hopt : o.option with
    | config => rfl
    | _ =>
      rw [hopt] at hko
      exact absurd hko (by decide)
  have hone := once_iff.1 ho .config rfl
  match os with
  | [] => exact ⟨none, rfl⟩
  | [o] =>
    refine ⟨some o.value, ?_⟩
    obtain ⟨option, value⟩ := o
    obtain rfl : option = .config := hconfig _ List.mem_cons_self
    rfl
  | a :: b :: os =>
    rw [valuesOf_cons, if_pos (hconfig a (by simp)), valuesOf_cons,
      if_pos (hconfig b (by simp))] at hone
    simp at hone

theorem once_given (before : Option String) : Once (Opt.config.given before.toList) := by
  rw [once_iff]
  intro o _
  rw [valuesOf_given]
  split
  · exact Option.length_toList_le
  · exact Nat.zero_le 1

theorem knows_given (before : Option String) :
    ∀ o ∈ Opt.config.given before.toList, Scope.top.knows o.option = true := by
  intro o hm
  rw [option_of_mem_given hm]
  rfl

/-! ## Nothing is left out -/

/-- **Each argument of a command line is accounted for** in what it asks for: the path of the
configuration in front of the subcommand, if there is one; the subcommand; and behind it options
that it knows, each but a variable once, which the command accounts for. The last path of the
configuration counts. -/
inductive Accounted : List String → Invocation → Prop
  | alone {before : Option String} {outer tail : List String}
      (ho : Written (Opt.config.given before.toList) outer) (ht : Closing tail) :
      Accounted (outer ++ tail) { config := before.getD "cmakew.toml", command := none }
  | command {before : Option String} {os : List Occurrence} {outer inner tail : List String}
      {command : Command} (ho : Written (Opt.config.given before.toList) outer)
      (hi : Written os inner) (ht : Closing tail)
      (hk : ∀ o ∈ os, command.subcommand.scope.knows o.option = true)
      (hone : ∀ o, o ≠ .env → (valuesOf o os).length ≤ 1) (ha : command.Accounts os) :
      Accounted (outer ++ command.subcommand.name :: (inner ++ tail))
        { config := (before.toList ++ valuesOf .config os).getLast?.getD "cmakew.toml"
          command := some command }

theorem mayRepeat_eq_false_iff {o : Opt} : o.mayRepeat = false ↔ o ≠ .env := by
  cases o <;> simp [Opt.mayRepeat]

theorem config_ofSettings {before : Option String} {os : List Occurrence}
    {outer inner : List Setting} (ho : List.Forall₂ Makes (Opt.config.given before.toList) outer)
    (hi : List.Forall₂ Makes os inner) (s : Subcommand) :
    (Invocation.ofSettings outer (some (s, inner))).config =
      (before.toList ++ valuesOf .config os).getLast?.getD "cmakew.toml" := by
  rw [ofSettings_config, config?_of_makes (List.rel_append ho hi), valuesOf_append,
    valuesOf_given, if_pos rfl]
  rfl

theorem config_ofSettings_none {before : Option String} {outer : List Setting}
    (ho : List.Forall₂ Makes (Opt.config.given before.toList) outer) :
    Invocation.ofSettings outer none =
      { config := before.getD "cmakew.toml", command := none } := by
  have hc : Setting.config? outer = before := by
    rw [config?_of_makes ho, valuesOf_given, if_pos rfl]
    cases before <;> rfl
  simp only [Invocation.ofSettings, Option.map_none, Option.getD_none, List.append_nil, hc]
  rfl

/-- **An accepted command line leaves no argument out.** -/
theorem accounted_of_parse {invocation : Invocation} (h : parse args = .ok invocation) :
    Accounted args invocation := by
  obtain ⟨outer, inner, hparts, rfl⟩ := parse_eq_ok_iff_parts.1 h
  cases hparts with
  | alone hw hk hs ht =>
    obtain ⟨hm, honce⟩ := settleAll_nil_eq_ok_iff.1 hs
    obtain ⟨before, rfl⟩ := exists_given_of_top hk honce
    rw [config_ofSettings_none hm]
    exact .alone hw ht
  | @command _ ts _ _ inner s hw hk hs hi =>
    obtain ⟨hm, honce⟩ := settleAll_nil_eq_ok_iff.1 hs
    obtain ⟨before, rfl⟩ := exists_given_of_top hk honce
    obtain ⟨os, ts', tail, rfl, ht, hw', hk', hs'⟩ := parseInner_eq_ok_iff.1 hi
    obtain ⟨hm', honce'⟩ := settleAll_nil_eq_ok_iff.1 hs'
    obtain ⟨hsub, ha⟩ := (command_eq_iff hm' honce').1 (rfl : s.command inner = s.command inner)
    have hone : ∀ o, o ≠ .env → (valuesOf o os).length ≤ 1 := fun o he =>
      once_iff.1 honce' o (mayRepeat_eq_false_iff.2 he)
    have hacc := Accounted.command hw hw' ht (by rwa [hsub]) hone ha
    rw [hsub, ← config_ofSettings hm hm' s] at hacc
    exact hacc

/-- What a command accounts for can be settled. -/
theorem exists_pair_of_accounts {command : Command} {os : List Occurrence}
    (hk : ∀ o ∈ os, command.subcommand.scope.knows o.option = true) (ha : command.Accounts os) :
    ∀ occ ∈ os, occ.option = .env → ∃ p, EnvPair.parse occ.value = .ok p := by
  intro occ hm he
  cases command with
  | configure o =>
    have hv : occ.value ∈ valuesOf .env os :=
      List.mem_map.2 ⟨occ, List.mem_filter.2 ⟨hm, by simpa using he⟩, rfl⟩
    have hp : EnvPair.parse occ.value ∈ o.env.map Except.ok := by
      rw [← ConfigureOptions.Accounts.env ha]
      exact List.mem_map_of_mem hv
    obtain ⟨p, -, hp⟩ := List.mem_map.1 hp
    exact ⟨p, hp.symm⟩
  | build o =>
    have hko : Scope.build.knows .env = true := he ▸ hk occ hm
    exact absurd hko (by decide)
  | doctor =>
    have hko : Scope.doctor.knows .env = true := he ▸ hk occ hm
    exact absurd hko (by decide)

theorem exists_settleAll_given (before : Option String) :
    ∃ outer, List.Forall₂ Makes (Opt.config.given before.toList) outer ∧
      settleAll [] (Opt.config.given before.toList) = .ok outer := by
  have hno : ∀ occ ∈ Opt.config.given before.toList, occ.option = .env →
      ∃ p, EnvPair.parse occ.value = .ok p := by
    intro occ hm he
    rw [option_of_mem_given hm] at he
    exact absurd he (by decide)
  obtain ⟨outer, hm⟩ := exists_forall₂_makes hno
  exact ⟨outer, hm, settleAll_nil_eq_ok_iff.2 ⟨hm, once_given before⟩⟩

/-- **A command line is accepted if its arguments are accounted for.** -/
theorem parse_of_accounted {invocation : Invocation} (h : Accounted args invocation) :
    parse args = .ok invocation := by
  rw [parse_eq_ok_iff_parts]
  cases h with
  | @alone before _ _ ho ht =>
    obtain ⟨outer, hm, hs⟩ := exists_settleAll_given before
    exact ⟨outer, none, .alone ho (knows_given before) hs ht, (config_ofSettings_none hm).symm⟩
  | @command before os _ inner tail command ho hi ht hk hone ha =>
    obtain ⟨outer, hm, hs⟩ := exists_settleAll_given before
    obtain ⟨ss, hm'⟩ := exists_forall₂_makes (exists_pair_of_accounts hk ha)
    have honce : Once os := once_iff.2 fun o hr => hone o (mayRepeat_eq_false_iff.1 hr)
    have hinner : parseInner command.subcommand (inner ++ tail) = .ok ss :=
      parseInner_eq_ok_iff.2 ⟨os, inner, tail, rfl, ht, hi, hk,
        settleAll_nil_eq_ok_iff.2 ⟨hm', honce⟩⟩
    refine ⟨outer, some (command.subcommand, ss),
      .command ho (knows_given before) hs hinner, ?_⟩
    have hcommand : command.subcommand.command ss = command :=
      (command_eq_iff hm' honce).2 ⟨rfl, ha⟩
    rw [← config_ofSettings hm hm' command.subcommand]
    simp only [Invocation.ofSettings, Option.map_some, hcommand]

/-- **The command lines that are accepted**, and what they ask for. -/
theorem parse_eq_ok_iff_accounted {invocation : Invocation} :
    parse args = .ok invocation ↔ Accounted args invocation :=
  ⟨accounted_of_parse, parse_of_accounted⟩

/-! ## Writing a command -/

namespace Command

/-- The options with which a command is asked for, in one order. -/
def occurrences : Command → List Occurrence
  | configure o =>
    Opt.configuration.given o.configuration.toList ++
      Opt.buildFolder.given o.buildFolder.toList ++ Opt.toolchain.given o.toolchain.toList ++
      Opt.verbose.given (List.replicate o.verbose.toNat "") ++
      Opt.env.given (o.env.map fun p => p.1 ++ "=" ++ p.2)
  | build o =>
    Opt.buildFolder.given o.buildFolder.toList ++
      Opt.verbose.given (List.replicate o.verbose.toNat "")
  | doctor => []

/-- The variables that a command sets. -/
def pairs : Command → List (String × String)
  | configure o => o.env
  | _ => []

end Command

variable {command : Command} {os os' : List Occurrence}

theorem map_parse_written {pairs : List (String × String)}
    (h : ∀ p ∈ pairs, p.1 ≠ "" ∧ '=' ∉ p.1.toList) :
    (pairs.map fun p => p.1 ++ "=" ++ p.2).map EnvPair.parse = pairs.map .ok := by
  rw [List.map_map]
  refine List.map_congr_left fun p hp => ?_
  exact EnvPair.parse_eq_ok_iff.2 ⟨rfl, h p hp⟩

/-- **A command accounts for the options with which it is asked for.** -/
theorem accounts_occurrences (h : ∀ p ∈ command.pairs, p.1 ≠ "" ∧ '=' ∉ p.1.toList) :
    command.Accounts command.occurrences := by
  cases command with
  | configure o =>
    constructor <;>
      simp only [Command.occurrences, valuesOf_append, valuesOf_given, reduceCtorEq, if_true,
        if_false, List.append_nil, List.nil_append, List.length_replicate]
    exact map_parse_written h
  | build o =>
    constructor <;>
      simp only [Command.occurrences, valuesOf_append, valuesOf_given, reduceCtorEq, if_true,
        if_false, List.append_nil, List.nil_append, List.length_replicate]
  | doctor => trivial

theorem knows_occurrences :
    ∀ o ∈ command.occurrences, command.subcommand.scope.knows o.option = true := by
  intro occ hm
  cases command with
  | configure o =>
    simp only [Command.occurrences, List.mem_append] at hm
    rcases hm with (((hm | hm) | hm) | hm) | hm <;>
      · rw [option_of_mem_given hm]
        rfl
  | build o =>
    simp only [Command.occurrences, List.mem_append] at hm
    rcases hm with hm | hm <;>
      · rw [option_of_mem_given hm]
        rfl
  | doctor => exact absurd hm List.not_mem_nil

theorem length_valuesOf_occurrences_le {o : Opt} (h : o ≠ .env) :
    (valuesOf o command.occurrences).length ≤ 1 := by
  cases command with
  | configure c =>
    simp only [Command.occurrences, valuesOf_append, valuesOf_given]
    cases o with
    | env => exact absurd rfl h
    | config => simp
    | verbose => simpa using c.verbose.toNat_le
    | _ => simp
  | build c =>
    simp only [Command.occurrences, valuesOf_append, valuesOf_given]
    cases o with
    | buildFolder => simp
    | verbose => simpa using c.verbose.toNat_le
    | _ => simp
  | doctor => simp [Command.occurrences, valuesOf]

theorem valuesOf_config_occurrences : valuesOf .config command.occurrences = [] := by
  cases command with
  | configure c => simp [Command.occurrences, valuesOf_append, valuesOf_given]
  | build c => simp [Command.occurrences, valuesOf_append, valuesOf_given]
  | doctor => rfl

/-- Of what occurs once at most, the order does not matter. -/
theorem valuesOf_of_perm {o : Opt} (h : os.Perm os') (hone : (valuesOf o os').length ≤ 1) :
    valuesOf o os = valuesOf o os' := by
  have hp : (valuesOf o os).Perm (valuesOf o os') := (h.filter _).map _
  generalize valuesOf o os' = vs at hp hone
  match vs with
  | [] => exact hp.eq_nil
  | [v] => exact hp.eq_singleton
  | _ :: _ :: _ => simp at hone

/-- What a command accounts for is a matter of the values of its options. -/
theorem Command.Accounts.of_values (h : command.Accounts os')
    (hv : ∀ o, o ≠ .config → valuesOf o os = valuesOf o os') : command.Accounts os := by
  cases command with
  | configure c =>
    obtain ⟨hconfiguration, hbuildFolder, htoolchain, hverbose, henv⟩ := h
    constructor
    · rwa [hv _ (by decide)]
    · rwa [hv _ (by decide)]
    · rwa [hv _ (by decide)]
    · rwa [hv _ (by decide)]
    · rwa [hv _ (by decide)]
  | build c =>
    obtain ⟨hbuildFolder, hverbose⟩ := h
    constructor
    · rwa [hv _ (by decide)]
    · rwa [hv _ (by decide)]
  | doctor => trivial

/-- **Each way to write a command asks for it.** The options stand behind the subcommand in any
order that keeps the variables in theirs, each spelled in any way it has, with a path of the
configuration on either side of the subcommand or on none. -/
theorem parse_written {before behind : Option String} {outer inner : List String}
    (hkeys : ∀ p ∈ command.pairs, p.1 ≠ "" ∧ '=' ∉ p.1.toList)
    (hperm : os.Perm (Opt.config.given behind.toList ++ command.occurrences))
    (henv : valuesOf .env os = valuesOf .env command.occurrences)
    (ho : Written (Opt.config.given before.toList) outer) (hi : Written os inner) :
    parse (outer ++ command.subcommand.name :: inner) =
      .ok { config := (behind <|> before).getD "cmakew.toml", command := some command } := by
  have hconfig : valuesOf .config os = behind.toList := by
    have hall : valuesOf .config (Opt.config.given behind.toList ++ command.occurrences) =
        behind.toList := by
      rw [valuesOf_append, valuesOf_given, if_pos rfl, valuesOf_config_occurrences,
        List.append_nil]
    rw [valuesOf_of_perm hperm (by rw [hall]; exact Option.length_toList_le), hall]
  have hvalues : ∀ o, o ≠ .config → valuesOf o os = valuesOf o command.occurrences := by
    intro o hne
    have hall : valuesOf o (Opt.config.given behind.toList ++ command.occurrences) =
        valuesOf o command.occurrences := by
      rw [valuesOf_append, valuesOf_given, if_neg hne.symm, List.nil_append]
    by_cases he : o = .env
    · rw [he, henv]
    · rw [valuesOf_of_perm hperm (by rw [hall]; exact length_valuesOf_occurrences_le he), hall]
  have hk : ∀ o ∈ os, command.subcommand.scope.knows o.option = true := by
    intro occ hm
    rcases List.mem_append.1 (hperm.mem_iff.1 hm) with hm | hm
    · rw [option_of_mem_given hm]
      cases command <;> rfl
    · exact knows_occurrences occ hm
  have hone : ∀ o, o ≠ .env → (valuesOf o os).length ≤ 1 := by
    intro o he
    by_cases hc : o = .config
    · rw [hc, hconfig]
      exact Option.length_toList_le
    · rw [hvalues o hc]
      exact length_valuesOf_occurrences_le he
  have hacc := Accounted.command ho hi .finished hk hone
    ((accounts_occurrences hkeys).of_values hvalues)
  have hlast : (before.toList ++ behind.toList).getLast? = (behind <|> before) := by
    cases before <;> cases behind <;> rfl
  rw [hconfig, hlast, List.append_nil] at hacc
  exact parse_of_accounted hacc

/-- A command whose values look like options, pairs and subcommands. -/
def oddValues : Command :=
  .configure {
    configuration := some "build", buildFolder := some "", toolchain := some "--verbose=x"
    verbose := true, env := [("CC", "--x=y"), ("CC", "")] }

/-- Its options in some order, with a path of the configuration among them. -/
def oddOccurrences : List Occurrence :=
  [{ option := .env, value := "CC=--x=y" }, { option := .verbose },
    { option := .toolchain, value := "--verbose=x" }, { option := .config, value := "-" },
    { option := .env, value := "CC=" }, { option := .configuration, value := "build" },
    { option := .buildFolder, value := "" }]

/-- Odd values are taken as they are written. -/
theorem oddValues_parsed :
    parse ["--config=a=b\nc", "configure", "--env=CC=--x=y", "--verbose",
      "--toolchain=--verbose=x", "--config", "-", "--env", "CC=", "--configuration", "build",
      "--build-folder="] = .ok { config := "-", command := some oddValues } := by
  have ho : Written (Opt.config.given (some "a=b\nc").toList) ["--config=a=b\nc"] :=
    .cons (.attached rfl _) .nil
  have hi : Written oddOccurrences ["--env=CC=--x=y", "--verbose", "--toolchain=--verbose=x",
      "--config", "-", "--env", "CC=", "--configuration", "build", "--build-folder="] :=
    .cons (.attached rfl _) <| .cons (.flag rfl) <| .cons (.attached rfl _) <|
      .cons (.apart rfl (.inr rfl)) <| .cons (.apart rfl (.inl (by decide))) <|
      .cons (.apart rfl (.inl (by decide))) <| .cons (.attached rfl _) .nil
  have hkeys : ∀ p ∈ oddValues.pairs, p.1 ≠ "" ∧ '=' ∉ p.1.toList := by decide
  have hperm : oddOccurrences.Perm (Opt.config.given (some "-").toList ++ oddValues.occurrences) :=
    by decide
  exact parse_written hkeys hperm (by decide) ho hi

end CommandLine

end CmakeDriver
