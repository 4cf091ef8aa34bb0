import CmakeDriver.Proofs.Config.Acceptance
import CmakeDriver.Proofs.Run.GivenVariables
import CmakeDriver.Proofs.Run.SearchPath
import Mathlib.Data.List.TakeWhile
import Mathlib.Data.Option.Basic

/-!
# What a block of variables reads back as

A program gets its variables as a block of entries `NAME=VALUE`, and takes the name of each to end
at its first equals sign. So a block reads back as the variables that were written exactly if no
name has an equals sign in it. Names from the command line never have one, for a pair is cut there;
names from the configuration may be any text, and one with an equals sign reads back as another.

Results:
* `splitEntry?_eq_some_iff`: an entry is cut at its first equals sign.
* `readsBack_iff`: which environments read back from their blocks.
* `readsBack_ofText_iff`: which ones made anew do.
* `block_reads_back`: what a run that configures gives to its program, and when it reads back.
* `signedName_ambiguous`: a configuration that loads and makes two entries of one name.
-/

namespace CmakeDriver

open CommandLine (ConfigureOptions)

namespace Environment

/-! ## Entries -/

/-- The name and the value that a program takes from an entry: what stands before and behind its
first equals sign. -/
def splitEntry? (entry : Bytes) : Option (Bytes × Bytes) :=
  match entry.dropWhile (· ≠ Bytes.equalsSign) with
  | [] => none
  | _ :: value => some (entry.takeWhile (· ≠ Bytes.equalsSign), value)

theorem splitEntry?_eq_some_iff {entry name value : Bytes} :
    splitEntry? entry = some (name, value) ↔
      entry = name ++ Bytes.equalsSign :: value ∧ Bytes.equalsSign ∉ name := by
  unfold splitEntry?
  constructor
  · intro h
    split at h
    · exact absurd h (by simp)
    · rename_i sign rest hdrop
      obtain ⟨rfl, rfl⟩ := Prod.mk.inj (Option.some.inj h)
      have hne : entry.dropWhile (· ≠ Bytes.equalsSign) ≠ [] := by
        rw [hdrop]
        exact List.cons_ne_nil _ _
      have hhead := List.head_dropWhile_not (· ≠ Bytes.equalsSign) hne
      simp only [hdrop, List.head_cons] at hhead
      obtain rfl : sign = Bytes.equalsSign := by simpa using hhead
      refine ⟨?_, fun hm => ?_⟩
      · rw [← hdrop, List.takeWhile_append_dropWhile]
      · simpa using List.mem_takeWhile_imp hm
  · rintro ⟨rfl, hname⟩
    have hall : ∀ b ∈ name, decide (b ≠ Bytes.equalsSign) = true := by
      intro b hb
      exact decide_eq_true fun he => hname (he ▸ hb)
    rw [List.dropWhile_append_of_pos hall, List.takeWhile_append_of_pos hall]
    simp

/-! ## Environments -/

variable {e : Environment}

/-- **An environment reads back from its block**: what its entries split into are its variables, and
no two of them carry the same name. -/
structure ReadsBack (e : Environment) : Prop where
  exactly : ∀ name value,
    (∃ entry ∈ e.block, splitEntry? entry = some (name, value)) ↔ e.get? name = some value
  once : ((e.block.map splitEntry?).map (Option.map Prod.fst)).Nodup

/-- Where no name has an equals sign, each entry splits into what it was made of. -/
theorem map_splitEntry?_block (h : ∀ v ∈ e.entries, Bytes.equalsSign ∉ v.1) :
    e.block.map splitEntry? = e.entries.map some := by
  rw [block, List.map_map]
  exact List.map_congr_left fun v hv => splitEntry?_eq_some_iff.2 ⟨rfl, h v hv⟩

/-- **Which environments read back.** -/
theorem readsBack_iff : e.ReadsBack ↔ ∀ v ∈ e.entries, Bytes.equalsSign ∉ v.1 := by
  constructor
  · rintro ⟨hexactly, -⟩ ⟨k, v⟩ hm
    obtain ⟨entry, -, hentry⟩ := (hexactly k v).2 ((Bindings.mem_entries_iff e).1 hm)
    exact (splitEntry?_eq_some_iff.1 hentry).2
  · intro h
    have hsplit := map_splitEntry?_block h
    refine ⟨fun name value => ?_, ?_⟩
    · rw [← Bindings.mem_entries_iff, ← List.mem_map, hsplit]
      simp
    · rw [hsplit, List.map_map]
      have hnames : e.entries.map (Option.map Prod.fst ∘ some) =
          (e.entries.map Prod.fst).map some := by simp
      rw [hnames]
      exact e.distinct.map (Option.some_injective _)

/-! ## Environments made anew -/

theorem readsBack_ofText_iff {b : TextBindings} :
    (ofText b).ReadsBack ↔ ∀ name value, b.get? name = some value → '=' ∉ name.toList := by
  simp only [readsBack_iff, ofText, List.forall_mem_map, Prod.forall, Bindings.mem_entries_iff,
    Bytes.equalsSign_mem_ofString_iff]

end Environment

namespace World

variable {w : World} {c : Config} {o : ConfigureOptions} {b : TextBindings} {call : Call}
  {args : List String} {path : String} {config : TextBindings} {pairs : List (String × String)}

/-- What is added is bound, though another value for the same name may count. -/
theorem exists_get?_of_added (hb : w.stepEnvironment config pairs = some b) :
    ∀ p ∈ config.entries ++ pairs, ∃ value, b.get? p.1 = some value := by
  intro p hp
  simp only [get?_stepEnvironment_eq_some_iff hb]
  cases hfind : Bindings.find? p.1 pairs.reverse with
  | some value => exact ⟨value, .given (Bindings.find?_reverse_eq_some_iff.1 hfind)⟩
  | none =>
    have hpairs := Bindings.find?_reverse_eq_none_iff.1 hfind
    rcases List.mem_append.1 hp with hp | hp
    · exact ⟨p.2, .configured hpairs ((Bindings.mem_entries_iff config).1 hp)⟩
    · exact absurd rfl (hpairs p hp)

/-- **An environment made anew reads back exactly if no added name has an equals sign**, where no
ambient one has. -/
theorem readsBack_stepEnvironment_iff (hw : ∀ v ∈ w.environment.entries, Bytes.equalsSign ∉ v.1)
    (hb : w.stepEnvironment config pairs = some b) :
    (Environment.ofText b).ReadsBack ↔ ∀ p ∈ config.entries ++ pairs, '=' ∉ p.1.toList := by
  rw [Environment.readsBack_ofText_iff]
  constructor
  · intro h p hp
    obtain ⟨value, hvalue⟩ := exists_get?_of_added hb p hp
    exact h p.1 value hvalue
  · intro h name value hget
    rcases ((get?_stepEnvironment_eq_some_iff hb).1 hget).mem_or_ambient with hm | hm
    · exact h _ hm
    · have hsign := hw _ ((Bindings.mem_entries_iff _).2 hm)
      exact mt Bytes.equalsSign_mem_ofString_iff.2 hsign

theorem environment_of_configure (hb : w.stepEnvironment c.env o.env = some b)
    (h : call ∈ (w.configure c o).calls) : call.environment = .ofText b := by
  obtain ⟨r, hr, he⟩ := seen_configure.1 (.inr ⟨call, h, rfl⟩)
  obtain ⟨s, hs, rfl⟩ := mem_attempts_configure_iff.1 hr
  rw [he]
  exact environmentOf_of_some ((environment_configureStep hs).trans hb)
    (stepEnvironment_ne_empty hb)

/-! ## Runs -/

theorem calls_run_of_parse {command : CommandLine.Command} (hw : w.ReadsLogFilter)
    (hargs : CommandLine.parse args = .ok { config := path, command := some command })
    (hload : Config.loadOrDefault w path = .ok c) :
    (w.run args).calls = (w.obey c command).calls := by
  simp only [run_of_readsLogFilter hw, answer, hargs, calls_runCommand, hload]

/-- Names from the command line have no equals sign. -/
theorem not_mem_of_parse
    (hargs : CommandLine.parse args = .ok { config := path, command := some (.configure o) }) :
    ∀ p ∈ o.env, '=' ∉ p.1.toList := by
  obtain ⟨_, os, _, _, -, -, -, hp⟩ := exists_written_env hargs
  intro p hm
  have hparsed : Except.ok p ∈ (CommandLine.valuesOf .env os).map EnvPair.parse :=
    hp ▸ List.mem_map_of_mem hm
  obtain ⟨raw, -, hraw⟩ := List.mem_map.1 hparsed
  exact (EnvPair.parse_eq_ok_iff.1 hraw).2.2

/-- **What a run that configures gives to its program reads back exactly if no name of the
configuration has an equals sign.** The program gets the variables that were laid over one another.
Where no ambient name has an equals sign, splitting the entries of its block gives back these
variables, each once, exactly if none of the configuration's names has one. Each added variable is
found under the name that it was given exactly if that name has none, and names from the command
line never have. -/
theorem block_reads_back (w : World)
    (hw : ∀ v ∈ w.environment.entries, Bytes.equalsSign ∉ v.1)
    (hargs : CommandLine.parse args = .ok { config := path, command := some (.configure o) })
    (hload : Config.loadOrDefault w path = .ok c) (hb : w.stepEnvironment c.env o.env = some b)
    (hcall : call ∈ (w.run args).calls) :
    call.environment = .ofText b ∧
    (call.environment.ReadsBack ↔ ∀ p ∈ c.env.entries, '=' ∉ p.1.toList) ∧
    (∀ p ∈ c.env.entries ++ o.env,
      (∃ entry ∈ call.environment.block, ∃ value,
        Environment.splitEntry? entry = some (Bytes.ofString p.1, value)) ↔ '=' ∉ p.1.toList) ∧
    ∀ p ∈ o.env, '=' ∉ p.1.toList := by
  rw [calls_run_of_parse (readsLogFilter_of_mem_calls w args hcall) hargs hload] at hcall
  have henvironment := environment_of_configure hb hcall
  have hgiven := not_mem_of_parse hargs
  rw [henvironment]
  refine ⟨rfl, ?_, fun p hp => ?_, hgiven⟩
  · rw [readsBack_stepEnvironment_iff hw hb]
    constructor
    · exact fun h p hp => h p (List.mem_append_left _ hp)
    · intro h p hp
      rcases List.mem_append.1 hp with hp | hp
      · exact h p hp
      · exact hgiven p hp
  · rw [← Bytes.equalsSign_mem_ofString_iff]
    constructor
    · rintro ⟨entry, -, value, hentry⟩
      exact (Environment.splitEntry?_eq_some_iff.1 hentry).2
    · intro hname
      obtain ⟨value, hvalue⟩ := exists_get?_of_added hb p hp
      have hget : (Environment.ofText b).get? (Bytes.ofString p.1) =
          some (Bytes.ofString value) := (get?_ofText_eq_some_iff b).2 ⟨_, _, rfl, rfl, hvalue⟩
      exact ⟨_, (Environment.mem_block_iff _).2 ⟨_, _, hget, rfl⟩, _,
        Environment.splitEntry?_eq_some_iff.2 ⟨rfl, hname⟩⟩

/-! ## A name with an equals sign -/

/-- A world with cmake on the search path, which is that of `textOnPath`, and two configurations,
one of which has a name with an equals sign. -/
def twoConfigurations : World where
  tree := { entries := [
    ([Bytes.ofString "opt"], .directory),
    ([Bytes.ofString "cmake", Bytes.ofString "opt"], .program {} true),
    ([Bytes.ofString "plain.toml"], .file (Bytes.ofString
      "project.toolchain = 'host.cmake'\nenv.CC = 'tcc'\n") false),
    ([Bytes.ofString "signed.toml"], .file (Bytes.ofString
      "project.toolchain = 'host.cmake'\nenv.CC = 'tcc'\nenv.'CC=a' = 'b'\n") false)] }
  environment := textOnPath.environment

theorem twoConfigurations_readsLogFilter : twoConfigurations.ReadsLogFilter := by
  decide

/-- A configuration of that world, with these variables. -/
def configurationWith (env : TextBindings) : Config :=
  { toolchain := some "host.cmake", env }

theorem plain_loaded : Config.loadOrDefault twoConfigurations "plain.toml" =
    .ok (configurationWith (.ofList [("CC", "tcc")])) := by
  have hd : Config.HoldsDocument twoConfigurations "plain.toml"
      [("project", .table [("toolchain", .text "host.cmake")]),
        ("env", .table [("CC", .text "tcc")])] :=
    ⟨"project.toolchain = 'host.cmake'\nenv.CC = 'tcc'\n",
      (readText_of_file (by decide) rfl).2, by decide +kernel⟩
  rw [Config.loadOrDefault_of_holdsDocument hd]
  exact (Config.load_eq_ok_iff hd).2 rfl

theorem signed_loaded : Config.loadOrDefault twoConfigurations "signed.toml" =
    .ok (configurationWith (.ofList [("CC", "tcc"), ("CC=a", "b")])) := by
  have hd : Config.HoldsDocument twoConfigurations "signed.toml"
      [("project", .table [("toolchain", .text "host.cmake")]),
        ("env", .table [("CC", .text "tcc"), ("CC=a", .text "b")])] :=
    ⟨"project.toolchain = 'host.cmake'\nenv.CC = 'tcc'\nenv.'CC=a' = 'b'\n",
      (readText_of_file (by decide) rfl).2, by decide +kernel⟩
  rw [Config.loadOrDefault_of_holdsDocument hd]
  exact (Config.load_eq_ok_iff hd).2 rfl

/-- With a name from each source the block reads back, though a value has an equals sign. -/
theorem plainNames_read_back :
    ∃ call ∈ (twoConfigurations.run
        ["configure", "--config", "plain.toml", "--env", "CXX=a=b"]).calls,
      call.environment.ReadsBack := by
  have hargs : CommandLine.parse ["configure", "--config", "plain.toml", "--env", "CXX=a=b"] =
      .ok { config := "plain.toml", command := some (.configure { env := [("CXX", "a=b")] }) } := by
    decide
  have hlength : 0 < (twoConfigurations.run
      ["configure", "--config", "plain.toml", "--env", "CXX=a=b"]).calls.length := by
    rw [calls_run_of_parse twoConfigurations_readsLogFilter hargs plain_loaded]
    decide
  obtain ⟨call, hcall⟩ := List.exists_mem_of_length_pos hlength
  obtain ⟨-, hreads, -, -⟩ :=
    block_reads_back twoConfigurations (by decide) hargs plain_loaded rfl hcall
  exact ⟨call, hcall, hreads.2 (by decide)⟩

/-- **A name of the configuration with an equals sign makes the block ambiguous**, in a world whose
ambient names have none: it loads, its program is started, and two entries of the block carry the
name `CC`, while none has the name that was given. -/
theorem signedName_ambiguous :
    (∀ v ∈ twoConfigurations.environment.entries, v.1 ≠ [] ∧ Bytes.equalsSign ∉ v.1) ∧
    Config.loadOrDefault twoConfigurations "signed.toml" =
      .ok (configurationWith (.ofList [("CC", "tcc"), ("CC=a", "b")])) ∧
    ∃ call ∈ (twoConfigurations.run ["configure", "--config", "signed.toml"]).calls,
      Bytes.ofString "CC=tcc" ∈ call.environment.block ∧
      Bytes.ofString "CC=a=b" ∈ call.environment.block ∧
      Environment.splitEntry? (Bytes.ofString "CC=tcc") =
        some (Bytes.ofString "CC", Bytes.ofString "tcc") ∧
      Environment.splitEntry? (Bytes.ofString "CC=a=b") =
        some (Bytes.ofString "CC", Bytes.ofString "a=b") ∧
      call.environment.get? (Bytes.ofString "CC=a") = some (Bytes.ofString "b") ∧
      ¬ call.environment.ReadsBack := by
  have hargs : CommandLine.parse ["configure", "--config", "signed.toml"] =
      .ok { config := "signed.toml", command := some (.configure {}) } := by decide
  have hlength : 0 < (twoConfigurations.run
      ["configure", "--config", "signed.toml"]).calls.length := by
    rw [calls_run_of_parse twoConfigurations_readsLogFilter hargs signed_loaded]
    decide
  obtain ⟨call, hcall⟩ := List.exists_mem_of_length_pos hlength
  have henvironment : call.environment = .ofText _ :=
    environment_of_configure rfl
      (calls_run_of_parse twoConfigurations_readsLogFilter hargs signed_loaded ▸ hcall)
  refine ⟨by decide, signed_loaded, call, hcall, ?_⟩
  rw [henvironment, Environment.readsBack_iff]
  decide

end World

end CmakeDriver
