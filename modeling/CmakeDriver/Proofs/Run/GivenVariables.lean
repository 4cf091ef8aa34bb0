import CmakeDriver.Proofs.CommandLine.Parse
import CmakeDriver.Proofs.Run.Environment
import CmakeDriver.Proofs.Run.Outcome

/-!
# Variables of the command line

A variable is given on the command line as one text, `KEY=VALUE`. It is cut at its first equals
sign, bound among the variables of configuring, where the last one of a key counts, and written with
an equals sign again into the block that a program gets. So the text arrives as it was given, and
nothing else arrives under its key.

Results:
* `entriesOf_of_get?`: a bound name has one entry in the block.
* `lastPair_of_lastOfKey`: the last text of a key is the pair that counts.
* `arrives_of_seen`: that text arrives in what configuring starts.
* `given_text_arrives`: what is read as a pair, and where it arrives.
-/

namespace CmakeDriver

open CommandLine (ConfigureOptions Written Closing valuesOf)

variable {raws : List String} {raw key value : String}

/-! ## The texts of pairs -/

namespace EnvPair

/-- Of the texts that give a value for a key, the last one. -/
def LastOfKey (raws : List String) (raw key value : String) : Prop :=
  ∃ before after, raws = before ++ raw :: after ∧ parse raw = .ok (key, value) ∧
    ∀ r ∈ after, ∀ v, parse r ≠ .ok (key, v)

theorem exists_error_iff :
    (∃ e, parse raw = .error e) ↔ '=' ∉ raw.toList ∨ raw.toList.head? = some '=' := by
  rw [← parse_eq_error_iff]
  constructor
  · rintro ⟨e, he⟩
    have hraw : e = { raw } := by
      unfold parse at he
      split at he
      · exact (Except.error.inj he).symm
      · exact (Except.error.inj he).symm
      · exact absurd he (by simp)
    rw [he, hraw]
  · intro h
    exact ⟨_, h⟩

/-- **The last text of a key is the pair that counts.** -/
theorem lastPair_of_lastOfKey {pairs : List (String × String)}
    (hp : raws.map parse = pairs.map .ok) (h : LastOfKey raws raw key value) :
    Bindings.LastPair pairs key value := by
  obtain ⟨before, after, rfl, hraw, hafter⟩ := h
  rw [List.map_append, List.map_cons, hraw] at hp
  obtain ⟨front, back, rfl, -, hback⟩ := List.map_eq_append_iff.1 hp.symm
  obtain ⟨p, rest, rfl, hpair, hrest⟩ := List.map_eq_cons_iff.1 hback
  obtain rfl : p = (key, value) := Except.ok.inj hpair
  refine ⟨front, rest, rfl, fun q hq hkey => ?_⟩
  have hmem : Except.ok q ∈ after.map parse := hrest ▸ List.mem_map_of_mem hq
  obtain ⟨r, hr, hparse⟩ := List.mem_map.1 hmem
  exact hafter r hr q.2 (hparse.trans (by rw [← hkey]))

/-- A pair is written in a block as its text. -/
theorem ofString_of_parse (h : parse raw = .ok (key, value)) :
    Bytes.ofString raw = Bytes.ofString key ++ Bytes.equalsSign :: Bytes.ofString value := by
  obtain ⟨rfl, -, -⟩ := parse_eq_ok_iff.1 h
  have hsign : Bytes.ofString "=" = [Bytes.equalsSign] := by decide
  rw [Bytes.ofString_append, Bytes.ofString_append, hsign, List.append_assoc]
  rfl

end EnvPair

/-! ## The entries of a name -/

namespace Environment

/-- What the block holds for a variable. -/
def entriesOf (e : Environment) (name : Bytes) : List Bytes :=
  (e.entries.filter fun p => p.1 = name).map fun (k, v) => k ++ Bytes.equalsSign :: v

variable {e : Environment} {name v : Bytes}

theorem entriesOf_of_get? (h : e.get? name = some v) :
    e.entriesOf name = [name ++ Bytes.equalsSign :: v] := by
  have hfind : Bindings.find? name e.entries = some v := h
  rw [entriesOf, Bindings.filter_fst_eq e.distinct, hfind]
  rfl

/-- **A text arrives in an environment**: the block holds it, and holds nothing else for its key. -/
structure Arrives (e : Environment) (raw key : String) : Prop where
  held : Bytes.ofString raw ∈ e.block
  alone : e.entriesOf (Bytes.ofString key) = [Bytes.ofString raw]

theorem arrives_of_get? (h : EnvPair.parse raw = .ok (key, value))
    (he : e.get? (Bytes.ofString key) = some (Bytes.ofString value)) : e.Arrives raw key := by
  have htext := EnvPair.ofString_of_parse h
  refine ⟨e.mem_block_iff.2 ⟨_, _, he, htext⟩, ?_⟩
  rw [htext]
  exact entriesOf_of_get? he

end Environment

/-! ## From the command line into the block -/

namespace World

variable {w : World} {c : Config} {o : ConfigureOptions} {e : Environment}

/-- A variable that counts among those of a configure step is seen so by what the step starts. -/
theorem get?_of_seen (h : Bindings.LastPair o.env key value)
    (he : w.Seen (w.configure c o) e) :
    e.get? (Bytes.ofString key) = some (Bytes.ofString value) := by
  obtain ⟨r, hr, rfl⟩ := seen_configure.1 he
  obtain ⟨s, hs, rfl⟩ := mem_attempts_configure_iff.1 hr
  have hown : ¬ (c.env.isEmpty = true ∧ o.env = []) := by
    rintro ⟨-, hnone⟩
    obtain ⟨before, after, hsplit, -⟩ := h
    exact absurd (hnone.symm.trans hsplit) (by simp)
  obtain ⟨b, hb⟩ := Option.ne_none_iff_exists'.1
    (mt (stepEnvironment_eq_none_iff w c.env o.env).1 hown)
  have hstep : s.environment = some b := (environment_configureStep hs).trans hb
  rw [environmentOf_of_some hstep (stepEnvironment_ne_empty hb), get?_ofText_eq_some_iff]
  exact ⟨key, value, rfl, rfl, (get?_stepEnvironment_eq_some_iff hb).2 (.given h)⟩

/-- **The last text of a key arrives** in what configuring starts. -/
theorem arrives_of_seen (hp : raws.map EnvPair.parse = o.env.map .ok)
    (h : EnvPair.LastOfKey raws raw key value) (he : w.Seen (w.configure c o) e) :
    e.Arrives raw key := by
  have hparse : EnvPair.parse raw = .ok (key, value) := by
    obtain ⟨before, after, -, hraw, -⟩ := h
    exact hraw
  exact Environment.arrives_of_get? hparse (get?_of_seen (EnvPair.lastPair_of_lastOfKey hp h) he)

/-- What a run that configures starts is what configuring starts with the configuration that it
loads. -/
theorem seen_run {args : List String} {path : String}
    (hargs : CommandLine.parse args = .ok { config := path, command := some (.configure o) })
    (he : w.Seen (w.run args) e) : ∃ c, w.Seen (w.configure c o) e := by
  have hreads : w.ReadsLogFilter := by
    rcases he with ⟨r, hr, -⟩ | ⟨call, hcall, -⟩
    · exact readsLogFilter_of_mem_attempts w args hr
    · exact readsLogFilter_of_mem_calls w args hcall
  have hrun : w.run args = w.runCommand path (.configure o) := by
    rw [run_of_readsLogFilter hreads, answer, hargs]
  rw [hrun, Seen, attempts_runCommand, calls_runCommand] at he
  cases hl : Config.loadOrDefault w path with
  | error fault =>
    rw [hl] at he
    rcases he with ⟨r, hr, -⟩ | ⟨call, hcall, -⟩
    · exact absurd hr List.not_mem_nil
    · exact absurd hcall List.not_mem_nil
  | ok c =>
    rw [hl] at he
    exact ⟨c, he⟩

/-- The texts of variables in a command line that configures are those of its options. -/
theorem exists_written_env {args : List String} {path : String}
    (hargs : CommandLine.parse args = .ok { config := path, command := some (.configure o) }) :
    ∃ outer os inner tail, args = outer ++ "configure" :: (inner ++ tail) ∧ Written os inner ∧
      Closing tail ∧ (valuesOf .env os).map EnvPair.parse = o.env.map .ok := by
  cases hacc : CommandLine.accounted_of_parse hargs with
  | @command before os outer inner tail command ho hi ht hk hone ha =>
    exact ⟨outer, os, inner, tail, rfl, hi, ht, CommandLine.ConfigureOptions.Accounts.env ha⟩

/-- **A variable arrives as it was given.** A text is read as a pair exactly if it is a key without
an equals sign, which is not empty, an equals sign and the value; it is refused exactly if it has no
equals sign or begins with one. Whatever the world and the configuration hold, the last text of each
key arrives byte for byte in what configuring starts, and nothing else does for its key. So it does
from a command line, whose options are where its texts stand. -/
theorem given_text_arrives :
    (∀ raw key value, EnvPair.parse raw = .ok (key, value) ↔
      raw = key ++ "=" ++ value ∧ key ≠ "" ∧ '=' ∉ key.toList) ∧
    (∀ raw, (∃ e, EnvPair.parse raw = .error e) ↔
      '=' ∉ raw.toList ∨ raw.toList.head? = some '=') ∧
    (∀ (w : World) (c : Config) (o : ConfigureOptions) (raws : List String),
      raws.map EnvPair.parse = o.env.map .ok → ∀ e, w.Seen (w.configure c o) e →
        ∀ raw key value, EnvPair.LastOfKey raws raw key value → e.Arrives raw key) ∧
    ∀ (w : World) (args : List String) (path : String) (o : ConfigureOptions),
      CommandLine.parse args = .ok { config := path, command := some (.configure o) } →
        ∃ outer os inner tail, args = outer ++ "configure" :: (inner ++ tail) ∧
          Written os inner ∧ Closing tail ∧
          (valuesOf .env os).map EnvPair.parse = o.env.map .ok ∧
          ∀ e, w.Seen (w.run args) e →
            ∀ raw key value, EnvPair.LastOfKey (valuesOf .env os) raw key value →
              e.Arrives raw key := by
  refine ⟨fun _ _ _ => EnvPair.parse_eq_ok_iff, fun _ => EnvPair.exists_error_iff, ?_, ?_⟩
  · intro w c o raws hp e he raw key value h
    exact arrives_of_seen hp h he
  · intro w args path o hargs
    obtain ⟨outer, os, inner, tail, hsplit, hi, ht, hp⟩ := exists_written_env hargs
    refine ⟨outer, os, inner, tail, hsplit, hi, ht, hp, fun e he raw key value h => ?_⟩
    obtain ⟨c, hc⟩ := seen_run hargs he
    exact arrives_of_seen hp h hc

/-- Of two texts for a key that the configuration and the ambient environment bind as well, the last
one arrives, with the equals sign in its value. -/
theorem oneProgram_arrives :
    let c : Config :=
      { cmakeBinary := "/cmake", toolchain := some "host.cmake", env := .ofList [("CC", "tcc")] }
    let o : ConfigureOptions := { env := [("CC", "clang"), ("CC", "a=b")] }
    ["CC=clang", "CC=a=b"].map EnvPair.parse = o.env.map .ok ∧
      ∃ call ∈ (oneProgram.configure c o).calls, call.environment.Arrives "CC=a=b" "CC" := by
  intro c o
  obtain ⟨hparse, -, harrives, -⟩ := given_text_arrives
  have hclang : EnvPair.parse "CC=clang" = .ok ("CC", "clang") :=
    (hparse _ _ _).2 ⟨by decide, by decide, by decide⟩
  have hsigns : EnvPair.parse "CC=a=b" = .ok ("CC", "a=b") :=
    (hparse _ _ _).2 ⟨by decide, by decide, by decide⟩
  have hraws : ["CC=clang", "CC=a=b"].map EnvPair.parse = o.env.map .ok := by
    rw [List.map_cons, List.map_cons, hclang, hsigns]
    rfl
  obtain ⟨call, hcall⟩ := List.exists_mem_of_length_pos
    (show 0 < (oneProgram.configure c o).calls.length by decide)
  exact ⟨hraws, call, hcall, harrives oneProgram c o _ hraws _ (Or.inr ⟨call, hcall, rfl⟩) _ _ _
    ⟨["CC=clang"], [], rfl, hsigns, by simp⟩⟩

end World

end CmakeDriver
