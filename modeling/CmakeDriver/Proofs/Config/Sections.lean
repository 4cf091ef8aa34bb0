import CmakeDriver.Proofs.Bindings
import CmakeDriver.Proofs.Config.Given
import CmakeDriver.Proofs.Toml.Sections

/-!
# What plain sections give

A document of plain sections whose names a configuration knows is no fault. Each section gives the
fields that its keys name, and the section of variables gives all of them.

Results:
* `foldlM_onto`: if each pair gives something, all pairs give what they give one after the other.
* `readCmake_texts`, `readProject_texts`, `readEnv_texts`: what one section lays over.
* `entriesGive_sections`: what all sections of a document give.
* `said_eq_some_iff`: the text under a key of a section.
-/

namespace CmakeDriver

namespace Config

open Toml (Section DistinctSections Value texts)
open Bindings (find?)

/-! ## One pair after the other -/

section Pairs

variable {β : Type}

theorem find?_cons_orElse {p : String × β} {rest : List (String × β)} (h : find? p.1 rest = none)
    (key : String) : find? key (p :: rest) = (find? key rest <|> find? key [p]) := by
  obtain ⟨k, v⟩ := p
  by_cases hk : k = key
  · subst hk
    simp [find?, h]
  · simp [find?, hk]

/-- **What pairs give, one after the other.** A pair whose name does not come again may be laid over
before the others. -/
theorem foldlM_onto {ε : Type} {entry : String × β → ε}
    {decode : Config → ε → Except ShapeFault Config} {given : List (String × β) → Given}
    {pairs : List (String × β)} (hd : (pairs.map Prod.fst).Nodup) (hnil : given [] = {})
    (hone : ∀ p ∈ pairs, ∀ d, decode d (entry p) = .ok ((given [p]).onto d))
    (hcons : ∀ p rest, find? p.1 rest = none →
      given (p :: rest) = (given [p]).andThen (given rest)) (d : Config) :
    (pairs.map entry).foldlM decode d = .ok ((given pairs).onto d) := by
  induction pairs generalizing d with
  | nil =>
    rw [hnil]
    rfl
  | cons p rest ih =>
    have hrest := ih (List.nodup_cons.1 hd).2 fun q hq => hone q (List.mem_cons_of_mem _ hq)
    rw [List.map_cons, List.foldlM_cons, hone p List.mem_cons_self,
      hcons p rest (Bindings.find?_tail_of_nodup hd), Given.onto_andThen]
    exact hrest _

end Pairs

/-! ## One section -/

section OneSection

variable {pairs : List (String × String)} (d : Config)

/-- What the section `cmake` gives. -/
def Given.ofCmake (pairs : List (String × String)) : Given where
  cmakeBinary := find? "binary" pairs

/-- What the section `project` gives. -/
def Given.ofProject (pairs : List (String × String)) : Given where
  configuration := find? "configuration" pairs
  buildFolder := find? "build_folder" pairs
  toolchain := find? "toolchain" pairs

/-- What the section `env` gives. -/
def Given.ofEnv (pairs : List (String × String)) : Given where
  env := some (Bindings.ofList pairs)

theorem readCmake_texts (hd : (pairs.map Prod.fst).Nodup) :
    readCmake d (.table (texts pairs)) = .ok ((Given.ofCmake pairs).onto d) := by
  refine foldlM_onto hd rfl (fun p _ d => ?_) (fun p rest h => ?_) d
  · by_cases hk : p.1 = "binary"
    · simp [readCmakeEntry, text?, Except.map, Given.ofCmake, Given.onto, find?, hk]
    · simp [readCmakeEntry, Given.ofCmake, Given.onto, find?, hk]
  · simp only [Given.ofCmake, Given.andThen, find?_cons_orElse h]
    rfl

theorem readProject_texts (hd : (pairs.map Prod.fst).Nodup) :
    readProject d (.table (texts pairs)) = .ok ((Given.ofProject pairs).onto d) := by
  refine foldlM_onto hd rfl (fun p _ d => ?_) (fun p rest h => ?_) d
  · by_cases hc : p.1 = "configuration"
    · simp [readProjectEntry, text?, Except.map, Given.ofProject, Given.onto, find?, hc]
    by_cases hb : p.1 = "build_folder"
    · simp [readProjectEntry, text?, Except.map, Given.ofProject, Given.onto, find?, hb]
    by_cases ht : p.1 = "toolchain"
    · simp [readProjectEntry, text?, Except.map, Given.ofProject, Given.onto, find?, ht]
    · simp [readProjectEntry, Given.ofProject, Given.onto, find?, hc, hb, ht]
  · simp only [Given.ofProject, Given.andThen, find?_cons_orElse h]
    rfl

theorem readEnv_texts :
    readEnv d (.table (texts pairs)) = .ok ((Given.ofEnv pairs).onto d) := by
  have hvariables : (texts pairs).mapM readVariable = .ok pairs := by
    induction pairs with
    | nil => rfl
    | cons p rest ih =>
      have hfirst : readVariable (p.1, .text p.2) = .ok p := rfl
      rw [texts, List.map_cons, List.mapM_cons, hfirst, ← texts, ih]
      rfl
  simp only [readEnv, entries?, hvariables]
  rfl

end OneSection

/-! ## All sections -/

/-- The sections of a configuration. -/
def sectionNames : List String := ["cmake", "project", "env"]

/-- The text that sections have under a key of a section. -/
def said (ss : List Section) (name key : String) : Option String :=
  (find? name ss).bind (find? key)

/-- What sections give. -/
def Given.ofSections (ss : List Section) : Given where
  cmakeBinary := said ss "cmake" "binary"
  configuration := said ss "project" "configuration"
  buildFolder := said ss "project" "build_folder"
  toolchain := said ss "project" "toolchain"
  env := (find? "env" ss).map Bindings.ofList

theorem said_cons {s : Section} {rest : List Section} (h : find? s.1 rest = none)
    (name key : String) :
    said (s :: rest) name key = (said rest name key <|> said [s] name key) := by
  obtain ⟨n, pairs⟩ := s
  by_cases hn : n = name
  · subst hn
    simp [said, find?, h]
  · simp [said, find?, hn]

theorem readSection_entry {s : Section} (hd : (s.2.map Prod.fst).Nodup) (hk : s.1 ∈ sectionNames)
    (d : Config) : readSection d s.entry = .ok ((Given.ofSections [s]).onto d) := by
  obtain ⟨name, pairs⟩ := s
  simp only [sectionNames, List.mem_cons, List.not_mem_nil, or_false] at hk
  rcases hk with rfl | rfl | rfl
  · exact readCmake_texts d hd
  · exact readProject_texts d hd
  · exact readEnv_texts d

/-- **What a document of plain sections gives**, if it has none but those of a configuration. -/
theorem entriesGive_sections {ss : List Section} (hd : DistinctSections ss)
    (hk : ∀ s ∈ ss, s.1 ∈ sectionNames) :
    EntriesGive (ss.map Section.entry) (Given.ofSections ss) := by
  intro d
  refine foldlM_onto hd.names rfl (fun s hs => readSection_entry (hd.keys s hs) (hk s hs))
    (fun s rest h => ?_) d
  simp only [Given.ofSections, Given.andThen, said_cons h, find?_cons_orElse h]
  cases find? "env" rest <;> rfl

/-- The variables that sections give over the default configuration. -/
theorem get?_env_ofSections {ss : List Section} (hd : DistinctSections ss) (name : String) :
    ((Given.ofSections ss).onto {}).env.get? name = said ss "env" name := by
  cases hs : find? "env" ss with
  | none => simp [Given.onto, Given.ofSections, said, hs]
  | some pairs =>
    have hm := (Bindings.find?_eq_some_iff hd.names).1 hs
    simp [Given.onto, Given.ofSections, said, hs, Bindings.get?_ofList (hd.keys _ hm)]

theorem said_eq_some_iff {ss : List Section} (hd : DistinctSections ss) {name key value : String} :
    said ss name key = some value ↔ ∃ s ∈ ss, s.1 = name ∧ (key, value) ∈ s.2 := by
  rw [said, Option.bind_eq_some_iff]
  constructor
  · rintro ⟨pairs, hs, hp⟩
    have hm := (Bindings.find?_eq_some_iff hd.names).1 hs
    exact ⟨_, hm, rfl, (Bindings.find?_eq_some_iff (hd.keys _ hm)).1 hp⟩
  · rintro ⟨s, hs, rfl, hp⟩
    exact ⟨s.2, (Bindings.find?_eq_some_iff hd.names).2 hs,
      (Bindings.find?_eq_some_iff (hd.keys s hs)).2 hp⟩

end Config

end CmakeDriver
