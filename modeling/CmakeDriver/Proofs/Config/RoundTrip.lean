import CmakeDriver.Proofs.Config.Absence
import CmakeDriver.Proofs.Config.Sections

/-!
# Configurations written and loaded

A configuration is written as a document of plain sections, in any order and with the keys of each
section in any order. A text that equals its default may be left out, and so may a section without
keys. Loading a file with that document gives the configuration back.

Results:
* `onto_default_of_laidOut`: what is laid out gives the configuration, over the default one.
* `exists_writtenAs`: every configuration can be written.
* `load_written`: a file with what was written loads as the configuration.
-/

namespace CmakeDriver

namespace Config

open Toml (Section DistinctSections Spells Quoted KeyWritten Written numberEscapes)
open Bindings (find?)

/-! ## Laying a configuration out -/

/-- The sections of a configuration, with all its texts. -/
def sections (c : Config) : List Section :=
  [("cmake", [("binary", c.cmakeBinary)]),
    ("project", [("configuration", c.configuration), ("build_folder", c.buildFolder)] ++
      (c.toolchain.map fun s => ("toolchain", s)).toList),
    ("env", c.env.entries)]

/-- **The ways to lay a configuration out.** All that the sections say the configuration has, and
all that it has they say, but for what the default configuration has too. -/
structure LaidOut (c : Config) (ss : List Section) : Prop where
  distinct : DistinctSections ss
  known : ∀ s ∈ ss, s.1 ∈ sectionNames
  sound : ∀ name key value, said ss name key = some value →
    said c.sections name key = some value
  complete : ∀ name key value, said c.sections name key = some value →
    said ss name key = some value ∨ said ({} : Config).sections name key = some value

theorem laidOut_sections (c : Config) : c.LaidOut c.sections where
  distinct := by
    refine ⟨by simp [sections], ?_⟩
    simp only [sections, List.forall_mem_cons]
    refine ⟨by simp, ?_, c.env.distinct, by simp⟩
    cases c.toolchain <;> simp
  known := by simp [sections, sectionNames]
  sound := fun _ _ _ h => h
  complete := fun _ _ _ h => .inl h

variable {c : Config} {ss : List Section}

theorem said_toolchain (c : Config) : said c.sections "project" "toolchain" = c.toolchain := by
  cases h : c.toolchain <;> simp [said, sections, find?, h]

theorem laidOut_of_forall (hd : DistinctSections ss) (hk : ∀ s ∈ ss, s.1 ∈ sectionNames)
    (hs : ∀ s ∈ ss, ∀ p ∈ s.2, said c.sections s.1 p.1 = some p.2)
    (hc : ∀ s ∈ c.sections, ∀ p ∈ s.2, said ss s.1 p.1 = some p.2 ∨
      said ({} : Config).sections s.1 p.1 = some p.2) : c.LaidOut ss where
  distinct := hd
  known := hk
  sound := by
    intro name key value h
    obtain ⟨s, hm, rfl, hp⟩ := (said_eq_some_iff hd).1 h
    exact hs s hm _ hp
  complete := by
    intro name key value h
    obtain ⟨s, hm, rfl, hp⟩ := (said_eq_some_iff (laidOut_sections c).distinct).1 h
    exact hc s hm _ hp

/-- What some configuration lacks the default one lacks. -/
theorem said_default_of_none {name key : String} (h : said c.sections name key = none) :
    said ({} : Config).sections name key = none := by
  cases hd : said ({} : Config).sections name key with
  | none => rfl
  | some value =>
    obtain ⟨s, hs, rfl, hk⟩ := (said_eq_some_iff (laidOut_sections {}).distinct).1 hd
    simp only [sections, List.mem_cons, List.not_mem_nil, or_false] at hs
    rcases hs with rfl | rfl | rfl
    · obtain ⟨rfl, -⟩ := Prod.mk.inj (List.mem_singleton.1 hk)
      exact absurd h (by simp [said, sections, find?])
    · have hkeys : (key = "configuration" ∧ value = "Debug") ∨
          (key = "build_folder" ∧ value = "build") := by simpa using hk
      rcases hkeys with ⟨rfl, -⟩ | ⟨rfl, -⟩
      · exact absurd h (by simp [said, sections, find?])
      · exact absurd h (by simp [said, sections, find?])
    · exact absurd hk List.not_mem_nil

/-- What is laid out, and what the default has otherwise, is what the configuration has. -/
theorem said_or_default (h : c.LaidOut ss) (name key : String) :
    (said ss name key <|> said ({} : Config).sections name key) = said c.sections name key := by
  cases hs : said ss name key with
  | some value => exact (h.sound name key value hs).symm
  | none =>
    show said ({} : Config).sections name key = said c.sections name key
    cases hc : said c.sections name key with
    | none => exact said_default_of_none hc
    | some value =>
      rcases h.complete name key value hc with hm | hd
      · rw [hs] at hm
        exact absurd hm (by simp)
      · exact hd

/-- **Over the default configuration** what is laid out gives the configuration back. -/
theorem onto_default_of_laidOut (h : c.LaidOut ss) :
    ∃ env, (Given.ofSections ss).onto {} = { c with env } ∧
      ∀ name, env.get? name = c.env.get? name := by
  have hget : ∀ {o : Option String} {d v : String}, (o <|> some d) = some v → o.getD d = v := by
    intro o d v ho
    cases o with
    | none => exact Option.some.inj ho
    | some u => exact Option.some.inj ho
  have hbinary := hget (said_or_default h "cmake" "binary")
  have hconfiguration := hget (said_or_default h "project" "configuration")
  have hbuildFolder := hget (said_or_default h "project" "build_folder")
  have htoolchain : (said ss "project" "toolchain" <|> none) = c.toolchain :=
    (said_or_default h "project" "toolchain").trans (said_toolchain c)
  refine ⟨((Given.ofSections ss).onto {}).env, ?_, fun name => ?_⟩
  · simp only [Given.onto, Given.ofSections, hbinary, hconfiguration, hbuildFolder, htoolchain]
  · have hname : (said ss "env" name <|> none) = c.env.get? name := said_or_default h "env" name
    rw [← hname, get?_env_ofSections h.distinct]
    cases said ss "env" name <;> rfl

/-! ## Loading what was written -/

/-- The texts that a configuration can be written as. -/
def WrittenAs (c : Config) (text : String) : Prop :=
  ∃ ss, c.LaidOut ss ∧ Toml.Written (ss.flatMap Section.lines) text.toList

theorem ofText_written {text : String} (h : c.WrittenAs text) (path : String) :
    ∃ env, ofText path text = .ok { c with env } ∧ ∀ name, env.get? name = c.env.get? name := by
  obtain ⟨ss, hl, hw⟩ := h
  obtain ⟨env, henv, hget⟩ := onto_default_of_laidOut hl
  have hread : ofEntries (ss.map Section.entry) = .ok { c with env } :=
    (entriesGive_sections hl.distinct hl.known {}).trans (congrArg _ henv)
  refine ⟨env, ?_, hget⟩
  simp only [ofText, Toml.parse?_sections hl.distinct hw, hread]
  rfl

/-- Every configuration can be written. -/
theorem exists_writtenAs (c : Config) : ∃ text, c.WrittenAs text := by
  refine ⟨String.ofList ((c.sections.flatMap Section.lines).flatMap Toml.Line.chars),
    c.sections, laidOut_sections c, ?_⟩
  rw [String.toList_ofList]
  exact Toml.written_chars _

/-- **A configuration that is written is loaded**, from any file with that text and however it was
written. The variables come back as they were, in the order of the text. -/
theorem load_written (w : World) (c : Config) {path text : String} {executable : Bool}
    (hc : c.WrittenAs text) (hn : '\x00' ∉ path.toList)
    (hf : w.tree.find w.cwd (Bytes.ofString path) =
      .ok (.file (Bytes.ofString text) executable)) :
    ∃ env : TextBindings, load w path = .ok { c with env } ∧
      loadOrDefault w path = .ok { c with env } ∧ ∀ name, env.get? name = c.env.get? name := by
  obtain ⟨hholds, hread⟩ := World.readText_of_file hn hf
  obtain ⟨env, hload, hget⟩ := ofText_written hc path
  have hl : load w path = .ok { c with env } := by simp only [load, hread, hload]
  exact ⟨env, hl, (loadOrDefault_of_holds hholds).trans hl, hget⟩

/-- A configuration with quotes, escapes and control characters in its texts. -/
def oddTexts : Config where
  cmakeBinary := "a\"b\\"
  buildFolder := ""
  env :=
    { entries := [("", "=\n"), ("a.b", "\x07é")]
      distinct := by decide }

/-- The sections of that configuration in another order, without the text that is a default. -/
def oddSections : List Section :=
  [("env", [("a.b", "\x07é"), ("", "=\n")]), ("project", [("build_folder", "")]),
    ("cmake", [("binary", "a\"b\\")])]

/-- One way to write them. -/
def oddText : String :=
  "[env]\r\n\"a.b\" = \"\\u0007é\"\n\"\"=\"=\\n\"\n\n[project]\nbuild_folder = \"\"\n" ++
    "[cmake]\nbinary\t= \"a\\\"b\\U0000005C\""

theorem oddTexts_laidOut : oddTexts.LaidOut oddSections := by
  have hd : DistinctSections oddSections := ⟨by decide, by decide⟩
  exact laidOut_of_forall hd (by decide) (by decide) (by decide)

theorem oddText_written : Written (oddSections.flatMap Section.lines) oddText.toList := by
  have hbell : Spells '\x07' ['\\', 'u', '0', '0', '0', '7'] :=
    .number (show ('u', ['0', '0', '0', '7'].length) ∈ numberEscapes by decide)
      (List.all_eq_true.1 rfl) (by decide)
  have hbackslash : Spells '\\' ['\\', 'U', '0', '0', '0', '0', '0', '0', '5', 'C'] :=
    .number (show ('U', ['0', '0', '0', '0', '0', '0', '5', 'C'].length) ∈ numberEscapes by decide)
      (List.all_eq_true.1 rfl) (by decide)
  have hdotted : Quoted "a.b" ['"', 'a', '.', 'b', '"'] :=
    .intro (s := "a.b") (.cons (.plain (by decide)) (.cons (.plain (by decide))
      (.cons (.plain (by decide)) .nil)))
  have hempty : Quoted "" ['"', '"'] := .intro (s := "") .nil
  have hfirst : Quoted "\x07é" ['"', '\\', 'u', '0', '0', '0', '7', 'é', '"'] :=
    .intro (s := "\x07é") (.cons hbell (.cons (.plain (by decide)) .nil))
  have hsecond : Quoted "=\n" ['"', '=', '\\', 'n', '"'] :=
    .intro (s := "=\n") (.cons (.plain (by decide)) (.cons (.short (by decide)) .nil))
  have hbinary : Quoted "a\"b\\"
      ['"', 'a', '\\', '"', 'b', '\\', 'U', '0', '0', '0', '0', '0', '0', '5', 'C', '"'] :=
    .intro (s := "a\"b\\") (.cons (.plain (by decide)) (.cons (.short (by decide))
      (.cons (.plain (by decide)) (.cons hbackslash .nil))))
  have hbare : ∀ {k : String}, k.toList ≠ [] → k.toList.all Toml.isBareChar = true →
      KeyWritten k k.toList := fun hne h => .bare hne (List.all_eq_true.1 h)
  have hspace : ∀ c ∈ [' '], Toml.isBlank c = true := List.all_eq_true.1 rfl
  have htab : ∀ c ∈ ['\t'], Toml.isBlank c = true := List.all_eq_true.1 rfl
  have hcmake := Written.header (hbare (k := "cmake") (by decide) rfl) (.feed _)
    (.binding (hbare (k := "binary") (by decide) rfl) htab hspace hbinary .text .nil)
  have hproject := Written.header (hbare (k := "project") (by decide) rfl) (.feed _)
    (.binding (hbare (k := "build_folder") (by decide) rfl) hspace hspace hempty (.feed _) hcmake)
  exact Written.header (hbare (k := "env") (by decide) rfl) (.returnFeed _)
    (.binding (.quoted hdotted) hspace hspace hfirst (.feed _)
      (.binding (.quoted hempty) (a := []) (b := []) (by simp) (by simp) hsecond (.feed _)
        (.empty (.feed _) hproject)))

/-- The file with that text gives the configuration back. -/
theorem oddTexts_loaded :
    let w : World := { tree := { entries :=
      [([Bytes.ofString "cmakew.toml"], .file (Bytes.ofString oddText) false)] } }
    ∃ env : TextBindings, load w "cmakew.toml" = .ok { oddTexts with env } ∧
      loadOrDefault w "cmakew.toml" = .ok { oddTexts with env } ∧
      ∀ name, env.get? name = oddTexts.env.get? name := by
  intro w
  exact load_written w oddTexts ⟨oddSections, oddTexts_laidOut, oddText_written⟩ (by decide) rfl

end Config

end CmakeDriver
