import CmakeDriver.Proofs.Config.Acceptance

/-!
# Sections that are no tables

A section should be a table. Most other values are refused in its place, but two kinds of values are
read as if they were one: a date or time as a table with a single key, and in `cmake` and `project`
an array as the keys of the section in order. Reading a document with such values is reading the
document with those tables in their place, so which documents are configurations is decided there.

Results:
* `readSection_of_standsFor`: a section is decoded as the table that its value stands for.
* `fits_iff`: which values are accepted as a section.
* `exists_ofEntries_iff_fits`: which documents are configurations, whatever their sections are.
* `refused_or_stands_in`: what becomes of sections that are no tables when a file is loaded.
* `array_loaded`: documents that load though their sections are no tables.
-/

namespace CmakeDriver

namespace Config

open Toml (Value Entries DateTime)

/-! ## What stands for a table -/

/-- **The tables that values stand for.** In any section a table stands for itself and a date or
time for the table with its text; in `cmake` and `project` an array that is long enough stands for
the keys in order. -/
inductive StandsFor : String → Value → Entries → Prop
  | table (name : String) (es : Entries) : StandsFor name (.table es) es
  | dateTime (name : String) (d : DateTime) :
      StandsFor name (.dateTime d) [(dateTimeKey, .text d.text)]
  | cmakeArray (binary : Value) (others : List Value) :
      StandsFor "cmake" (.array (binary :: others)) [("binary", binary)]
  | projectArray (configuration buildFolder toolchain : Value) (others : List Value) :
      StandsFor "project" (.array (configuration :: buildFolder :: toolchain :: others))
        [("configuration", configuration), ("build_folder", buildFolder), ("toolchain", toolchain)]

/-- A document with tables in place of what stands for them. -/
def StandIns (entries tables : Entries) : Prop :=
  List.Forall₂ (fun e t => ∃ es, StandsFor e.1 e.2 es ∧ t = (e.1, .table es)) entries tables

/-- **The values that are accepted though they are no tables.** An array has texts for all keys of
its section in front. -/
inductive TakenForTable : String → Value → Prop
  | dateTime (name : String) (d : DateTime) : TakenForTable name (.dateTime d)
  | cmakeArray (binary : String) (others : List Value) :
      TakenForTable "cmake" (.array (.text binary :: others))
  | projectArray (configuration buildFolder toolchain : String) (others : List Value) :
      TakenForTable "project"
        (.array (.text configuration :: .text buildFolder :: .text toolchain :: others))

/-- Where a section looks for a text, these entries have one. -/
def HasTexts (name : String) (es : Entries) : Prop :=
  ∀ key v, Matters name key → (key, v) ∈ es → ∃ s, v = .text s

/-- The values with which a section is accepted. -/
inductive Fits : String → Value → Prop
  | table {name : String} {es : Entries} (h : HasTexts name es) : Fits name (.table es)
  | standIn {name : String} {v : Value} (h : TakenForTable name v) : Fits name v

variable {entries tables es : Entries} {name : String} {v : Value} {c d : Config}

/-! ## A section is decoded as the table that its value stands for -/

theorem readProject_array_of_long {items : List Value} (h : ¬ items.length < projectKeys.length)
    (d : Config) :
    readProject d (.array items) = (projectKeys.zip items).foldlM readProjectEntry d := by
  simp [readProject, h]

/-- **A section is decoded as the table that its value stands for**, with the same fault if any. -/
theorem readSection_of_standsFor (h : StandsFor name v es) (d : Config) :
    readSection d (name, v) = readSection d (name, .table es) := by
  cases h with
  | table => rfl
  | dateTime => rfl
  | cmakeArray binary others =>
    show readCmakeEntry d ("binary", binary) = [("binary", binary)].foldlM readCmakeEntry d
    simp
  | projectArray configuration buildFolder toolchain others =>
    exact readProject_array_of_long (by simp [projectKeys]) d

/-- A section that is decoded has a value that stands for a table. -/
theorem exists_standsFor (h : readSection d (name, v) = .ok c) : ∃ es, StandsFor name v es := by
  have hname := mem_sectionNames_of_readSection h
  simp only [sectionNames, List.mem_cons, List.not_mem_nil, or_false] at hname
  cases v with
  | table es => exact ⟨es, .table name es⟩
  | dateTime t => exact ⟨_, .dateTime name t⟩
  | array items =>
    rcases hname with rfl | rfl | rfl
    · rcases items with _ | ⟨binary, others⟩
      · exact absurd h (by simp [readSection, readCmake])
      · exact ⟨_, .cmakeArray binary others⟩
    · -- Whether the array is long enough is asked after its elements are decoded.
      have hproject : readProject d (.array items) = .ok c := h
      obtain ⟨c', -, hlength⟩ := bind_eq_ok_iff.1 hproject
      rcases items with _ | ⟨configuration, _ | ⟨buildFolder, _ | ⟨toolchain, others⟩⟩⟩
      · exact absurd hlength (by simp [projectKeys])
      · exact absurd hlength (by simp [projectKeys])
      · exact absurd hlength (by simp [projectKeys])
      · exact ⟨_, .projectArray configuration buildFolder toolchain others⟩
    · exact absurd h (by simp [readSection, readEnv, entries?])
  | _ =>
    rcases hname with rfl | rfl | rfl
    · exact absurd h (by simp [readSection, readCmake, entries?])
    · exact absurd h (by simp [readSection, readProject, entries?])
    · exact absurd h (by simp [readSection, readEnv, entries?])

theorem hasTexts_of_forall (h : ∀ e ∈ es, ∃ s, e.2 = .text s) : HasTexts name es :=
  fun _ _ _ hv => h _ hv

/-- **The values that fit are those that stand for a table with texts where they matter.** -/
theorem fits_iff : Fits name v ↔ ∃ es, StandsFor name v es ∧ HasTexts name es := by
  constructor
  · rintro (h | h)
    · exact ⟨_, .table name _, h⟩
    · cases h with
      | dateTime _ day => exact ⟨_, .dateTime name day, hasTexts_of_forall (by simp)⟩
      | cmakeArray binary others => exact ⟨_, .cmakeArray _ others, hasTexts_of_forall (by simp)⟩
      | projectArray configuration buildFolder toolchain others =>
        exact ⟨_, .projectArray _ _ _ others, hasTexts_of_forall (by simp)⟩
  · rintro ⟨es, hes, h⟩
    cases hes with
    | table => exact .table h
    | dateTime _ day => exact .standIn (.dateTime name day)
    | cmakeArray binary others =>
      obtain ⟨s, rfl⟩ := h "binary" binary .binary List.mem_cons_self
      exact .standIn (.cmakeArray s others)
    | projectArray configuration buildFolder toolchain others =>
      obtain ⟨s₁, rfl⟩ := h "configuration" configuration .configuration (by simp)
      obtain ⟨s₂, rfl⟩ := h "build_folder" buildFolder .buildFolder (by simp)
      obtain ⟨s₃, rfl⟩ := h "toolchain" toolchain .toolchain (by simp)
      exact .standIn (.projectArray s₁ s₂ s₃ others)

theorem fits_of_readSection (h : readSection d (name, v) = .ok c) : Fits name v := by
  obtain ⟨es, hes⟩ := exists_standsFor h
  rw [readSection_of_standsFor hes] at h
  exact fits_iff.2 ⟨es, hes, fun _ _ hm hv => exists_text_of_readSection h hm hv⟩

/-! ## Documents -/

theorem ofEntries_of_standIns (h : StandIns entries tables) :
    ofEntries entries = ofEntries tables := by
  have hfold : ∀ d, entries.foldlM readSection d = tables.foldlM readSection d := by
    induction h with
    | nil => exact fun _ => rfl
    | @cons e t _ _ hstands _ ih =>
      obtain ⟨es, hes, rfl⟩ := hstands
      intro d
      rw [List.foldlM_cons, List.foldlM_cons, readSection_of_standsFor hes]
      exact bind_congr ih
  exact hfold {}

theorem StandsFor.distinct (h : StandsFor name v es) (hv : v.Distinct) :
    (Value.table es).Distinct := by
  cases h with
  | table => exact hv
  | dateTime => exact .table (by simp) (by simp [Value.Distinct.text])
  | cmakeArray =>
    cases hv with
    | array hitems =>
      refine .table (by simp) fun e he => ?_
      obtain rfl := List.mem_singleton.1 he
      exact hitems _ List.mem_cons_self
  | projectArray =>
    cases hv with
    | array hitems =>
      refine .table (by simp) ?_
      simp only [List.forall_mem_cons] at hitems ⊢
      exact ⟨hitems.1, hitems.2.1, hitems.2.2.1, fun _ h => absurd h List.not_mem_nil⟩

theorem StandIns.map_fst (h : StandIns entries tables) :
    tables.map Prod.fst = entries.map Prod.fst := by
  induction h with
  | nil => rfl
  | cons hstands _ ih =>
    obtain ⟨es, -, rfl⟩ := hstands
    simp [ih]

theorem StandIns.exists_of_mem (h : StandIns entries tables) {t : String × Value}
    (ht : t ∈ tables) : ∃ e ∈ entries, ∃ es, StandsFor e.1 e.2 es ∧ t = (e.1, .table es) := by
  induction h with
  | nil => exact absurd ht List.not_mem_nil
  | @cons e t' _ _ hstands _ ih =>
    rcases List.mem_cons.1 ht with rfl | ht
    · exact ⟨e, List.mem_cons_self, hstands⟩
    · obtain ⟨e', he', hstands'⟩ := ih ht
      exact ⟨e', List.mem_cons_of_mem _ he', hstands'⟩

theorem StandIns.sectionsAreTables (h : StandIns entries tables) : SectionsAreTables tables := by
  intro t ht _
  obtain ⟨e, -, es, -, rfl⟩ := h.exists_of_mem ht
  exact ⟨es, rfl⟩

theorem StandIns.distinct (h : StandIns entries tables) (hd : (Value.table entries).Distinct) :
    (Value.table tables).Distinct := by
  cases hd with
  | table names hvalues =>
    refine .table (h.map_fst ▸ names) fun t ht => ?_
    obtain ⟨e, he, es, hes, rfl⟩ := h.exists_of_mem ht
    exact hes.distinct (hvalues e he)

/-- Values that fit stand for tables with which the document is acceptable. -/
theorem exists_standIns (h : ∀ e ∈ entries, e.1 ∈ sectionNames ∧ Fits e.1 e.2) :
    ∃ tables, StandIns entries tables ∧ Acceptable tables := by
  induction entries with
  | nil =>
    refine ⟨[], .nil, by simp, ?_⟩
    rintro _ _ _ _ ⟨_, he, _⟩
    exact absurd he List.not_mem_nil
  | cons e rest ih =>
    obtain ⟨⟨hknown, hfits⟩, hrest⟩ := List.forall_mem_cons.1 h
    obtain ⟨tables, htables, ha⟩ := ih hrest
    obtain ⟨es, hes, htexts⟩ := fits_iff.1 hfits
    refine ⟨(e.1, .table es) :: tables, .cons ⟨es, hes, rfl⟩ htables,
      List.forall_mem_cons.2 ⟨hknown, ha.known⟩, ?_⟩
    rintro name key v hm ⟨es', he, hv⟩
    rcases List.mem_cons.1 he with he | he
    · obtain ⟨rfl, hes'⟩ := Prod.mk.inj he
      obtain rfl := Value.table.inj hes'
      exact htexts key v hm hv
    · exact ha.texts name key v hm ⟨es', he, hv⟩

/-- **Which documents are configurations**, whatever their sections are. -/
theorem exists_ofEntries_iff_fits (hd : (Value.table entries).Distinct) :
    (∃ c, ofEntries entries = .ok c) ↔ ∀ e ∈ entries, e.1 ∈ sectionNames ∧ Fits e.1 e.2 := by
  constructor
  · rintro ⟨c, hc⟩ e he
    obtain ⟨d, c', hs⟩ := exists_of_foldlM_eq_ok hc e he
    exact ⟨mem_sectionNames_of_readSection hs, fits_of_readSection hs⟩
  · intro h
    obtain ⟨tables, hs, ha⟩ := exists_standIns h
    rw [ofEntries_of_standIns hs]
    exact (exists_ofEntries_iff (hs.distinct hd) hs.sectionsAreTables).2 ha

/-! ## Loading -/

variable {w : World} {path : String}

theorem load_eq_shape (hd : HoldsDocument w path entries) (h : ¬ ∃ c, load w path = .ok c) :
    ∃ fault, load w path = .error (.shape path fault) := by
  obtain ⟨text, hr, hp⟩ := hd
  simp only [load, hr, ofText, hp] at h ⊢
  cases ho : ofEntries entries with
  | error fault => exact ⟨fault, rfl⟩
  | ok c => exact absurd ⟨c, by rw [ho]; rfl⟩ h

/-- **Sections that are no tables are refused, or stand for tables**, in any file with a document.
The document loads exactly if it has no other sections than those of a configuration, each with a
value that fits: a table with texts where they matter, or what is taken for one. With any other
value loading is a fault of the document's shape, and the default configuration never stands in.
What loads is what the document describes with the tables that its values stand for. -/
theorem refused_or_stands_in (hd : HoldsDocument w path entries) :
    loadOrDefault w path = load w path ∧
    (∀ name v, (name, v) ∈ entries → (∀ es, v ≠ .table es) → ¬ TakenForTable name v →
      ∃ fault, load w path = .error (.shape path fault)) ∧
    ((∃ c, load w path = .ok c) ↔ ∀ e ∈ entries, e.1 ∈ sectionNames ∧ Fits e.1 e.2) ∧
    ∀ c, load w path = .ok c → ∃ tables, StandIns entries tables ∧ Describes tables c := by
  have hloads : (∃ c, load w path = .ok c) ↔
      ∀ e ∈ entries, e.1 ∈ sectionNames ∧ Fits e.1 e.2 := by
    simp only [load_eq_ok_iff hd]
    exact exists_ofEntries_iff_fits hd.distinct
  refine ⟨loadOrDefault_of_holdsDocument hd, fun name v he htable htaken => ?_, hloads,
    fun c hc => ?_⟩
  · refine load_eq_shape hd fun hc => ?_
    obtain ⟨-, hfits⟩ := hloads.1 hc _ he
    cases hfits with
    | table => exact htable _ rfl
    | standIn h => exact htaken h
  · obtain ⟨tables, hs, -⟩ := exists_standIns (hloads.1 ⟨c, hc⟩)
    have htables : ofEntries tables = .ok c :=
      (ofEntries_of_standIns hs).symm.trans ((load_eq_ok_iff hd).1 hc)
    exact ⟨tables, hs,
      describes_of_ofEntries (hs.distinct hd.distinct) hs.sectionsAreTables htables⟩

/-! ## Documents of one section -/

/-- Files whose documents have one section, which is no table. -/
def loneSections : World :=
  { tree := { entries :=
    [([Bytes.ofString "text.toml"], .file (Bytes.ofString "cmake = 'ninja'\n") false),
      ([Bytes.ofString "array.toml"], .file (Bytes.ofString "cmake = ['ninja']\n") false),
      ([Bytes.ofString "date.toml"], .file (Bytes.ofString "env = 1979-05-27\n") false)] } }

/-- A text in place of a section is refused. -/
theorem textSection_refused :
    HoldsDocument loneSections "text.toml" [("cmake", .text "ninja")] ∧
      ∃ fault, load loneSections "text.toml" = .error (.shape "text.toml" fault) := by
  have hd : HoldsDocument loneSections "text.toml" [("cmake", .text "ninja")] :=
    ⟨"cmake = 'ninja'\n", (World.readText_of_file (by decide) rfl).2, by decide +kernel⟩
  have htaken : ∀ name s, ¬ TakenForTable name (.text s) := by rintro _ _ ⟨⟩
  obtain ⟨-, hrefused, -⟩ := refused_or_stands_in hd
  exact ⟨hd, hrefused "cmake" (.text "ninja") List.mem_cons_self (by simp) (htaken _ _)⟩

/-- **Not every section that is no table is refused**: an array and a date load. -/
theorem array_loaded :
    let ninja : Config := { cmakeBinary := "ninja" }
    let dated : Config := { env := .ofList [(dateTimeKey, "1979-05-27")] }
    (HoldsDocument loneSections "array.toml" [("cmake", .array [.text "ninja"])] ∧
      load loneSections "array.toml" = .ok ninja ∧
      loadOrDefault loneSections "array.toml" = .ok ninja) ∧
    ∃ day, HoldsDocument loneSections "date.toml" [("env", .dateTime day)] ∧
      load loneSections "date.toml" = .ok dated ∧
      loadOrDefault loneSections "date.toml" = .ok dated := by
  intro ninja dated
  have harray : HoldsDocument loneSections "array.toml" [("cmake", .array [.text "ninja"])] :=
    ⟨"cmake = ['ninja']\n", (World.readText_of_file (by decide) rfl).2, by decide +kernel⟩
  have hdate : HoldsDocument loneSections "date.toml"
      [("env", .dateTime { date := some ⟨1979, 5, 27⟩, time := none })] :=
    ⟨"env = 1979-05-27\n", (World.readText_of_file (by decide) rfl).2, by decide +kernel⟩
  have hninja := (load_eq_ok_iff (c := ninja) harray).2 rfl
  have hdated := (load_eq_ok_iff (c := dated) hdate).2 rfl
  exact ⟨⟨harray, hninja, (loadOrDefault_of_holdsDocument harray).trans hninja⟩,
    _, hdate, hdated, (loadOrDefault_of_holdsDocument hdate).trans hdated⟩

end Config

end CmakeDriver
