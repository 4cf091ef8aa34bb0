import CmakeDriver.Proofs.Config.Absence
import CmakeDriver.Proofs.Config.Sections
import CmakeDriver.Proofs.Toml.Distinct
import CmakeDriver.Proofs.Toml.Forms

/-!
# Which documents are configurations

A document whose sections are tables is a configuration exactly if it has no other section than
those of a configuration, and a text wherever a configuration looks for one. The other keys of
`cmake` and `project` are passed over, whatever their values are, so what is left to decode is a
document of plain sections. The configuration follows from what the document says at the keys that
matter; order and form do not.

Out of scope: a text that keeps to the grammar and is nested deeper than the reader goes. It refuses
such a text, which is no document here.

Results:
* `exists_ofEntries_iff`: which documents are configurations.
* `describes_of_ofEntries`: what the configuration of a document is.
* `load_iff_acceptable`: the same of the file at a path, and of all documents with the same content.
-/

namespace CmakeDriver

namespace Config

open Toml (Section DistinctSections Value Entries Layout Placed texts withoutMark)
open Toml.Reader (Reads)

/-! ## What a document says -/

/-- The keys at which a configuration looks for a text: some of `cmake` and `project`, all of
`env`. -/
inductive Matters : String → String → Prop
  | binary : Matters "cmake" "binary"
  | configuration : Matters "project" "configuration"
  | buildFolder : Matters "project" "build_folder"
  | toolchain : Matters "project" "toolchain"
  | anyVariable (key : String) : Matters "env" key

/-- A document binds a key of a section to a value. -/
def Binds (entries : Entries) (name key : String) (v : Value) : Prop :=
  ∃ es, (name, .table es) ∈ entries ∧ (key, v) ∈ es

/-- The sections of a configuration, where a document has them, are tables. -/
def SectionsAreTables (entries : Entries) : Prop :=
  ∀ e ∈ entries, e.1 ∈ sectionNames → ∃ es, e.2 = .table es

/-- **The documents that are configurations.** -/
structure Acceptable (entries : Entries) : Prop where
  /-- No other key stands at the top. -/
  known : ∀ e ∈ entries, e.1 ∈ sectionNames
  /-- What is said where it matters is a text. -/
  texts : ∀ name key v, Matters name key → Binds entries name key v → ∃ s, v = .text s

/-- A text is the one that a document says, or else the default one. -/
def SaidOrDefault (entries : Entries) (name key default actual : String) : Prop :=
  Binds entries name key (.text actual) ∨ (∀ v, ¬ Binds entries name key v) ∧ actual = default

/-- **The configuration that a document describes.** -/
structure Describes (entries : Entries) (c : Config) : Prop where
  cmakeBinary : SaidOrDefault entries "cmake" "binary" "cmake" c.cmakeBinary
  configuration : SaidOrDefault entries "project" "configuration" "Debug" c.configuration
  buildFolder : SaidOrDefault entries "project" "build_folder" "build" c.buildFolder
  toolchain : ∀ s, c.toolchain = some s ↔ Binds entries "project" "toolchain" (.text s)
  env : ∀ key s, c.env.get? key = some s ↔ Binds entries "env" key (.text s)

/-- Two documents say the same where it matters. They may have their sections and keys in another
order, and other keys besides in `cmake` and `project`. -/
structure SameContent (entries entries' : Entries) : Prop where
  known : (∀ e ∈ entries, e.1 ∈ sectionNames) ↔ ∀ e ∈ entries', e.1 ∈ sectionNames
  binds : ∀ name key v, Matters name key → (Binds entries name key v ↔ Binds entries' name key v)

variable {entries entries' es : Entries} {name key : String}

/-! ## The texts of a table -/

/-- The text that a value is, if it is one. -/
def textOf? (v : Value) : Option String :=
  (text? v).toOption

theorem textOf?_eq_some_iff {v : Value} {s : String} : textOf? v = some s ↔ v = .text s := by
  rw [textOf?, ← text?_eq_ok_iff]
  cases text? v <;> simp [Except.toOption]

/-- The keys of a table that have texts. -/
def textsOf (es : Entries) : List (String × String) :=
  es.filterMap fun e => (textOf? e.2).map fun s => (e.1, s)

theorem mem_textsOf_iff {s : String} : (key, s) ∈ textsOf es ↔ (key, .text s) ∈ es := by
  simp only [textsOf, List.mem_filterMap, Option.map_eq_some_iff, textOf?_eq_some_iff,
    Prod.mk.injEq]
  constructor
  · rintro ⟨⟨k, v⟩, he, s, rfl, rfl, rfl⟩
    exact he
  · intro he
    exact ⟨_, he, s, rfl, rfl, rfl⟩

theorem textsOf_cons_text (key s : String) (es : Entries) :
    textsOf ((key, .text s) :: es) = (key, s) :: textsOf es := rfl

theorem textsOf_cons_other {v : Value} (h : textOf? v = none) (key : String) (es : Entries) :
    textsOf ((key, v) :: es) = textsOf es := by
  simp [textsOf, h]

theorem nodup_textsOf (h : (es.map Prod.fst).Nodup) : ((textsOf es).map Prod.fst).Nodup := by
  refine h.sublist ?_
  clear h
  induction es with
  | nil => exact List.Sublist.slnil
  | cons e rest ih =>
    obtain ⟨k, v⟩ := e
    cases hv : textOf? v with
    | none =>
      rw [textsOf_cons_other hv]
      exact ih.cons k
    | some s =>
      obtain rfl := textOf?_eq_some_iff.1 hv
      rw [textsOf_cons_text]
      exact ih.cons_cons k

/-- **What is no text is passed over**, so decoding the texts of a table is decoding the table. -/
theorem foldlM_textsOf {decode : Config → String × Value → Except ShapeFault Config}
    (h : ∀ e ∈ es, textOf? e.2 = none → ∀ d, decode d e = .ok d) (d : Config) :
    (texts (textsOf es)).foldlM decode d = es.foldlM decode d := by
  induction es generalizing d with
  | nil => rfl
  | cons e rest ih =>
    obtain ⟨k, v⟩ := e
    have hrest := ih fun e he => h e (List.mem_cons_of_mem _ he)
    cases hv : textOf? v with
    | none =>
      rw [textsOf_cons_other hv, List.foldlM_cons, h _ List.mem_cons_self hv]
      exact hrest d
    | some s =>
      obtain rfl := textOf?_eq_some_iff.1 hv
      rw [textsOf_cons_text, texts, List.map_cons, List.foldlM_cons, List.foldlM_cons, ← texts]
      exact bind_congr hrest

theorem texts_textsOf (h : ∀ e ∈ es, ∃ s, e.2 = .text s) : texts (textsOf es) = es := by
  induction es with
  | nil => rfl
  | cons e rest ih =>
    obtain ⟨k, v⟩ := e
    obtain ⟨s, rfl⟩ := h _ List.mem_cons_self
    have hrest := ih fun e he => h e (List.mem_cons_of_mem _ he)
    rw [textsOf_cons_text, texts, List.map_cons, ← texts, hrest]

/-! ## Only plain sections are left -/

/-- The texts of a section. -/
def plainSection (e : String × Value) : Section :=
  match e.2 with
  | .table es => (e.1, textsOf es)
  | _ => (e.1, [])

theorem plainSection_fst (e : String × Value) : (plainSection e).1 = e.1 := by
  unfold plainSection
  split <;> rfl

theorem readSection_plainSection (hname : name ∈ sectionNames)
    (ht : ∀ key v, Matters name key → (key, v) ∈ es → ∃ s, v = .text s) (d : Config) :
    readSection d (plainSection (name, .table es)).entry = readSection d (name, .table es) := by
  -- At a key with another value than a text nothing is looked for.
  have hother : ∀ e ∈ es, textOf? e.2 = none → ¬ Matters name e.1 := by
    intro e he hnone hm
    obtain ⟨s, hs⟩ := ht e.1 e.2 hm he
    rw [textOf?_eq_some_iff.2 hs] at hnone
    exact absurd hnone (by simp)
  simp only [sectionNames, List.mem_cons, List.not_mem_nil, or_false] at hname
  rcases hname with rfl | rfl | rfl
  · show (texts (textsOf es)).foldlM readCmakeEntry d = es.foldlM readCmakeEntry d
    refine foldlM_textsOf (fun e he hnone d => ?_) d
    have hbinary : e.1 ≠ "binary" := fun h => hother e he hnone (h ▸ .binary)
    rw [readCmakeEntry, if_neg hbinary]
  · show (texts (textsOf es)).foldlM readProjectEntry d = es.foldlM readProjectEntry d
    refine foldlM_textsOf (fun e he hnone d => ?_) d
    have hconfiguration : e.1 ≠ "configuration" := fun h => hother e he hnone (h ▸ .configuration)
    have hbuildFolder : e.1 ≠ "build_folder" := fun h => hother e he hnone (h ▸ .buildFolder)
    have htoolchain : e.1 ≠ "toolchain" := fun h => hother e he hnone (h ▸ .toolchain)
    rw [readProjectEntry, if_neg hconfiguration, if_neg hbuildFolder, if_neg htoolchain]
  · have hall : texts (textsOf es) = es :=
      texts_textsOf fun e he => ht e.1 e.2 (.anyVariable e.1) he
    show readEnv d (.table (texts (textsOf es))) = readEnv d (.table es)
    rw [hall]

/-! ## Acceptance -/

theorem bind_eq_ok_iff {α β : Type} {x : Except ShapeFault α} {f : α → Except ShapeFault β}
    {b : β} : x >>= f = .ok b ↔ ∃ a, x = .ok a ∧ f a = .ok b := by
  cases x <;> simp [bind, Except.bind]

/-- Items that are decoded together are each decoded. -/
theorem exists_of_foldlM_eq_ok {α : Type} {decode : Config → α → Except ShapeFault Config}
    {items : List α} {d c : Config} (h : items.foldlM decode d = .ok c) :
    ∀ item ∈ items, ∃ d' c', decode d' item = .ok c' := by
  induction items generalizing d with
  | nil => exact fun _ h => absurd h List.not_mem_nil
  | cons item rest ih =>
    rw [List.foldlM_cons] at h
    obtain ⟨next, hitem, hrest⟩ := bind_eq_ok_iff.1 h
    exact List.forall_mem_cons.2 ⟨⟨d, next, hitem⟩, ih hrest⟩

theorem exists_of_mapM_eq_ok {pairs : List (String × String)}
    (h : es.mapM readVariable = .ok pairs) : ∀ e ∈ es, ∃ p, readVariable e = .ok p := by
  induction es generalizing pairs with
  | nil => exact fun _ h => absurd h List.not_mem_nil
  | cons e rest ih =>
    rw [List.mapM_cons] at h
    obtain ⟨p, he, h⟩ := bind_eq_ok_iff.1 h
    obtain ⟨ps, hrest, -⟩ := bind_eq_ok_iff.1 h
    exact List.forall_mem_cons.2 ⟨⟨p, he⟩, ih hrest⟩

theorem exists_text_of_map {α : Type} {v : Value} {f : String → α} {a : α}
    (h : (text? v).map f = .ok a) : ∃ s, v = .text s := by
  cases hv : text? v with
  | error fault =>
    rw [hv] at h
    exact absurd h (by simp [Except.map])
  | ok s => exact ⟨s, text?_eq_ok_iff.1 hv⟩

theorem mem_sectionNames_of_readSection {e : String × Value} {d c : Config}
    (h : readSection d e = .ok c) : e.1 ∈ sectionNames := by
  unfold readSection at h
  by_cases hc : e.1 = "cmake"
  · simp [sectionNames, hc]
  by_cases hp : e.1 = "project"
  · simp [sectionNames, hp]
  by_cases he : e.1 = "env"
  · simp [sectionNames, he]
  · simp [hc, hp, he] at h

/-- A section that is decoded has texts where it matters. -/
theorem exists_text_of_readSection {d c : Config} (h : readSection d (name, .table es) = .ok c)
    (hm : Matters name key) {v : Value} (hv : (key, v) ∈ es) : ∃ s, v = .text s := by
  cases hm with
  | binary =>
    have hcmake : es.foldlM readCmakeEntry d = .ok c := h
    obtain ⟨d', c', he⟩ := exists_of_foldlM_eq_ok hcmake _ hv
    exact exists_text_of_map he
  | configuration | buildFolder | toolchain =>
    have hproject : es.foldlM readProjectEntry d = .ok c := h
    obtain ⟨d', c', he⟩ := exists_of_foldlM_eq_ok hproject _ hv
    exact exists_text_of_map he
  | anyVariable =>
    have henv : (es.mapM readVariable >>= fun pairs =>
        pure { d with env := Bindings.ofList pairs }) = .ok c := h
    obtain ⟨pairs, hp, -⟩ := bind_eq_ok_iff.1 henv
    obtain ⟨p, he⟩ := exists_of_mapM_eq_ok hp _ hv
    exact exists_text_of_map he

theorem acceptable_of_ofEntries {c : Config} (h : ofEntries entries = .ok c) :
    Acceptable entries where
  known := by
    intro e he
    obtain ⟨d, c', hs⟩ := exists_of_foldlM_eq_ok h e he
    exact mem_sectionNames_of_readSection hs
  texts := by
    rintro name key v hm ⟨es, he, hv⟩
    obtain ⟨d, c', hs⟩ := exists_of_foldlM_eq_ok h _ he
    exact exists_text_of_readSection hs hm hv

/-! ## What an acceptable document gives -/

theorem distinctSections_map_plainSection (h : (Value.table entries).Distinct) :
    DistinctSections (entries.map plainSection) where
  names := by
    cases h with
    | table keys _ =>
      rw [List.map_map]
      have hfst : Prod.fst ∘ plainSection = Prod.fst := funext plainSection_fst
      rwa [hfst]
  keys := by
    cases h with
    | table _ hvalues =>
      intro s hs
      obtain ⟨⟨name, v⟩, he, rfl⟩ := List.mem_map.1 hs
      cases hvalues _ he with
      | table keys _ => exact nodup_textsOf keys
      | _ => exact List.nodup_nil

theorem foldlM_plainSections (hs : SectionsAreTables entries) (ha : Acceptable entries)
    (d : Config) :
    ((entries.map plainSection).map Section.entry).foldlM readSection d =
      entries.foldlM readSection d := by
  have hone : ∀ e ∈ entries, ∀ d,
      readSection d (plainSection e).entry = readSection d e := by
    rintro ⟨name, v⟩ he d
    have hname := ha.known _ he
    obtain ⟨es, rfl⟩ : ∃ es, v = .table es := hs _ he hname
    exact readSection_plainSection hname (fun key v hm hv => ha.texts name key v hm ⟨es, he, hv⟩) d
  clear hs ha
  induction entries generalizing d with
  | nil => rfl
  | cons e rest ih =>
    simp only [List.map_cons, List.foldlM_cons, hone e List.mem_cons_self]
    exact bind_congr fun d => ih d fun e he => hone e (List.mem_cons_of_mem _ he)

theorem said_plainSections_iff (hd : (Value.table entries).Distinct) {s : String} :
    said (entries.map plainSection) name key = some s ↔ Binds entries name key (.text s) := by
  rw [said_eq_some_iff (distinctSections_map_plainSection hd)]
  constructor
  · rintro ⟨sec, hsec, rfl, hp⟩
    obtain ⟨⟨name, v⟩, he, rfl⟩ := List.mem_map.1 hsec
    cases v with
    | table es => exact ⟨es, he, mem_textsOf_iff.1 hp⟩
    | _ => exact absurd hp List.not_mem_nil
  · rintro ⟨es, he, hp⟩
    exact ⟨_, List.mem_map_of_mem he, rfl, mem_textsOf_iff.2 hp⟩

theorem saidOrDefault_getD (hd : (Value.table entries).Distinct) (ha : Acceptable entries)
    (hm : Matters name key) (default : String) :
    SaidOrDefault entries name key default
      ((said (entries.map plainSection) name key).getD default) := by
  cases hs : said (entries.map plainSection) name key with
  | some s => exact .inl ((said_plainSections_iff hd).1 hs)
  | none =>
    refine .inr ⟨fun v hv => ?_, rfl⟩
    obtain ⟨s, rfl⟩ := ha.texts name key v hm hv
    rw [(said_plainSections_iff hd).2 hv] at hs
    exact absurd hs (by simp)

/-- **An acceptable document is a configuration**, the one that it describes. -/
theorem exists_describes (hd : (Value.table entries).Distinct) (hs : SectionsAreTables entries)
    (ha : Acceptable entries) : ∃ c, ofEntries entries = .ok c ∧ Describes entries c := by
  have hdistinct := distinctSections_map_plainSection hd
  have hknown : ∀ s ∈ entries.map plainSection, s.1 ∈ sectionNames := by
    intro s hm
    obtain ⟨e, he, rfl⟩ := List.mem_map.1 hm
    rw [plainSection_fst]
    exact ha.known e he
  have hgive := entriesGive_sections hdistinct hknown
  refine ⟨(Given.ofSections (entries.map plainSection)).onto {},
    (foldlM_plainSections hs ha {}).symm.trans (hgive {}), ?_, ?_, ?_, fun s => ?_, fun key s => ?_⟩
  · exact saidOrDefault_getD hd ha .binary "cmake"
  · exact saidOrDefault_getD hd ha .configuration "Debug"
  · exact saidOrDefault_getD hd ha .buildFolder "build"
  · rw [Given.toolchain_onto_default]
    exact said_plainSections_iff hd
  · rw [get?_env_ofSections hdistinct]
    exact said_plainSections_iff hd

theorem exists_ofEntries_iff (hd : (Value.table entries).Distinct)
    (hs : SectionsAreTables entries) : (∃ c, ofEntries entries = .ok c) ↔ Acceptable entries := by
  constructor
  · rintro ⟨c, hc⟩
    exact acceptable_of_ofEntries hc
  · intro ha
    obtain ⟨c, hc, -⟩ := exists_describes hd hs ha
    exact ⟨c, hc⟩

theorem describes_of_ofEntries (hd : (Value.table entries).Distinct)
    (hs : SectionsAreTables entries) {c : Config} (h : ofEntries entries = .ok c) :
    Describes entries c := by
  obtain ⟨c', hc', hdescribes⟩ := exists_describes hd hs (acceptable_of_ofEntries h)
  obtain rfl : c = c' := Except.ok.inj (h.symm.trans hc')
  exact hdescribes

/-! ## The same content -/

theorem SameContent.symm (h : SameContent entries entries') : SameContent entries' entries :=
  ⟨h.known.symm, fun name key v hm => (h.binds name key v hm).symm⟩

theorem SameContent.acceptable (h : SameContent entries entries') (ha : Acceptable entries) :
    Acceptable entries' where
  known := h.known.1 ha.known
  texts := fun name key v hm hv => ha.texts name key v hm ((h.binds name key v hm).2 hv)

theorem SameContent.saidOrDefault (h : SameContent entries entries') (hm : Matters name key)
    {default actual : String} (hs : SaidOrDefault entries name key default actual) :
    SaidOrDefault entries' name key default actual :=
  hs.imp (h.binds name key _ hm).1
    fun hnone => ⟨fun v hv => hnone.1 v ((h.binds name key v hm).2 hv), hnone.2⟩

theorem SameContent.describes (h : SameContent entries entries') {c : Config}
    (hd : Describes entries c) : Describes entries' c where
  cmakeBinary := h.saidOrDefault .binary hd.cmakeBinary
  configuration := h.saidOrDefault .configuration hd.configuration
  buildFolder := h.saidOrDefault .buildFolder hd.buildFolder
  toolchain := fun s => (hd.toolchain s).trans (h.binds _ _ _ .toolchain)
  env := fun key s => (hd.env key s).trans (h.binds _ _ _ (.anyVariable key))

/-! ## One configuration is described -/

theorem Binds.unique (hd : (Value.table entries).Distinct) {v v' : Value}
    (h : Binds entries name key v) (h' : Binds entries name key v') : v = v' := by
  obtain ⟨es, he, hv⟩ := h
  obtain ⟨es', he', hv'⟩ := h'
  cases hd with
  | table names hvalues =>
    obtain rfl : es = es' := by
      have hfind := (Bindings.find?_eq_some_iff names).2 he
      rw [(Bindings.find?_eq_some_iff names).2 he'] at hfind
      exact (Value.table.inj (Option.some.inj hfind)).symm
    cases hvalues _ he with
    | table keys _ =>
      have hfind := (Bindings.find?_eq_some_iff keys).2 hv
      rw [(Bindings.find?_eq_some_iff keys).2 hv'] at hfind
      exact (Option.some.inj hfind).symm

theorem SaidOrDefault.unique (hd : (Value.table entries).Distinct) {default s s' : String}
    (h : SaidOrDefault entries name key default s)
    (h' : SaidOrDefault entries name key default s') : s = s' := by
  rcases h with h | ⟨hnone, rfl⟩
  · rcases h' with h' | ⟨hnone', -⟩
    · exact Value.text.inj (h.unique hd h')
    · exact absurd h (hnone' _)
  · rcases h' with h' | ⟨-, rfl⟩
    · exact absurd h' (hnone _)
    · rfl

/-- A document describes one configuration, but for the order of the variables. -/
theorem Describes.unique (hd : (Value.table entries).Distinct) {c c' : Config}
    (h : Describes entries c) (h' : Describes entries c') :
    c' = { c with env := c'.env } ∧ c'.env.Same c.env := by
  have hbinary := h.cmakeBinary.unique hd h'.cmakeBinary
  have hconfiguration := h.configuration.unique hd h'.configuration
  have hbuildFolder := h.buildFolder.unique hd h'.buildFolder
  have htoolchain : c.toolchain = c'.toolchain :=
    Option.ext fun s => (h.toolchain s).trans (h'.toolchain s).symm
  refine ⟨?_, Bindings.same_of_some_iff fun k s => (h'.env k s).trans (h.env k s).symm⟩
  rw [hbinary, hconfiguration, hbuildFolder, htoolchain]

/-! ## Loading -/

/-- The file at a path is a document with these entries: the reader accepts its text and makes them
of it. So no value in it holds more than `Toml.maxNesting` arrays and inline tables within one
another, and no path of keys is as long as `Toml.pathLimit`. -/
def HoldsDocument (w : World) (path : String) (entries : Entries) : Prop :=
  ∃ text, w.readText (Bytes.ofString path) = .ok text ∧ Toml.parse? text = some entries

/-- Two paths load alike: both or neither, and as the same configuration, whose variables may come
in another order. -/
def LoadsAlike (w : World) (path : String) (w' : World) (path' : String) : Prop :=
  ((∃ c, load w path = .ok c) ↔ ∃ c, load w' path' = .ok c) ∧
    ∀ c, load w path = .ok c → ∃ env, load w' path' = .ok { c with env } ∧ env.Same c.env

variable {w w' : World} {path path' : String}

theorem load_eq_ok_iff (h : HoldsDocument w path entries) {c : Config} :
    load w path = .ok c ↔ ofEntries entries = .ok c := by
  obtain ⟨text, hr, hp⟩ := h
  simp only [load, hr, ofText, hp]
  cases ofEntries entries <;> simp [Except.mapError]

theorem loadOrDefault_of_holdsDocument (h : HoldsDocument w path entries) :
    loadOrDefault w path = load w path := by
  obtain ⟨text, hr, -⟩ := h
  cases hh : w.holds (Bytes.ofString path) with
  | true => exact loadOrDefault_of_holds hh
  | false =>
    obtain ⟨fault, hfault, -⟩ := World.not_holds_iff.1 hh
    rw [hr] at hfault
    exact absurd hfault (by simp)

theorem HoldsDocument.distinct (h : HoldsDocument w path entries) :
    (Value.table entries).Distinct := by
  obtain ⟨text, -, hp⟩ := h
  exact Toml.distinct_of_parse? hp

theorem exists_load_iff (hd : HoldsDocument w path entries) (hs : SectionsAreTables entries) :
    (∃ c, load w path = .ok c) ↔ Acceptable entries := by
  simp only [load_eq_ok_iff hd]
  exact exists_ofEntries_iff hd.distinct hs

theorem describes_of_load (hd : HoldsDocument w path entries) (hs : SectionsAreTables entries)
    {c : Config} (h : load w path = .ok c) : Describes entries c :=
  describes_of_ofEntries hd.distinct hs ((load_eq_ok_iff hd).1 h)

theorem loadsAlike_of_sameContent (hd : HoldsDocument w path entries)
    (hs : SectionsAreTables entries) (hd' : HoldsDocument w' path' entries')
    (hs' : SectionsAreTables entries') (h : SameContent entries entries') :
    LoadsAlike w path w' path' := by
  refine ⟨?_, fun c hc => ?_⟩
  · rw [exists_load_iff hd hs, exists_load_iff hd' hs']
    exact ⟨h.acceptable, h.symm.acceptable⟩
  · have hacceptable := h.acceptable ((exists_load_iff hd hs).1 ⟨c, hc⟩)
    obtain ⟨c', hc'⟩ := (exists_load_iff hd' hs').2 hacceptable
    have hdescribes := h.describes (describes_of_load hd hs hc)
    obtain ⟨henv, hsame⟩ := hdescribes.unique hd'.distinct (describes_of_load hd' hs' hc')
    exact ⟨c'.env, hc'.trans (congrArg _ henv), hsame⟩

theorem sectionsAreTables_layouts (ls : List Layout) :
    SectionsAreTables (ls.map Layout.entry) := by
  intro e he _
  obtain ⟨l, -, rfl⟩ := List.mem_map.1 he
  exact ⟨l.pairs, rfl⟩

/-- **Which documents load, and as what**, in any file with a document whose sections are tables. It
loads exactly if it is acceptable, as the configuration that it describes, and the default one never
stands in for it. A file with the same content loads alike: where sections and keys come in another
order, where `cmake` and `project` have other keys, and whichever of the forms each section has. -/
theorem load_iff_acceptable (hd : HoldsDocument w path entries) (hs : SectionsAreTables entries) :
    ((∃ c, load w path = .ok c) ↔ Acceptable entries) ∧
      (∀ c, load w path = .ok c → Describes entries c) ∧
      loadOrDefault w path = load w path ∧
      (∀ w' path' entries', HoldsDocument w' path' entries' → SectionsAreTables entries' →
        SameContent entries entries' → LoadsAlike w path w' path') ∧
      ∀ w' path' text ls, w'.readText (Bytes.ofString path') = .ok text → Placed ls →
        Reads (withoutMark text.toList) (ls.flatMap Layout.moves) →
          SameContent entries (ls.map Layout.entry) → LoadsAlike w path w' path' := by
  refine ⟨exists_load_iff hd hs, fun c => describes_of_load hd hs,
    loadOrDefault_of_holdsDocument hd, ?_, ?_⟩
  · intro w' path' entries' hd' hs' h
    exact loadsAlike_of_sameContent hd hs hd' hs' h
  · intro w' path' text ls hr hplaced hreads h
    have hd' : HoldsDocument w' path' (ls.map Layout.entry) :=
      ⟨text, hr, Toml.parse?_laidOut hplaced hreads⟩
    exact loadsAlike_of_sameContent hd hs hd' (sectionsAreTables_layouts ls) h

/-! ## Three sections in three forms -/

/-- Sections in three forms. -/
def threeForms : List Layout :=
  [⟨.dotted, "cmake", [("binary", .text "cmk")]⟩,
    ⟨.inline, "project", [("configuration", .text "Fast"), ("jobs", .array [.integer 4])]⟩,
    ⟨.header, "env", [("CC", .text "cc")]⟩]

/-- One way to write them. -/
def threeFormsText : String :=
  "cmake.binary='cmk'\nproject=\x7bconfiguration='Fast',jobs=[4]\x7d\n[env]\nCC='cc'"

theorem threeForms_placed : Placed threeForms :=
  ⟨by decide, by decide, by decide, by decide⟩

open Toml.Reader in
theorem threeFormsText_reads :
    Reads (withoutMark threeFormsText.toList) (threeForms.flatMap Layout.moves) := by
  have hnoMark : withoutMark threeFormsText.toList = threeFormsText.toList := by decide +kernel
  have hbinary : pair (value Toml.maxNesting) threeFormsText.toList =
      some (((["cmake"], "binary"), .text "cmk"),
        '\n' :: "project=\x7bconfiguration='Fast',jobs=[4]\x7d\n[env]\nCC='cc'".toList) := by
    decide +kernel
  have hproject : pair (value Toml.maxNesting)
      "project=\x7bconfiguration='Fast',jobs=[4]\x7d\n[env]\nCC='cc'".toList =
        some ((([], "project"),
          .table [("configuration", .text "Fast"), ("jobs", .array [.integer 4])]),
            '\n' :: "[env]\nCC='cc'".toList) := by decide +kernel
  have henv : path "env]\nCC='cc'".toList =
      some (([], "env"), ']' :: '\n' :: "CC='cc'".toList) := by decide +kernel
  have hvariable : pair (value Toml.maxNesting) "CC='cc'".toList =
      some ((([], "CC"), .text "cc"), []) := by decide +kernel
  -- From the last line back to the first one.
  have hlast : Reads "CC='cc'".toList [.bind ([], "CC") (.text "cc")] :=
    .makes (documentTurn_of_pair rfl (by decide) (by decide) hvariable rfl) (by decide)
      (.ends fun _ => rfl)
  have hheader := Reads.makes
    (documentTurn_of_path rfl (by decide) henv (lineRest_lineFeed _)) (by decide) hlast
  have hinline := Reads.makes
    (documentTurn_of_pair rfl (by decide) (by decide) hproject (lineRest_lineFeed _)) (by decide)
    hheader
  rw [hnoMark]
  exact .makes (documentTurn_of_pair rfl (by decide) (by decide) hbinary (lineRest_lineFeed _))
    (by decide) hinline

/-- The same sections under headers, in another order and with another key. -/
def underHeaders : Entries :=
  [("env", .table [("CC", .text "cc")]),
    ("cmake", .table [("binary", .text "cmk"), ("jobs", .table [("most", .integer 8)])]),
    ("project", .table [("configuration", .text "Fast")])]

/-- One way to write those. -/
def underHeadersText : String :=
  "[env]\nCC = 'cc'\n[cmake]\nbinary = 'cmk'\njobs.most = 8\n[project]\nconfiguration = 'Fast'\n"

theorem underHeaders_sameContent : SameContent underHeaders (threeForms.map Layout.entry) := by
  refine ⟨by decide, fun name key v hm => ?_⟩
  cases hm <;> simp [Binds, underHeaders, threeForms, Layout.entry]

/-- The files with those texts load alike. -/
theorem threeForms_loadsAlike :
    let w : World := { tree := { entries :=
      [([Bytes.ofString "headers.toml"], .file (Bytes.ofString underHeadersText) false),
        ([Bytes.ofString "forms.toml"], .file (Bytes.ofString threeFormsText) false)] } }
    (∃ c, load w "headers.toml" = .ok c ∧ Describes underHeaders c) ∧
      LoadsAlike w "headers.toml" w "forms.toml" := by
  intro w
  have hd : HoldsDocument w "headers.toml" underHeaders :=
    ⟨underHeadersText, (World.readText_of_file (by decide) rfl).2, by decide +kernel⟩
  have hs : SectionsAreTables underHeaders := by
    simp [SectionsAreTables, underHeaders]
  obtain ⟨hloads, hdescribes, -, -, hforms⟩ := load_iff_acceptable hd hs
  have hacceptable : Acceptable underHeaders := by
    refine ⟨by decide, fun name key v hm hv => ?_⟩
    cases hm <;> simp [Binds, underHeaders] at hv <;> simp [hv]
  obtain ⟨c, hc⟩ := hloads.2 hacceptable
  have hread : w.readText (Bytes.ofString "forms.toml") = .ok threeFormsText :=
    (World.readText_of_file (by decide) rfl).2
  exact ⟨⟨c, hc, hdescribes c hc⟩, hforms w "forms.toml" threeFormsText threeForms hread
    threeForms_placed threeFormsText_reads underHeaders_sameContent⟩

end Config

end CmakeDriver
