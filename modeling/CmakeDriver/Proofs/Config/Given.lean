import CmakeDriver.Config.Load

/-!
# What a configuration file gives

Decoding a document lays what the document gives over the configuration it starts from: a field that
the document gives has the document's value, whatever it was before, and any other field stays. So a
loaded configuration is the default one with what its file gives laid over it, and a file that is
absent gives nothing.

Results:
* `readSection_overlays`, `foldlM_overlays`: each entry of a document lays something fixed over a
  configuration, or is a fault for all of them; so do all entries together.
* `loadOrDefault_eq_ok_iff`: what a configuration loaded from a path is.
-/

namespace CmakeDriver

namespace Config

open Toml (Value Entries)

/-- What a document says about the fields of a configuration. -/
structure Given where
  cmakeBinary : Option String := none
  configuration : Option String := none
  buildFolder : Option String := none
  toolchain : Option String := none
  env : Option TextBindings := none

namespace Given

/-- The configuration `d` with what is given in place of its fields. -/
def onto (g : Given) (d : Config) : Config where
  cmakeBinary := g.cmakeBinary.getD d.cmakeBinary
  configuration := g.configuration.getD d.configuration
  buildFolder := g.buildFolder.getD d.buildFolder
  toolchain := g.toolchain <|> d.toolchain
  env := g.env.getD d.env

/-- What two documents give, where the second counts first. -/
def andThen (g h : Given) : Given where
  cmakeBinary := h.cmakeBinary <|> g.cmakeBinary
  configuration := h.configuration <|> g.configuration
  buildFolder := h.buildFolder <|> g.buildFolder
  toolchain := h.toolchain <|> g.toolchain
  env := h.env <|> g.env

/-- There is no default toolchain. -/
theorem toolchain_onto_default (g : Given) : (g.onto {}).toolchain = g.toolchain := by
  show (g.toolchain <|> none) = g.toolchain
  cases g.toolchain <;> rfl

theorem onto_andThen (g h : Given) (d : Config) : (g.andThen h).onto d = h.onto (g.onto d) := by
  obtain ⟨b, c, f, t, e⟩ := h
  cases b <;> cases c <;> cases f <;> cases t <;> cases e <;> rfl

end Given

/-! ## Decoding lays over -/

/-- A decoder that does the same to every configuration: a fault, or something laid over it. -/
def Overlays (decode : Config → Except ShapeFault Config) : Prop :=
  (∃ fault, ∀ d, decode d = .error fault) ∨ ∃ g : Given, ∀ d, decode d = .ok (g.onto d)

theorem Overlays.fault (fault : ShapeFault) : Overlays fun _ => .error fault :=
  Or.inl ⟨fault, fun _ => rfl⟩

theorem Overlays.unchanged : Overlays fun d => .ok d :=
  Or.inr ⟨{}, fun _ => rfl⟩

theorem Overlays.bind {f g : Config → Except ShapeFault Config} (hf : Overlays f)
    (hg : Overlays g) : Overlays fun d => f d >>= g := by
  rcases hf with ⟨e, he⟩ | ⟨a, ha⟩
  · refine Or.inl ⟨e, fun d => ?_⟩
    simp only [he d]
    rfl
  · rcases hg with ⟨e, he⟩ | ⟨b, hb⟩
    · refine Or.inl ⟨e, fun d => ?_⟩
      simp only [ha d]
      exact he _
    · refine Or.inr ⟨a.andThen b, fun d => ?_⟩
      simp only [ha d, Given.onto_andThen]
      exact hb _

theorem foldlM_overlays {α : Type} {decode : Config → α → Except ShapeFault Config} (items : List α)
    (h : ∀ item, Overlays fun d => decode d item) : Overlays fun d => items.foldlM decode d := by
  induction items with
  | nil => exact Overlays.unchanged
  | cons item rest ih =>
    simp only [List.foldlM_cons]
    exact Overlays.bind (h item) ih

/-- A decoder of a text lays that text over, in the field that `set` changes. -/
theorem Overlays.ofText (v : Value) {set : Config → String → Config} (g : String → Given)
    (h : ∀ d s, set d s = (g s).onto d) : Overlays fun d => (text? v).map (set d) := by
  cases hv : text? v with
  | error fault => exact Or.inl ⟨fault, fun _ => rfl⟩
  | ok s => exact Or.inr ⟨g s, fun d => congrArg Except.ok (h d s)⟩

theorem readCmakeEntry_overlays (entry : String × Value) :
    Overlays fun d => readCmakeEntry d entry := by
  unfold readCmakeEntry
  by_cases h : entry.1 = "binary"
  · simp only [h, if_true]
    exact Overlays.ofText _ (fun s => { cmakeBinary := some s }) fun _ _ => rfl
  · simp only [h, if_false]
    exact Overlays.unchanged

theorem readProjectEntry_overlays (entry : String × Value) :
    Overlays fun d => readProjectEntry d entry := by
  unfold readProjectEntry
  by_cases hc : entry.1 = "configuration"
  · simp only [hc, if_true]
    exact Overlays.ofText _ (fun s => { configuration := some s }) fun _ _ => rfl
  by_cases hb : entry.1 = "build_folder"
  · simp only [hb, if_true]
    exact Overlays.ofText _ (fun s => { buildFolder := some s }) fun _ _ => rfl
  by_cases ht : entry.1 = "toolchain"
  · simp only [ht, if_true]
    exact Overlays.ofText _ (fun s => { toolchain := some s }) fun _ _ => rfl
  · simp only [hc, hb, ht, if_false]
    exact Overlays.unchanged

/-- A decoder of a table that goes through the entries lays over what they do. -/
theorem Overlays.ofTable (v : Value) (fault : ShapeFault)
    {decode : Config → String × Value → Except ShapeFault Config}
    (h : ∀ entry, Overlays fun d => decode d entry) :
    Overlays fun d =>
      match entries? v with
      | some entries => entries.foldlM decode d
      | none => .error fault := by
  cases entries? v with
  | none => exact Overlays.fault _
  | some entries => exact foldlM_overlays entries h

theorem readCmake_overlays (v : Value) : Overlays fun d => readCmake d v := by
  have htable := Overlays.ofTable v (.wrongType v .cmakeSection) readCmakeEntry_overlays
  cases v with
  | array items =>
    cases items with
    | nil => exact Overlays.fault _
    | cons binary rest => exact readCmakeEntry_overlays _
  | _ => exact htable

theorem readProject_overlays (v : Value) : Overlays fun d => readProject d v := by
  have htable := Overlays.ofTable v (.wrongType v .projectSection) readProjectEntry_overlays
  cases v with
  | array items =>
    refine Overlays.bind (foldlM_overlays _ readProjectEntry_overlays) ?_
    by_cases hl : items.length < projectKeys.length
    · simp only [hl, if_true]
      exact Overlays.fault _
    · simp only [hl, if_false]
      exact Overlays.unchanged
  | _ => exact htable

theorem readEnv_overlays (v : Value) : Overlays fun d => readEnv d v := by
  unfold readEnv
  cases entries? v with
  | none => exact Overlays.fault _
  | some entries =>
    cases hp : entries.mapM readVariable with
    | error fault =>
      refine Or.inl ⟨fault, fun d => ?_⟩
      simp only [hp]
      rfl
    | ok pairs =>
      refine Or.inr ⟨{ env := some (Bindings.ofList pairs) }, fun d => ?_⟩
      simp only [hp]
      rfl

theorem readSection_overlays (entry : String × Value) :
    Overlays fun d => readSection d entry := by
  unfold readSection
  by_cases hc : entry.1 = "cmake"
  · simp only [hc, if_true]
    exact readCmake_overlays _
  by_cases hp : entry.1 = "project"
  · simp only [hp, if_true]
    exact readProject_overlays _
  by_cases he : entry.1 = "env"
  · simp only [he, if_true]
    exact readEnv_overlays _
  · simp only [hc, hp, he, if_false]
    exact Overlays.fault _

/-! ## What the file at a path gives -/

/-- The entries of a document give this, whatever they are laid over. -/
def EntriesGive (entries : Entries) (g : Given) : Prop :=
  ∀ d, entries.foldlM readSection d = .ok (g.onto d)

/-- What the file at a path gives: nothing if nothing exists there. -/
inductive FileGives (w : World) (path : String) : Given → Prop
  | absent (h : w.holds (Bytes.ofString path) = false) : FileGives w path {}
  | present {text : String} {entries : Entries} {g : Given}
      (h : w.holds (Bytes.ofString path) = true)
      (read : w.readText (Bytes.ofString path) = .ok text)
      (parsed : Toml.parse? text = some entries)
      (decoded : EntriesGive entries g) : FileGives w path g

theorem entriesGive_of_ofEntries {entries : Entries} {c : Config} (h : ofEntries entries = .ok c) :
    ∃ g : Given, EntriesGive entries g ∧ c = g.onto {} := by
  rcases foldlM_overlays entries readSection_overlays with ⟨fault, hf⟩ | ⟨g, hg⟩
  · have he : ofEntries entries = .error fault := hf {}
    rw [he] at h
    exact absurd h (by simp)
  · have he : ofEntries entries = .ok (g.onto {}) := hg {}
    rw [he] at h
    exact ⟨g, hg, (Except.ok.inj h).symm⟩

/-- **A configuration that loads** is the default one with what its file gives laid over it. -/
theorem loadOrDefault_eq_ok_iff {w : World} {path : String} {c : Config} :
    loadOrDefault w path = .ok c ↔ ∃ g, FileGives w path g ∧ c = g.onto {} := by
  constructor
  · intro h
    cases hh : w.holds (Bytes.ofString path) with
    | false =>
      rw [loadOrDefault_of_not_holds hh] at h
      exact ⟨{}, .absent hh, (Except.ok.inj h).symm⟩
    | true =>
      rw [loadOrDefault_of_holds hh, load] at h
      cases hr : w.readText (Bytes.ofString path) with
      | error fault => rw [hr] at h; exact absurd h (by simp)
      | ok text =>
        simp only [hr, ofText] at h
        cases hp : Toml.parse? text with
        | none => rw [hp] at h; exact absurd h (by simp)
        | some entries =>
          simp only [hp] at h
          cases he : ofEntries entries with
          | error fault =>
            rw [he] at h
            have hfault : Except.error (LoadFault.shape path fault) = Except.ok c := h
            exact absurd hfault (by simp)
          | ok c' =>
            rw [he] at h
            obtain rfl : c' = c := Except.ok.inj h
            obtain ⟨g, hg, hc⟩ := entriesGive_of_ofEntries he
            exact ⟨g, .present hh hr hp hg, hc⟩
  · rintro ⟨g, hg, rfl⟩
    cases hg with
    | absent hh => exact loadOrDefault_of_not_holds hh
    | present hh hr hp hd =>
      have he : ofEntries _ = .ok (g.onto {}) := hd {}
      simp only [loadOrDefault_of_holds hh, load, hr, ofText, hp, he]
      rfl

end Config

end CmakeDriver
