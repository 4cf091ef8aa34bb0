import CmakeDriver.Proofs.Run.SearchPath
import CmakeDriver.Proofs.World.Environment
import Mathlib.Data.List.Forall2

/-!
# What configuring hides of the ambient environment

As soon as a variable is added configuring gives its program an environment made anew. Of the
ambient variables that one takes over those that are text and are not added. The others are hidden:
neither the program nor the search for it sees them, so nothing that configuring does depends on
them. That goes for the ambient search path, too, where another one is added.

Results:
* `same_stepEnvironment`: ambient environments that differ in hidden variables alone make the same
  environment.
* `startedBy_congr`: the same request is started alike in worlds with the same files.
* `lookupFor_of_added`: an added search path is the one that is searched.
* `configure_isolated`: what this comes to for two runs.
-/

namespace CmakeDriver

open Execution

/-- The same program, started with the same arguments and the same variables. -/
structure Call.Same (call call' : Call) : Prop where
  program : call.program = call'.program
  args : call.args = call'.args
  environment : call.environment.Same call'.environment

namespace Execution

/-- Requests for the same command line with the same variables of their own. -/
inductive Request.Same : Request → Request → Prop
  | intro (argv : List String) {b b' : TextBindings} (hb : b.isEmpty = false)
      (hb' : b'.isEmpty = false) (h : b.Same b') :
      Same { argv, environment := some b } { argv, environment := some b' }

namespace Request.Same

variable {r r' : Request}

theorem argv_eq (h : r.Same r') : r.argv = r'.argv := by
  cases h
  rfl

theorem hasNul_eq (h : r.Same r') : r.hasNul = r'.hasNul := by
  obtain ⟨argv, -, -, h⟩ := h
  simp only [hasNul, h.perm.any_eq]

theorem isSome_ownEnvironment? (h : r.Same r') :
    r.ownEnvironment?.isSome = true ∧ r'.ownEnvironment?.isSome = true := by
  obtain ⟨argv, hb, hb', -⟩ := h
  simp [ownEnvironment?, hb, hb']

theorem environmentOf_same (h : r.Same r') (w w' : World) :
    (w.environmentOf r).Same (w'.environmentOf r') := by
  obtain ⟨argv, hb, hb', h⟩ := h
  rw [World.environmentOf_of_some rfl hb, World.environmentOf_of_some rfl hb']
  refine Bindings.same_of_some_iff fun k v => ?_
  simp only [World.get?_ofText_eq_some_iff, h _]

end Request.Same

end Execution

namespace World

open CommandLine (ConfigureOptions)

variable {w : World} {c : Config} {o : ConfigureOptions} {config : TextBindings}
  {pairs : List (String × String)} {e e' : Environment}

/-! ## Environments made anew -/

/-- **What two ambient environments have to agree on**: the variables that are text and are not
added. -/
def AgreeOnCarried (config : TextBindings) (pairs : List (String × String))
    (e e' : Environment) : Prop :=
  ∀ name value : String, config.get? name = none → (∀ p ∈ pairs, p.1 ≠ name) →
    (e.get? (Bytes.ofString name) = some (Bytes.ofString value) ↔
      e'.get? (Bytes.ofString name) = some (Bytes.ofString value))

theorem Overlaid.congr (h : AgreeOnCarried config pairs e e') {name value : String}
    (ho : Overlaid e config pairs name value) : Overlaid e' config pairs name value :=
  ho.imp fun hp hc => (h name value hc hp).1

theorem AgreeOnCarried.symm (h : AgreeOnCarried config pairs e e') :
    AgreeOnCarried config pairs e' e :=
  fun name value hc hp => (h name value hc hp).symm

/-- **Hidden variables do not matter** to the environment that is made anew. -/
theorem same_stepEnvironment {w' : World} {b b' : TextBindings}
    (h : AgreeOnCarried config pairs w.environment w'.environment)
    (hb : w.stepEnvironment config pairs = some b)
    (hb' : w'.stepEnvironment config pairs = some b') : b.Same b' := by
  refine Bindings.same_of_some_iff fun name value => ?_
  rw [get?_stepEnvironment_eq_some_iff hb, get?_stepEnvironment_eq_some_iff hb']
  exact ⟨Overlaid.congr h, Overlaid.congr h.symm⟩

theorem exists_stepEnvironment (w : World) (h : ¬ (config.isEmpty = true ∧ pairs = [])) :
    ∃ b, w.stepEnvironment config pairs = some b :=
  Option.ne_none_iff_exists'.1 (mt (stepEnvironment_eq_none_iff w config pairs).1 h)

theorem configureStep?_under (w : World) (e : Environment) (c : Config) (o : ConfigureOptions) :
    (w.under e).configureStep? c o = (w.configureStep? c o).map fun s =>
      { s with environment := (w.under e).stepEnvironment c.env o.env } := by
  unfold configureStep?
  rw [Option.map_map]
  rfl

/-! ## The same request in two worlds -/

theorem findProgram_under {f f' : Environment} (h : f.searchPath? = f'.searchPath?) (shell : Bool)
    (name : Path) (args : List Bytes) :
    (w.under e).findProgram f' shell name args = w.findProgram f shell name args := by
  rw [findProgram_eq_lookup, findProgram_eq_lookup, lookup_under, attempt_under, lookup_congr h]

section SameRequest

variable {r r' : Request} (h : r.Same r')

include h

/-- **The same request is started alike** wherever the files are the same. -/
theorem startedBy_congr (name : String) (args : List String) :
    (w.under e).startedBy r' name args = w.startedBy r name args := by
  have hpath := Environment.searchPath?_congr (h.environmentOf_same w (w.under e))
  unfold startedBy
  rw [h.hasNul_eq, h.isSome_ownEnvironment?.1, h.isSome_ownEnvironment?.2,
    findProgram_under hpath]

theorem result_execute_congr (checked : Bool) :
    ((w.under e).execute r' checked).result = (w.execute r checked).result := by
  cases ha : r.argv with
  | nil =>
    unfold execute
    rw [← h.argv_eq, ha]
  | cons name args =>
    rw [result_execute ha, result_execute (h.argv_eq.symm.trans ha), startedBy_congr h]

theorem calls_execute_congr (checked : Bool) :
    List.Forall₂ Call.Same (w.execute r checked).calls
      ((w.under e).execute r' checked).calls := by
  cases ha : r.argv with
  | nil =>
    unfold execute
    rw [← h.argv_eq, ha]
    exact .nil
  | cons name args =>
    rw [callsOf_execute ha, callsOf_execute (h.argv_eq.symm.trans ha), startedBy_congr h]
    cases w.startedBy r name args with
    | error fault => exact .nil
    | ok image =>
      simp only [callOf]
      cases image.call with
      | none => exact .nil
      | some called => exact .cons ⟨rfl, rfl, h.environmentOf_same w (w.under e)⟩ .nil

end SameRequest

/-! ## An added search path -/

/-- Added variables give a name this value: that of its last pair, else the configuration's. -/
inductive Added (config : TextBindings) (pairs : List (String × String)) (name value : String) :
    Prop
  | given (h : Bindings.LastPair pairs name value)
  | configured (hp : ∀ p ∈ pairs, p.1 ≠ name) (h : config.get? name = some value)

theorem Added.overlaid {name value : String} (h : Added config pairs name value)
    (ambient : Environment) : Overlaid ambient config pairs name value := by
  cases h with
  | given h => exact .given h
  | configured hp h => exact .configured hp h

theorem Added.not_empty {name value : String} (h : Added config pairs name value) :
    ¬ (config.isEmpty = true ∧ pairs = []) := by
  rintro ⟨hc, rfl⟩
  cases h with
  | given h =>
    obtain ⟨before, after, hsplit, -⟩ := h
    exact absurd hsplit (by simp)
  | configured hp h =>
    rw [(Bindings.isEmpty_iff config).1 hc name] at h
    exact absurd h (by simp)

/-- **An added search path is the one that is searched**: configuring looks its program up as in any
environment with that search path. -/
theorem lookupFor_of_added {value : String} {s : ConfigureStep}
    (h : Added c.env o.env Environment.pathName value) (hs : w.configureStep? c o = some s)
    {e : Environment} (he : e.lookup Environment.pathName = some (Bytes.ofString value)) :
    w.lookupFor ((cmakeOf c).request (.configure s)) c.cmakeBinary =
      w.lookup e true (Bytes.ofString c.cmakeBinary) := by
  obtain ⟨b, hb⟩ := exists_stepEnvironment w h.not_empty
  have hown := (ownEnvironment?_configureStep hs).trans hb
  have hvalue : b.get? Environment.pathName = some value :=
    (get?_stepEnvironment_eq_some_iff hb).2 (h.overlaid _)
  have hlookup : (Environment.ofText b).lookup Environment.pathName =
      some (Bytes.ofString value) := by
    rw [Environment.lookup_ofText, hvalue]
    rfl
  have hpath : (Environment.ofText b).searchPath? = e.searchPath? := by
    rw [Environment.searchPath?, Environment.searchPath?, Environment.readBack?_of_lookup hlookup,
      Environment.readBack?_of_lookup he]
  rw [lookupFor, environmentOf, hown]
  exact lookup_congr hpath true _

/-! ## Two runs -/

theorem result_configure (w : World) (c : Config) (o : ConfigureOptions) :
    (w.configure c o).result =
      match w.configureStep? c o with
      | none => .error .noToolchain
      | some s => ((cmakeOf c).perform w.host (.configure s)).result.mapError
          (.configure s.buildFolder) := by
  unfold configure
  cases w.configureStep? c o with
  | none => rfl
  | some s =>
    simp only [Traced.result_bind]
    cases ((cmakeOf c).perform w.host (.configure s)).result <;> rfl

/-- The steps of two worlds with the same files come to the same request. -/
theorem same_request {s s' : ConfigureStep} (hadd : ¬ (c.env.isEmpty = true ∧ o.env = []))
    (h : AgreeOnCarried c.env o.env w.environment e) (hs : w.configureStep? c o = some s)
    (hs' : (w.under e).configureStep? c o = some s') :
    s'.buildFolder = s.buildFolder ∧
      ((cmakeOf c).request (.configure s)).Same ((cmakeOf c).request (.configure s')) := by
  obtain ⟨b, hb⟩ := exists_stepEnvironment w hadd
  obtain ⟨b', hb'⟩ := exists_stepEnvironment (w.under e) hadd
  have henv : s.environment = some b := (environment_configureStep hs).trans hb
  rw [configureStep?_under, hs, hb'] at hs'
  obtain rfl := Option.some.inj hs'
  refine ⟨rfl, ?_⟩
  have hsame := Request.Same.intro ((cmakeOf c).argv (.configure s)) (stepEnvironment_ne_empty hb)
    (stepEnvironment_ne_empty hb') (same_stepEnvironment h hb hb')
  rwa [← henv] at hsame

/-- **Configuring does not depend on hidden variables.** In two worlds with the same files whose
ambient environments agree on the variables that are text and are not added, it ends the same, and
it starts the same program with the same arguments and the same variables, or none in both. If a
search path is added the program is looked up as in any environment with that one. -/
theorem configure_isolated (w : World) (e : Environment) (c : Config) (o : ConfigureOptions)
    (hadd : ¬ (c.env.isEmpty = true ∧ o.env = []))
    (h : AgreeOnCarried c.env o.env w.environment e) :
    (w.configure c o).result = ((w.under e).configure c o).result ∧
    List.Forall₂ Call.Same (w.configure c o).calls ((w.under e).configure c o).calls ∧
    ∀ value, Added c.env o.env Environment.pathName value →
      ∀ s, w.configureStep? c o = some s →
        ∀ f : Environment, f.lookup Environment.pathName = some (Bytes.ofString value) →
          w.lookupFor ((cmakeOf c).request (.configure s)) c.cmakeBinary =
            w.lookup f true (Bytes.ofString c.cmakeBinary) := by
  have hruns : (w.configure c o).result = ((w.under e).configure c o).result ∧
      List.Forall₂ Call.Same (w.configure c o).calls ((w.under e).configure c o).calls := by
    rw [result_configure, result_configure, calls_configure, calls_configure]
    cases hs : w.configureStep? c o with
    | none =>
      have hs' : (w.under e).configureStep? c o = none := by
        rw [configureStep?_under, hs]
        rfl
      rw [hs']
      exact ⟨rfl, .nil⟩
    | some s =>
      obtain ⟨s', hs'⟩ : ∃ s', (w.under e).configureStep? c o = some s' := by
        rw [configureStep?_under, hs]
        exact ⟨_, rfl⟩
      obtain ⟨hfolder, hsame⟩ := same_request hadd h hs hs'
      simp only [hs', Cmake.result_perform, Cmake.calls_perform, hfolder,
        result_execute_congr hsame]
      exact ⟨trivial, calls_execute_congr hsame true⟩
  exact ⟨hruns.1, hruns.2, fun value hv s hs f hf => lookupFor_of_added hv hs hf⟩

/-- With a search path added by the configuration the ambient one may be any, and a variable that is
not text may come and go: the program behind the added one is started. -/
theorem programOnPath_isolated :
    let c : Config := { toolchain := some "host.cmake", env := .ofList [("PATH", "/opt")] }
    let w := programOnPath.under (.ofText (.ofList [("PATH", "/none")]))
    (programOnPath.configure c {}).calls.length = 1 ∧
      (programOnPath.configure c {}).result = (w.configure c {}).result ∧
      List.Forall₂ Call.Same (programOnPath.configure c {}).calls (w.configure c {}).calls := by
  intro c w
  have hagree : AgreeOnCarried c.env [] programOnPath.environment
      (.ofText (.ofList [("PATH", "/none")])) := by
    intro name value hname _
    have hne : name ≠ "PATH" := by
      rintro rfl
      exact absurd hname (by decide)
    -- Neither environment has a variable that is text under another name.
    have hbytes : Bytes.ofString name ≠ [0xFF] := by
      intro hb
      have hd : Bytes.decode? [0xFF] = some name := Bytes.decode?_eq_some_iff.2 hb.symm
      exact absurd hd (by simp [show Bytes.decode? [0xFF] = none by decide])
    have hpath : Bytes.ofString name ≠ Bytes.ofString "PATH" := fun hb =>
      hne (Bytes.ofString_inj hb)
    have hnone : ∀ f ∈ [programOnPath.environment, .ofText (.ofList [("PATH", "/none")])],
        ∀ v ∈ f.entries, v.1 = [0xFF] ∨ v.1 = Bytes.ofString "PATH" := by decide
    have hget : ∀ f ∈ [programOnPath.environment, .ofText (.ofList [("PATH", "/none")])],
        f.get? (Bytes.ofString name) ≠ some (Bytes.ofString value) := by
      intro f hf hg
      rcases hnone f hf _ ((Bindings.mem_entries_iff f).2 hg) with hv | hv
      · exact hbytes hv
      · exact hpath hv
    simp only [hget _ List.mem_cons_self, hget _ (List.mem_cons_of_mem _ List.mem_cons_self)]
  obtain ⟨hresult, hcalls, -⟩ := configure_isolated programOnPath _ c {} (by decide) hagree
  exact ⟨by decide, hresult, hcalls⟩

end World

end CmakeDriver
