import CmakeDriver.Proofs.Run.Isolation
import CmakeDriver.Proofs.Run.Outcome

/-!
# Variables that a driver does not read

What a driver does for a command line depends on four ambient variables: the search path, the home
directory and two about colours. All others it only hands on. So in two worlds that differ in
another variable it does the same, event by event, and what it asks for and starts differs in that
variable alone. The log filter stands in such a variable: it decides which of the notes are shown,
and nothing else, unless reading it breaks the run off.

Results:
* `overlaid_iff`: what a variable can change in an environment made anew.
* `execute_alikeBut`: executing a request, where the variable is not read.
* `answer_alikeBut`, `run_alikeBut`: command lines and whole runs, event by event.
* `log_filter_without_influence`: what that comes to for the variable with the log filter.
* `run_withLogFilter_split`: a filter whose reading does not come to an end.
-/

namespace CmakeDriver

open Execution

/-! ## What differs in one variable alone -/

/-- The same program, started with the same arguments and the same variables but for one. -/
structure Call.AlikeBut (name : String) (call call' : Call) : Prop where
  program : call.program = call'.program
  args : call.args = call'.args
  environment : Bindings.AlikeBut (Bytes.ofString name) call.environment call'.environment

/-- The same request, or requests for the same command line with the same variables of their own but
for one. That one does not decide whether there is a NUL in them. -/
inductive Execution.Request.AlikeBut (name : String) : Request → Request → Prop
  | same (r : Request) : AlikeBut name r r
  | own (argv : List String) {b b' : TextBindings} (hb : b.isEmpty = false)
      (hb' : b'.isEmpty = false) (h : b.AlikeBut name b')
      (hnul : Request.hasNul { argv, environment := some b } =
        Request.hasNul { argv, environment := some b' }) :
      AlikeBut name { argv, environment := some b } { argv, environment := some b' }

/-- The same event, but for a variable of a request or of a started program. -/
inductive Event.AlikeBut (name : String) : Event → Event → Prop
  | same (e : Event) : AlikeBut name e e
  | attempt {r r' : Request} (h : r.AlikeBut name r') : AlikeBut name (.attempt r) (.attempt r')
  | started {call call' : Call} (h : call.AlikeBut name call') :
      AlikeBut name (.started call) (.started call')

/-- The same result after the same events, but for a variable. -/
structure Traced.AlikeBut {α : Type} (name : String) (x x' : Traced α) : Prop where
  result : x.result = x'.result
  events : List.Forall₂ (Event.AlikeBut name) x.events x'.events

/-- Worlds with the same files and the same ambient variables but for one. As in every environment
no NUL stands in its value. -/
structure World.AlikeBut (name : String) (w w' : World) : Prop where
  tree : w.tree = w'.tree
  cwd : w.cwd = w'.cwd
  environment : Bindings.AlikeBut (Bytes.ofString name) w.environment w'.environment
  noNul : ∀ e ∈ [w.environment, w'.environment], ∀ v ∈ e.lookup name, 0 ∉ v

/-! ## What is read off events -/

namespace Event.AlikeBut

open scoped Relator

variable (name : String) {events events' : List Event}

theorem rel_stdoutText : (Event.AlikeBut name ⇒ Eq) stdoutText stdoutText := by
  intro e e' h
  cases h <;> rfl

theorem rel_stderrText (f : Log.Filter) :
    (Event.AlikeBut name ⇒ Eq) (stderrText f) (stderrText f) := by
  intro e e' h
  cases h <;> rfl

theorem rel_call? : (Event.AlikeBut name ⇒ Option.Rel (Call.AlikeBut name)) call? call? := by
  intro e e' h
  cases h with
  | same e =>
    cases e with
    | started call => exact .some ⟨rfl, rfl, fun _ _ => rfl⟩
    | _ => exact .none
  | attempt _ => exact .none
  | started h => exact .some h

theorem rel_attempt? :
    (Event.AlikeBut name ⇒ Option.Rel (Request.AlikeBut name)) attempt? attempt? := by
  intro e e' h
  cases h with
  | same e =>
    cases e with
    | attempt r => exact .some (.same r)
    | _ => exact .none
  | attempt h => exact .some h
  | started _ => exact .none

variable {name} (h : List.Forall₂ (Event.AlikeBut name) events events')

include h

theorem stdoutOf_eq : stdoutOf events = stdoutOf events' :=
  congrArg String.join (List.forall₂_eq_eq_eq ▸ List.rel_map (rel_stdoutText name) h)

theorem stderrOf_eq (f : Log.Filter) : stderrOf f events = stderrOf f events' :=
  congrArg String.join (List.forall₂_eq_eq_eq ▸ List.rel_map (rel_stderrText name f) h)

theorem callsOf_alikeBut : List.Forall₂ (Call.AlikeBut name) (callsOf events) (callsOf events') :=
  List.rel_filterMap (rel_call? name) h

theorem attemptsOf_alikeBut :
    List.Forall₂ (Request.AlikeBut name) (attemptsOf events) (attemptsOf events') :=
  List.rel_filterMap (rel_attempt? name) h

end Event.AlikeBut

namespace Traced.AlikeBut

variable {α β : Type} {name : String} {x x' : Traced α}

theorem refl (name : String) (x : Traced α) : x.AlikeBut name x :=
  ⟨rfl, List.forall₂_same.2 fun e _ => .same e⟩

theorem emit {e e' : Event} (h : e.AlikeBut name e') :
    (Traced.emit e).AlikeBut name (Traced.emit e') :=
  ⟨rfl, .cons h .nil⟩

/-- **Runs in sequence**: what follows may depend on the result, for that is the same. -/
theorem bind {f f' : α → Traced β} (hx : x.AlikeBut name x')
    (hf : ∀ a, (f a).AlikeBut name (f' a)) : (x >>= f).AlikeBut name (x' >>= f') := by
  have hnext := hf x.result
  refine ⟨?_, ?_⟩
  · rw [result_bind, result_bind, ← hx.result, hnext.result]
  · rw [events_bind, events_bind, ← hx.result]
    exact List.rel_append hx.events hnext.events

end Traced.AlikeBut

/-! ## Requests -/

namespace Execution.Request.AlikeBut

variable {name : String} {r r' : Request} (hr : r.AlikeBut name r')

include hr

theorem argv_eq : r.argv = r'.argv := by
  cases hr <;> rfl

theorem hasNul_eq : r.hasNul = r'.hasNul := by
  cases hr with
  | same => rfl
  | own _ _ _ _ hnul => exact hnul

theorem isSome_ownEnvironment?_eq : r.ownEnvironment?.isSome = r'.ownEnvironment?.isSome := by
  cases hr with
  | same => rfl
  | own _ hb hb' _ _ => simp [ownEnvironment?, hb, hb']

theorem environmentOf_alikeBut {w w' : World} (h : w.AlikeBut name w') :
    Bindings.AlikeBut (Bytes.ofString name) (w.environmentOf r) (w'.environmentOf r') := by
  cases hr with
  | same =>
    unfold World.environmentOf
    cases r.ownEnvironment? with
    | none => exact h.environment
    | some b => exact fun _ _ => rfl
  | @own argv b b' hb hb' hsame _ =>
    rw [World.environmentOf_of_some rfl hb, World.environmentOf_of_some rfl hb']
    refine fun k hk => Option.ext fun v => ?_
    rw [World.get?_ofText_eq_some_iff, World.get?_ofText_eq_some_iff]
    refine exists_congr fun n => exists_congr fun _ => and_congr_right ?_
    rintro rfl
    rw [hsame n fun he => hk (congrArg Bytes.ofString he)]

end Execution.Request.AlikeBut

namespace World

open CommandLine (ConfigureOptions BuildOptions Command Refusal)

variable {name : String} {w w' : World}

/-! ## Environments made anew -/

namespace AlikeBut

theorem eq_under (h : w.AlikeBut name w') : w' = w.under w'.environment := by
  obtain ⟨tree, cwd, environment⟩ := w
  obtain ⟨tree', cwd', environment'⟩ := w'
  obtain ⟨htree, hcwd, -, -⟩ := h
  obtain rfl : tree = tree' := htree
  obtain rfl : cwd = cwd' := hcwd
  rfl

theorem holds_eq (h : w.AlikeBut name w') : w'.holds = w.holds := by
  rw [h.eq_under]
  rfl

/-- Of a value with a NUL it does not matter whose it is: the variable has none. -/
theorem get?_iff (h : w.AlikeBut name w') {k v : String} (hkv : k ≠ name ∨ '\x00' ∈ v.toList) :
    w.environment.get? (Bytes.ofString k) = some (Bytes.ofString v) ↔
      w'.environment.get? (Bytes.ofString k) = some (Bytes.ofString v) := by
  by_cases hk : k = name
  · subst hk
    have hnul : 0 ∈ Bytes.ofString v :=
      Bytes.zero_mem_ofString_iff.2 (hkv.resolve_left fun hne => hne rfl)
    exact iff_of_false (fun hv => h.noNul _ (by simp) _ hv hnul)
      (fun hv => h.noNul _ (by simp) _ hv hnul)
  · rw [h.environment _ fun he => hk (Bytes.ofString_inj he)]

end AlikeBut

variable {config : TextBindings} {pairs : List (String × String)} {b b' : TextBindings}

/-- **What the variable can change** in an environment made anew: its own value, and that to none
with a NUL. -/
theorem overlaid_iff (h : w.AlikeBut name w') {k v : String}
    (hkv : k ≠ name ∨ '\x00' ∈ v.toList) :
    Overlaid w.environment config pairs k v ↔ Overlaid w'.environment config pairs k v :=
  ⟨.imp fun _ _ => (h.get?_iff hkv).1, .imp fun _ _ => (h.get?_iff hkv).2⟩

theorem stepEnvironment_alikeBut (h : w.AlikeBut name w')
    (hb : w.stepEnvironment config pairs = some b)
    (hb' : w'.stepEnvironment config pairs = some b') : b.AlikeBut name b' := by
  refine fun k hk => Option.ext fun v => ?_
  rw [get?_stepEnvironment_eq_some_iff hb, get?_stepEnvironment_eq_some_iff hb']
  exact overlaid_iff h (.inl hk)

theorem hasNul_stepEnvironment (h : w.AlikeBut name w') (hname : '\x00' ∉ name.toList)
    (argv : List String) (hb : w.stepEnvironment config pairs = some b)
    (hb' : w'.stepEnvironment config pairs = some b') :
    Request.hasNul { argv, environment := some b } =
      Request.hasNul { argv, environment := some b' } := by
  have hentries : ∀ k v, '\x00' ∈ k.toList ∨ '\x00' ∈ v.toList →
      ((k, v) ∈ b.entries ↔ (k, v) ∈ b'.entries) := by
    intro k v hnul
    rw [Bindings.mem_entries_iff, Bindings.mem_entries_iff, get?_stepEnvironment_eq_some_iff hb,
      get?_stepEnvironment_eq_some_iff hb']
    refine overlaid_iff h (hnul.imp_left ?_)
    rintro hk rfl
    exact hname hk
  simp only [Request.hasNul]
  congr 1
  rw [Bool.eq_iff_iff, List.any_eq_true, List.any_eq_true]
  simp only [Prod.exists, Bool.or_eq_true, List.contains_iff_mem]
  constructor
  · rintro ⟨k, v, hm, hnul⟩
    exact ⟨k, v, (hentries k v hnul).1 hm, hnul⟩
  · rintro ⟨k, v, hm, hnul⟩
    exact ⟨k, v, (hentries k v hnul).2 hm, hnul⟩

theorem request_alikeBut (h : w.AlikeBut name w') (hname : '\x00' ∉ name.toList)
    (argv : List String) (config : TextBindings) (pairs : List (String × String)) :
    Request.AlikeBut name { argv, environment := w.stepEnvironment config pairs }
      { argv, environment := w'.stepEnvironment config pairs } := by
  by_cases hadd : config.isEmpty = true ∧ pairs = []
  · rw [(stepEnvironment_eq_none_iff w config pairs).2 hadd,
      (stepEnvironment_eq_none_iff w' config pairs).2 hadd]
    exact .same _
  · obtain ⟨b, hb⟩ := exists_stepEnvironment w hadd
    obtain ⟨b', hb'⟩ := exists_stepEnvironment w' hadd
    rw [hb, hb']
    exact .own argv (stepEnvironment_ne_empty hb) (stepEnvironment_ne_empty hb')
      (stepEnvironment_alikeBut h hb hb') (hasNul_stepEnvironment h hname argv hb hb')

theorem reportCall_alikeBut (h : w.AlikeBut name w') {e e' : Environment}
    (he : e.AlikeBut (Bytes.ofString name) e') (image : Image) :
    (w.reportCall e image).AlikeBut name (w'.reportCall e' image) := by
  rw [h.eq_under]
  unfold reportCall
  cases image.call with
  | none => exact .refl name _
  | some called => exact .emit (.started ⟨rfl, rfl, he⟩)

/-! ## Where the variable is not read -/

/-- The variables that a run reads for what it does. -/
def readNames : List String :=
  [Environment.pathName, Environment.homeName, Environment.forceColoursName,
    Environment.noColoursName]

/-- **A variable that is not read**: it is none of the four, and does not look like the search path
in a block, as a name that goes on behind `PATH=` would. No NUL stands in its name. -/
structure Unread (name : String) : Prop where
  ne : ∀ read ∈ readNames, read ≠ name
  head : ¬ Environment.entryHead Environment.pathName <+: Bytes.ofString name
  noNul : '\x00' ∉ name.toList

section NotRead

variable (hname : Unread name) (h : w.AlikeBut name w')

include hname

theorem lookup_eq_of_unread {e e' : Environment} (he : e.AlikeBut (Bytes.ofString name) e')
    {read : String} (hread : read ∈ readNames) : e.lookup read = e'.lookup read :=
  he _ fun heq => hname.ne read hread (Bytes.ofString_inj heq)

theorem searchPath?_eq_of_unread {e e' : Environment}
    (he : e.AlikeBut (Bytes.ofString name) e') : e.searchPath? = e'.searchPath? := by
  have hne : Bytes.ofString Environment.pathName ≠ Bytes.ofString name := fun heq =>
    hname.ne _ (by simp [readNames]) (Bytes.ofString_inj heq)
  rw [Environment.searchPath?, Environment.searchPath?,
    Environment.readBack?_congr_of_alikeBut he hne hname.head]

include h

/-- **A request is started alike.** -/
theorem startedBy_alikeBut {r r' : Request} (hr : r.AlikeBut name r') (program : String)
    (args : List String) : w'.startedBy r' program args = w.startedBy r program args := by
  have hpath := searchPath?_eq_of_unread hname (hr.environmentOf_alikeBut h)
  rw [h.eq_under] at hpath ⊢
  rw [startedBy, startedBy, hr.hasNul_eq, hr.isSome_ownEnvironment?_eq,
    findProgram_under hpath]

/-- **Executing a request** does the same, whatever becomes of it. -/
theorem execute_alikeBut {r r' : Request} (hr : r.AlikeBut name r') (checked : Bool) :
    (w.execute r checked).AlikeBut name (w'.execute r' checked) := by
  unfold execute
  rw [← hr.argv_eq, ← hr.isSome_ownEnvironment?_eq]
  cases r.argv with
  | nil => exact .refl name _
  | cons program args =>
    refine .bind (.refl name _) fun _ => .bind (.emit (.attempt hr)) fun _ => ?_
    rw [startedBy_alikeBut hname h hr]
    cases w.startedBy r program args with
    | error fault => exact .refl name _
    | ok image =>
      refine .bind (reportCall_alikeBut h (hr.environmentOf_alikeBut h) image) fun _ => ?_
      exact .refl name _

theorem perform_alikeBut (cmake : Cmake) {s s' : Step} (hnote : s.note = s'.note)
    (hr : (cmake.request s).AlikeBut name (cmake.request s')) :
    (cmake.perform w.host s).AlikeBut name (cmake.perform w'.host s') := by
  unfold Cmake.perform
  rw [hnote]
  exact .bind (.refl name _) fun _ =>
    .bind (execute_alikeBut hname h hr true) fun _ => .refl name _

/-! ## Commands -/

theorem configure_alikeBut (c : Config) (o : ConfigureOptions) :
    (w.configure c o).AlikeBut name (w'.configure c o) := by
  have hstep : w'.configureStep? c o = (w.configureStep? c o).map fun s =>
      { s with environment := w'.stepEnvironment c.env o.env } := by
    rw [h.eq_under, configureStep?_under]
  unfold configure
  rw [hstep]
  cases hs : w.configureStep? c o with
  | none => exact .refl name _
  | some s =>
    have hr := request_alikeBut h hname.noNul ((cmakeOf c).argv (.configure s)) c.env o.env
    rw [← environment_configureStep hs] at hr
    refine .bind (.refl name _) fun _ => .bind ?_ fun answer => ?_
    · exact perform_alikeBut hname h (cmakeOf c) rfl hr
    · exact .refl name _

theorem build_alikeBut (c : Config) (o : BuildOptions) :
    (w.build c o).AlikeBut name (w'.build c o) := by
  have htaken := perform_alikeBut hname h (cmakeOf c) rfl
    (.same ((cmakeOf c).request (.build (buildStep c o))))
  unfold build
  rw [h.holds_eq]
  simp only
  cases w.holds (cachePath (buildStep c o).buildFolder) with
  | true => exact .bind (.refl name _) fun _ => .bind htaken fun _ => .refl name _
  | false =>
    exact .bind (.refl name _) fun _ => .bind (.refl name _) fun _ =>
      .bind htaken fun _ => .refl name _

theorem resolve_alikeBut (program : Path) : w'.resolve program = w.resolve program := by
  have hpath := searchPath?_eq_of_unread hname h.environment
  have hhome := lookup_eq_of_unread hname h.environment
    (show Environment.homeName ∈ readNames by simp [readNames])
  have hexpand : expandHome w'.environment = expandHome w.environment := by
    funext directory
    rw [expandHome, expandHome, hhome]
  unfold resolve candidates
  rw [hexpand, hpath, h.eq_under]
  rfl

theorem doctor_alikeBut (c : Config) : (w.doctor c).AlikeBut name (w'.doctor c) := by
  have hdiagnosis : Diagnosis.of w' c = Diagnosis.of w c := by
    simp only [Diagnosis.of, Cmake.resolve, resolve_alikeBut hname h, h.holds_eq]
  unfold doctor
  rw [hdiagnosis]
  exact .refl name _

theorem obey_alikeBut (c : Config) (command : Command) :
    (w.obey c command).AlikeBut name (w'.obey c command) := by
  cases command with
  | configure o => exact configure_alikeBut hname h c o
  | build o => exact build_alikeBut hname h c o
  | doctor => exact doctor_alikeBut hname h c

/-! ## Runs -/

theorem refuse_alikeBut (refusal : Refusal) :
    (w.refuse refusal).AlikeBut name (w'.refuse refusal) := by
  have hcolours : w'.showsColours = w.showsColours := by
    have hforce := lookup_eq_of_unread hname h.environment
      (show Environment.forceColoursName ∈ readNames by simp [readNames])
    have hno := lookup_eq_of_unread hname h.environment
      (show Environment.noColoursName ∈ readNames by simp [readNames])
    simp only [showsColours, Environment.isGiven, hforce, hno]
  unfold refuse
  rw [hcolours]
  exact .refl name _

theorem runCommand_alikeBut (path : String) (command : Command) :
    (w.runCommand path command).AlikeBut name (w'.runCommand path command) := by
  have hload : Config.loadOrDefault w' path = Config.loadOrDefault w path := by
    rw [h.eq_under]
    rfl
  unfold runCommand
  rw [hload]
  cases Config.loadOrDefault w path with
  | error fault => exact .refl name _
  | ok c => exact .bind (obey_alikeBut hname h c command) fun _ => .refl name _

/-- **A variable that is not read has no influence** on what becomes of a command line, event by
event. -/
theorem answer_alikeBut (args : List String) :
    (w.answer args).AlikeBut name (w'.answer args) := by
  unfold answer
  cases CommandLine.parse args with
  | error refusal => exact refuse_alikeBut hname h refusal
  | ok invocation =>
    obtain ⟨path, command⟩ := invocation
    cases command with
    | none => exact .refl name _
    | some command => exact runCommand_alikeBut hname h path command

/-- Nor has it on a whole run, if it does not hold the log filter. -/
theorem run_alikeBut (hlog : name ≠ Log.Filter.variableName) (args : List String) :
    (w.run args).AlikeBut name (w'.run args) := by
  have hfilter : w'.logFilter? = w.logFilter? := by
    have hlookup : w.environment.lookup Log.Filter.variableName =
        w'.environment.lookup Log.Filter.variableName :=
      h.environment _ fun he => hlog (Bytes.ofString_inj he).symm
    rw [logFilter?, logFilter?, hlookup]
  unfold run
  rw [hfilter]
  cases w.logFilter? with
  | none => exact .refl name _
  | some f => exact answer_alikeBut hname h args

end NotRead

/-! ## The log filter -/

theorem unread_logFilter : Unread Log.Filter.variableName :=
  ⟨by decide, by decide, by decide⟩

/-- **The log filter has no influence**, provided that reading it comes to an end. In two worlds
that differ in its variable alone, be it absent, a filter, a text that is none or no text, a run
ends with the same status and writes the same to standard output. It asks for the same programs and
starts the same ones, with the same arguments and with environments that differ in this variable
alone. Through any one filter standard error is the same, too. -/
theorem log_filter_without_influence (h : w.AlikeBut Log.Filter.variableName w')
    (hw : w.ReadsLogFilter) (hw' : w'.ReadsLogFilter) (args : List String) :
    (w.run args).result = (w'.run args).result ∧
    w.stdoutOf args = w'.stdoutOf args ∧
    List.Forall₂ (Request.AlikeBut Log.Filter.variableName) (w.run args).attempts
      (w'.run args).attempts ∧
    List.Forall₂ (Call.AlikeBut Log.Filter.variableName) (w.run args).calls
      (w'.run args).calls ∧
    ∀ f : Log.Filter, Event.stderrOf f (w.run args).events =
      Event.stderrOf f (w'.run args).events := by
  have hrun : (w.run args).AlikeBut Log.Filter.variableName (w'.run args) := by
    rw [run_of_readsLogFilter hw, run_of_readsLogFilter hw']
    exact answer_alikeBut unread_logFilter h args
  exact ⟨hrun.result, Event.AlikeBut.stdoutOf_eq hrun.events,
    Event.AlikeBut.attemptsOf_alikeBut hrun.events, Event.AlikeBut.callsOf_alikeBut hrun.events,
    fun f => Event.AlikeBut.stderrOf_eq hrun.events f⟩

/-- The world of `programOnPath` with a log filter. -/
def withLogFilter (value : Bytes) : World :=
  programOnPath.under
    (programOnPath.environment.set (Bytes.ofString Log.Filter.variableName) value)

theorem withLogFilter_alikeBut {value value' : Bytes} (h : 0 ∉ value) (h' : 0 ∉ value') :
    (withLogFilter value).AlikeBut Log.Filter.variableName (withLogFilter value') where
  tree := rfl
  cwd := rfl
  environment := by
    intro k hk
    exact (Bindings.get?_set_ne _ hk value).trans (Bindings.get?_set_ne _ hk value').symm
  noNul := by
    intro e he v hv
    have hself (value : Bytes) : (withLogFilter value).environment.lookup
        Log.Filter.variableName = some value := Bindings.get?_set_self _ _ _
    rcases List.mem_pair.1 he with rfl | rfl
    · obtain rfl : value = v := Option.some.inj ((hself value).symm.trans hv)
      exact h
    · obtain rfl : value' = v := Option.some.inj ((hself value').symm.trans hv)
      exact h'

/-- A filter that cannot be read and one that is not even text: the program is started alike, though
only the first is handed on to it, for in an environment made anew all variables are text. -/
theorem odd_filters_without_influence :
    let w := withLogFilter (Bytes.ofString "cmakew=bogus")
    let w' := withLogFilter [0xFF]
    let args := ["configure", "--toolchain", "host.cmake", "--env", "CC=clang"]
    (w.run args).result = (w'.run args).result ∧
    w.stdoutOf args = w'.stdoutOf args ∧
    List.Forall₂ (Call.AlikeBut Log.Filter.variableName) (w.run args).calls
      (w'.run args).calls ∧
    ((w.run args).calls.map fun call => call.environment.lookup Log.Filter.variableName) =
      [some (Bytes.ofString "cmakew=bogus")] ∧
    ((w'.run args).calls.map fun call => call.environment.lookup Log.Filter.variableName) =
      [none] := by
  intro w w' args
  have hworlds : w.AlikeBut Log.Filter.variableName w' :=
    withLogFilter_alikeBut (by decide) (by decide)
  obtain ⟨hresult, hstdout, -, hcalls, -⟩ :=
    log_filter_without_influence hworlds (by decide +kernel) (by decide +kernel) args
  exact ⟨hresult, hstdout, hcalls, by decide +kernel, by decide +kernel⟩

/-- **The reading has to come to an end**: with a blank of two bytes in front of a directive every
run is broken off, whatever its arguments. -/
theorem run_withLogFilter_split (args : List String) :
    (withLogFilter (Bytes.ofString "\u00a0a=info")).run args = pure brokenOffStatus :=
  run_of_not_readsLogFilter (by decide +kernel) args

end World

end CmakeDriver
