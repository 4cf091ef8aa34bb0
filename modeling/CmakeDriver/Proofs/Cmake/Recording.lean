import CmakeDriver.Cmake.Step
import Mathlib.Data.List.Forall2

/-!
# Steps and the requests they come to

Steps are taken on one host, one after the other. Each is one request, whatever became of those
before it: its command line, with the variables that the step was told and no others, and it has to
succeed. The step comes to what the host answers, except that of an outcome nothing is kept, not
even its code.

That holds of every host, whatever it keeps in mind between requests. A host that answers from a
script gives the responses in order and the last one again and again.

Results:
* `getElem?_performAll`: a step is performed in the state that the steps before it leave.
* `performAll_recording`: what a host is asked and what it answers, step by step.
* `due_answerTo`, `gives_resultOf`: what a script answers.
* `performAll_one_request_each`: steps and requests match one to one, on any host and from a script.
-/

namespace CmakeDriver

open Execution

/-- The host `h`, with each request written down beside what `h` answers to it. -/
def Host.recording {σ : Type} (h : Host (StateM σ)) :
    Host (StateM (List (Recorded × Except Fault Outcome) × σ)) where
  note n := fun s => ((), s.1, (h.note n s.2).2)
  execute request checked := fun s =>
    let answered := h.execute request checked s.2
    (answered.1, s.1 ++ [({ request, checked }, answered.1)], answered.2)

namespace Cmake

variable (c : Cmake)

/-- **What a step asks of a host.** A configure step hands on its variables as they are, none and
no variables at all told apart; a build step has none. -/
inductive Asks : Step → Recorded → Prop
  | configure (s : ConfigureStep) : Asks (.configure s)
      { request := { argv := c.executable :: s.args, environment := s.environment }
        checked := true }
  | build (s : BuildStep) : Asks (.build s)
      { request := { argv := c.executable :: s.args, environment := none }, checked := true }

/-- What a step comes to if this is the response to its request. -/
inductive Gives : Response → Except Fault Unit → Prop
  | outcome (code : Option Int) : Gives (.outcome code) (.ok ())
  | failed (code : Option Int) : Gives (.failed code) (.error (.failed c.executable code))
  | spawn (text : String) : Gives (.spawn text) (.error (.spawn c.executable (.other text)))
  | emptyCommand : Gives .emptyCommand (.error .emptyCommand)

/-- The record of a step's request. -/
def recorded (s : Step) : Recorded where
  request := c.request s
  checked := true

variable {c}

theorem asks_recorded (s : Step) : c.Asks s (c.recorded s) := by
  cases s with
  | configure s => exact .configure s
  | build s => exact .build s

theorem gives_resultOf (s : Step) (r : Response) :
    c.Gives r ((Recording.resultOf (c.request s) r).map fun _ => ()) := by
  cases r with
  | outcome code => exact .outcome code
  | failed code => exact .failed code
  | spawn text => exact .spawn text
  | emptyCommand => exact .emptyCommand

/-! ## Step after step -/

section AnyHost

variable {σ : Type} {h : Host (StateM σ)}

/-- The first step is taken, and the others in the state that it leaves. -/
theorem performAll_cons {s : Step} {st st' : σ} {answer : Except Fault Unit}
    (hs : c.perform h s st = (answer, st')) (rest : List Step) :
    c.performAll h (s :: rest) st =
      (answer :: (c.performAll h rest st').1, (c.performAll h rest st').2) := by
  have hcons : c.performAll h (s :: rest) st =
      ((c.perform h s st).1 :: (c.performAll h rest (c.perform h s st).2).1,
        (c.performAll h rest (c.perform h s st).2).2) := rfl
  rw [hcons, hs]

/-- **Each step is performed**, in the state that the steps before it leave. -/
theorem getElem?_performAll (steps : List Step) (st : σ) (n : Nat) :
    (c.performAll h steps st).1[n]? =
      steps[n]?.map fun s => (c.perform h s (c.performAll h (steps.take n) st).2).1 := by
  induction steps generalizing st n with
  | nil => rfl
  | cons s rest ih =>
    rw [performAll_cons rfl]
    cases n with
    | zero => rfl
    | succ n =>
      rw [List.getElem?_cons_succ, List.getElem?_cons_succ, List.take_succ_cons,
        performAll_cons rfl]
      exact ih _ n

theorem length_performAll (steps : List Step) (st : σ) :
    (c.performAll h steps st).1.length = steps.length := by
  induction steps generalizing st with
  | nil => rfl
  | cons s rest ih =>
    rw [performAll_cons rfl, List.length_cons, List.length_cons, ih]

/-- What is written down while steps are taken: one request for each step, in order, and the
answers to them are what the steps come to. -/
theorem performAll_recording (steps : List Step)
    (log : List (Recorded × Except Fault Outcome)) (st : σ) :
    ∃ more, (c.performAll h.recording steps (log, st)).2.1 = log ++ more ∧
      more.map Prod.fst = steps.map c.recorded ∧
      (c.performAll h.recording steps (log, st)).1 = more.map fun e => e.2.map fun _ => () := by
  induction steps generalizing log st with
  | nil => exact ⟨[], (List.append_nil log).symm, rfl, rfl⟩
  | cons s rest ih =>
    -- The request of the first step, and the state that the host comes to with it.
    obtain ⟨answer, st', hfirst⟩ : ∃ answer st', c.perform h.recording s (log, st) =
        (answer.map fun _ => (), log ++ [(c.recorded s, answer)], st') := ⟨_, _, rfl⟩
    obtain ⟨more, hmore, hrequests, hanswers⟩ := ih (log ++ [(c.recorded s, answer)]) st'
    rw [performAll_cons hfirst]
    refine ⟨(c.recorded s, answer) :: more, ?_, ?_, ?_⟩
    · exact hmore.trans (List.append_cons log _ more).symm
    · rw [List.map_cons, List.map_cons, hrequests]
    · rw [List.map_cons, hanswers]

end AnyHost

end Cmake

/-! ## Answers from a script -/

namespace Recording

/-- **The response that is due** for the request number `n`, counted from zero: the one that stands
there in the script, behind its end the last one, and without any an outcome that has no code. -/
inductive Due : List Response → Nat → Response → Prop
  | scripted {script : List Response} {n : Nat} {r : Response} (h : script[n]? = some r) :
      Due script n r
  | repeated {front : List Response} {r : Response} {n : Nat} (h : front.length < n) :
      Due (front ++ [r]) n r
  | unscripted {n : Nat} : Due [] n (.outcome none)

theorem due_answerTo (script : List Response) (n : Nat) : Due script n (answerTo script n) := by
  unfold answerTo
  split
  · rename_i r hr
    exact .scripted hr
  · rename_i hnone
    have hn : script.length ≤ n := List.getElem?_eq_none_iff.1 hnone
    cases hlast : script.getLast? with
    | none =>
      obtain rfl := List.getLast?_eq_none_iff.1 hlast
      exact .unscripted
    | some r =>
      obtain ⟨front, rfl⟩ := List.getLast?_eq_some_iff.1 hlast
      rw [List.length_append, List.length_singleton] at hn
      exact .repeated hn

end Recording

namespace Cmake

variable {c : Cmake}

theorem performAll_host (steps : List Step) (s : Recording) :
    (c.performAll Recording.host steps s).2 =
      { s with requests := s.requests ++ steps.map c.recorded } := by
  induction steps generalizing s with
  | nil =>
    have hnothing : (c.performAll Recording.host [] s).2 = s := rfl
    rw [hnothing, List.map_nil, List.append_nil]
  | cons step rest ih =>
    obtain ⟨answer, hfirst⟩ : ∃ answer, c.perform Recording.host step s =
        (answer, { s with requests := s.requests ++ [c.recorded step] }) := ⟨_, rfl⟩
    rw [performAll_cons hfirst, ih]
    simp

/-- The answer to a step from a script. -/
theorem getElem?_performAll_host (steps : List Step) (script : List Response) (n : Nat) :
    (c.performAll Recording.host steps { script }).1[n]? =
      steps[n]?.map fun s =>
        (Recording.resultOf (c.request s) (Recording.answerTo script n)).map fun _ => () := by
  rw [getElem?_performAll, performAll_host]
  cases hs : steps[n]? with
  | none => rfl
  | some s =>
    have hn : n < steps.length := (List.getElem?_eq_some_iff.1 hs).1
    have hlength : ([] ++ (steps.take n).map c.recorded).length = n := by
      rw [List.nil_append, List.length_map, List.length_take_of_le (Nat.le_of_lt hn)]
    show some ((Recording.resultOf (c.request s)
      (Recording.answerTo script ([] ++ (steps.take n).map c.recorded).length)).map _) = _
    rw [hlength]
    rfl

/-- **One request for each step, and its answer for the step**, on any host, whatever state it is
in, and from a script. The number of a step says which response is due to it. -/
theorem performAll_one_request_each (c : Cmake) (steps : List Step) :
    (∀ {σ : Type} (h : Host (StateM σ)) (st : σ),
      let run := c.performAll h.recording steps ([], st)
      List.Forall₂ c.Asks steps (run.2.1.map Prod.fst) ∧
        run.1 = run.2.1.map fun e => e.2.map fun _ => ()) ∧
    ∀ script : List Response,
      let run := c.performAll Recording.host steps { script }
      List.Forall₂ c.Asks steps run.2.requests ∧ run.1.length = steps.length ∧
        ∀ n result, run.1[n]? = some result → ∃ r, Recording.Due script n r ∧ c.Gives r result := by
  have hasks : List.Forall₂ c.Asks steps (steps.map c.recorded) :=
    List.forall₂_map_right_iff.2 (List.forall₂_same.2 fun s _ => asks_recorded s)
  constructor
  · intro σ h st run
    obtain ⟨more, hlog, hrequests, hanswers⟩ := performAll_recording (c := c) (h := h) steps [] st
    rw [List.nil_append] at hlog
    refine ⟨?_, ?_⟩
    · rw [show run.2.1 = more from hlog, hrequests]
      exact hasks
    · rw [show run.2.1 = more from hlog]
      exact hanswers
  · intro script run
    refine ⟨?_, length_performAll steps _, ?_⟩
    · rw [show run.2 = _ from performAll_host steps { script }]
      exact hasks
    · intro n result hresult
      rw [show run.1[n]? = _ from getElem?_performAll_host steps script n] at hresult
      obtain ⟨s, -, rfl⟩ := Option.map_eq_some_iff.1 hresult
      exact ⟨_, Recording.due_answerTo script n, gives_resultOf s _⟩

end Cmake

end CmakeDriver
