import CmakeDriver.Proofs.Execution.Attempt
import CmakeDriver.Proofs.World.Lookup

/-!
# What has been called when a program has ended

A program that has ended has been called, and its call is in the trace: the path there holds a
program file that ends so, the arguments end in those of the request, and the environment is the
request's. A script shows as a call of its interpreter. The one exception is a text that the search
takes to the shell, for the shell is no program of the world.

Results:
* `started_of_startedBy`: what a request comes to if something is started.
* `called_of_runs`: what the trace of its execution tells.
-/

namespace CmakeDriver

open Execution CmakeDriver.Path

namespace World

variable {w : World} {r : Request} {ending : Ending} {image : Image} {args : List Bytes}

/-- **What is started** with these arguments: a program file, or a text that only the shell can run,
if it may be taken there. -/
inductive Started (w : World) (shell : Bool) (args : List Bytes) (image : Image) : Prop
  | program {p : Path} {front : List Bytes} (called : image.call = some (p, front ++ args))
      (file : w.tree.find w.cwd p = .ok (.program image.program true))
  | shell {p : Path} (allowed : shell = true) (text : w.ForShell p)
      (taken : image = w.shellImage p)

theorem started_of_attempt {shell : Bool} {p : Path}
    (h : w.attempt shell p args = .ok image) : w.Started shell args image := by
  unfold attempt at h
  cases hs : w.startable p with
  | error e =>
    rw [hs] at h
    exact absurd h (by simp)
  | ok found =>
    rw [hs] at h
    simp only at h
    split at h
    · rename_i hi
      have htext : w.ForShell p :=
        ⟨found, hs, eq_error_of_map (opened_image maxOpened found p args []) hi⟩
      cases shell with
      | false => exact absurd h (by simp)
      | true => exact .shell rfl htext (Except.ok.inj h).symm
    · obtain ⟨q, front, hcall, hfile⟩ := call_of_image hs h
      exact .program hcall hfile

theorem started_of_findProgram {e : Environment} {shell : Bool} {name : Path}
    (h : w.findProgram e shell name args = .ok image) : w.Started shell args image := by
  rw [findProgram_eq_lookup] at h
  cases hl : w.lookup e shell name with
  | error f =>
    rw [hl] at h
    exact absurd h (by simp [bind, Except.bind])
  | ok p =>
    rw [hl] at h
    cases started_of_attempt h with
    | program hcall hfile => exact .program hcall hfile
    | shell hallowed htext htaken =>
      exact .shell (Bool.and_eq_true_iff.1 hallowed).1 htext htaken

theorem started_of_startedBy {name : String} {words : List String}
    (h : w.startedBy r name words = .ok image) :
    w.Started r.ownEnvironment?.isSome (words.map Bytes.ofString) image := by
  unfold startedBy at h
  split at h
  · exact absurd h (by simp)
  · cases hf : w.findProgram (w.environmentOf r) r.ownEnvironment?.isSome (Bytes.ofString name)
      (words.map Bytes.ofString) with
    | error f =>
      rw [hf] at h
      exact absurd h (by simp [Except.mapError])
    | ok found =>
      rw [hf] at h
      obtain rfl : found = image := Except.ok.inj h
      exact started_of_findProgram hf

/-- **The calls of a request whose program has ended so.** -/
inductive Called (w : World) (r : Request) (ending : Ending) : List Call → Prop
  | program {p : Path} {front : List Bytes} {program : Program}
      (file : w.tree.find w.cwd p = .ok (.program program true))
      (ended : program.ending = ending) :
      Called w r ending
        [{ program := w.startPath p
           args := front ++ r.argv.tail.map Bytes.ofString
           environment := w.environmentOf r }]
  | shell {p : Path} (own : r.ownEnvironment?.isSome = true) (text : w.ForShell p)
      (ended : (w.shellImage p).program.ending = ending) : Called w r ending []

theorem called_of_runs (h : w.Runs r ending) (checked : Bool) :
    w.Called r ending (w.execute r checked).calls := by
  obtain ⟨name, words, image, hargv, hs, rfl⟩ := h
  have htail : r.argv.tail = words := by rw [hargv, List.tail_cons]
  rw [callsOf_execute hargv, hs]
  cases started_of_startedBy hs with
  | program hcall hfile =>
    rw [← htail] at hcall
    simp only [callOf, hcall, Option.map_some, Option.toList_some]
    exact .program hfile rfl
  | shell hallowed htext htaken =>
    subst htaken
    exact .shell hallowed htext rfl

end World

end CmakeDriver
