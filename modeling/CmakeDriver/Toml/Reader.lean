/-!
# Readers

A reader takes the beginning of a text and leaves the rest, or fails. Repetition is one operation,
`Reader.loop`: it takes turns until one is the last. A turn that is not the last has to leave less
than it found, or the loop fails; so every reader comes to an end on every text.

Results:
* `pure_apply`, `bind_apply`: what a sequence of readers does to a text.
* `loop_again`, `loop_done`, `loop_fail`: a loop goes on behind a turn that leaves less, and ends
  with the last turn or one that fails.
* `takeWhile_append`: a run of characters is taken whole if the rest does not go on with it.
-/

namespace CmakeDriver

namespace Toml

/-- Takes the beginning of a text and leaves the rest, or fails. -/
def Reader (α : Type) : Type :=
  List Char → Option (α × List Char)

/-- One turn of a loop: it goes on, or it is the last. -/
inductive Turn (σ α : Type) where
  | again (state : σ)
  | done (result : α)

namespace Reader

variable {α β σ : Type}

instance : Monad Reader where
  pure a := fun s => some (a, s)
  bind r f := fun s =>
    match r s with
    | none => none
    | some (a, rest) => f a rest

/-- Always fails. -/
def fail : Reader α := fun _ => none

/-- Succeeds with the value of an option. -/
def ofOption : Option α → Reader α
  | some a => pure a
  | none => fail

/-- The next character, if there is one; it is left where it is. -/
def peek : Reader (Option Char) := fun s => some (s.head?, s)

/-- Takes the next character. -/
def next : Reader Char
  | [] => none
  | c :: rest => some (c, rest)

/-- Takes this character. -/
def char (c : Char) : Reader Unit
  | [] => none
  | d :: rest => if d = c then some ((), rest) else none

/-- Takes these characters, or fails. -/
def literal (word : List Char) : Reader Unit := fun s =>
  if word.isPrefixOf s then some ((), s.drop word.length) else none

/-- Whether these characters come next; they are left where they are. -/
def sees (word : List Char) : Reader Bool := fun s => some (word.isPrefixOf s, s)

/-- Takes the longest run of such characters, possibly none. -/
def takeWhile (p : Char → Bool) : Reader (List Char) := fun s =>
  some (s.takeWhile p, s.dropWhile p)

/-- Takes one or more of such characters. -/
def takeWhile1 (p : Char → Bool) : Reader (List Char) := fun s =>
  if s.takeWhile p = [] then none else some (s.takeWhile p, s.dropWhile p)

/-- Takes exactly `n` of such characters. -/
def exactly (n : Nat) (p : Char → Bool) : Reader (List Char) := fun s =>
  if (s.take n).length = n ∧ (s.take n).all p then some (s.take n, s.drop n) else none

/-- Takes what the reader takes, or nothing if it fails. -/
def optional (r : Reader α) : Reader (Option α) := fun s =>
  match r s with
  | some (a, rest) => some (some a, rest)
  | none => some (none, s)

/-- Takes turns until one is the last. -/
def loop (turn : σ → Reader (Turn σ α)) (state : σ) (s : List Char) : Option (α × List Char) :=
  match turn state s with
  | none => none
  | some (.done a, rest) => some (a, rest)
  | some (.again state, rest) => if rest.length < s.length then loop turn state rest else none
termination_by s.length

/-! ## What readers do to a text -/

@[simp] theorem pure_apply (a : α) (s : List Char) : (pure a : Reader α) s = some (a, s) := rfl

theorem bind_apply (r : Reader α) (f : α → Reader β) (s : List Char) :
    (r >>= f) s = (r s).bind fun p => f p.1 p.2 := by
  show (match r s with | none => none | some (a, rest) => f a rest) = _
  cases r s <;> rfl

theorem bind_of_eq_some {r : Reader α} {s rest : List Char} {a : α} (h : r s = some (a, rest))
    (f : α → Reader β) : (r >>= f) s = f a rest := by
  rw [bind_apply, h]; rfl

theorem bind_of_eq_none {r : Reader α} {s : List Char} (h : r s = none) (f : α → Reader β) :
    (r >>= f) s = none := by
  rw [bind_apply, h]; rfl

@[simp] theorem char_cons_self (c : Char) (rest : List Char) :
    char c (c :: rest) = some ((), rest) := by
  simp [char]

theorem loop_again {turn : σ → Reader (Turn σ α)} {state next : σ} {s rest : List Char}
    (h : turn state s = some (.again next, rest)) (hlt : rest.length < s.length) :
    loop turn state s = loop turn next rest := by
  rw [loop, h]; simp [hlt]

theorem loop_done {turn : σ → Reader (Turn σ α)} {state : σ} {s rest : List Char} {a : α}
    (h : turn state s = some (.done a, rest)) : loop turn state s = some (a, rest) := by
  rw [loop, h]

theorem loop_fail {turn : σ → Reader (Turn σ α)} {state : σ} {s : List Char}
    (h : turn state s = none) : loop turn state s = none := by
  rw [loop, h]

theorem takeWhile_append {p : Char → Bool} {run rest : List Char} (h : ∀ c ∈ run, p c = true)
    (hr : ∀ c, rest.head? = some c → p c = false) :
    takeWhile p (run ++ rest) = some (run, rest) := by
  have key : (run ++ rest).takeWhile p = run ∧ (run ++ rest).dropWhile p = rest := by
    induction run with
    | nil =>
      cases rest with
      | nil => simp
      | cons c rest => simp [hr c rfl]
    | cons c run ih =>
      have := ih fun d hd => h d (List.mem_cons_of_mem _ hd)
      simp [h c (by simp), this]
  rw [takeWhile, key.1, key.2]

end Reader

end Toml

end CmakeDriver
