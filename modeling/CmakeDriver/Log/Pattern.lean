import CmakeDriver.Text.Cut

/-!
# Patterns

A directive may ask for a field with a value. The value is a truth value, a number, or a regular
expression; this module says which texts are one. A regular expression is refused if a repetition
has nothing to repeat, a parenthesis or a bracket stands alone, or a backslash stands at its end.
A counted repetition cannot be closed inside a directive, so it is refused too.
-/

namespace CmakeDriver

namespace Log

/-- What stands directly before a character of a regular expression. -/
inductive Before where
  /-- The beginning of an alternative. -/
  | nothing
  /-- Something that can be repeated. -/
  | item
  deriving DecidableEq, Repr

/-- The rest behind the bracket that closes a class; the classes inside it are counted by
`depth`. -/
def behindClass? : (depth : Nat) → List Char → Option (List Char)
  | _, [] => none
  | depth, '\\' :: _ :: rest => behindClass? depth rest
  | depth, '[' :: rest => behindClass? (depth + 1) rest
  | 0, ']' :: rest => some rest
  | depth + 1, ']' :: rest => behindClass? depth rest
  | depth, _ :: rest => behindClass? depth rest

theorem length_behindClass? {depth : Nat} {cs rest : List Char}
    (h : behindClass? depth cs = some rest) : rest.length < cs.length := by
  fun_induction behindClass? depth cs with
  | case1 => exact absurd h (by simp)
  | case2 _ _ _ ih => have := ih h; simp only [List.length_cons]; omega
  | case3 _ _ ih => have := ih h; simp only [List.length_cons]; omega
  | case4 => obtain rfl := Option.some.inj h; simp
  | case5 _ _ ih => have := ih h; simp only [List.length_cons]; omega
  | case6 _ _ _ _ _ _ _ ih => have := ih h; simp only [List.length_cons]; omega

/-- The members of a class: a bracket that closes it cannot be the first of them. -/
def classBody : List Char → List Char
  | '^' :: ']' :: rest => rest
  | ']' :: rest => rest
  | rest => rest

theorem length_classBody_le (cs : List Char) : (classBody cs).length ≤ cs.length := by
  unfold classBody
  split
  · simp only [List.length_cons]; omega
  · simp only [List.length_cons]; omega
  · omega

/-- Whether a text goes on as a regular expression inside `groups` open parentheses. -/
def goesOn (before : Before) (groups : Nat) (cs : List Char) : Bool :=
  match cs with
  | [] => groups = 0
  | '\\' :: [] => false
  | '\\' :: _ :: rest => goesOn .item groups rest
  | '(' :: '?' :: _ :: rest => goesOn .nothing (groups + 1) rest
  | '(' :: rest => goesOn .nothing (groups + 1) rest
  | ')' :: rest => if groups = 0 then false else goesOn .item (groups - 1) rest
  | '|' :: rest => goesOn .nothing groups rest
  | '{' :: _ => false
  | '[' :: rest =>
    match _found : behindClass? 0 (classBody rest) with
    | some after => goesOn .item groups after
    | none => false
  | c :: rest =>
    if c = '*' ∨ c = '+' ∨ c = '?' then before = .item && goesOn .item groups rest
    else goesOn .item groups rest
termination_by cs.length
decreasing_by
  all_goals simp only [List.length_cons]
  any_goals omega
  have := length_behindClass? _found
  have := length_classBody_le rest
  omega

/-- Whether a text is a number: a sign or none, digits, and a fraction or none. -/
def isNumber (cs : List Char) : Bool :=
  let unsigned :=
    match cs with
    | '+' :: rest => rest
    | '-' :: rest => rest
    | cs => cs
  match cutAt '.' unsigned with
  | none => unsigned ≠ [] && unsigned.all Char.isDigit
  | some (whole, fraction) => (whole ++ fraction) ≠ [] && (whole ++ fraction).all Char.isDigit

/-- Whether a text can be asked for as the value of a field. -/
def isPattern (cs : List Char) : Bool :=
  isNumber cs || goesOn .nothing 0 cs

end Log

end CmakeDriver
