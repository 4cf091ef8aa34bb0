import CmakeDriver.Log.Note
import CmakeDriver.Log.Pattern
import CmakeDriver.Text.Alphanumeric
import CmakeDriver.Text.Blank
import CmakeDriver.Text.Slice

/-!
# Log filters

A filter is a list of directives, read from a text with commas between them. A directive is a level
for everything, or

    target[span{field=value}]=level

for the notes whose target begins with `target`. The target, the brackets and the level may be left
out; a directive without a level shows everything. The brackets hold a span, a field, or both. Notes
are in no span and spans are all that values are compared in, so of the directives with brackets
only those with nothing but the name of a field show notes: those that have this field.

Of the directives that apply to a note the most specific decides: the one with the longest target,
then one with a field, and of several such the last.

A level is a word in any case or its number; `off` and `0` stand for no note at all. The empty text
shows errors only. A text with an unreadable directive is no filter.

The signs of a directive are sought in the text without the blank characters at its ends, but its
parts are cut from the text with them. Behind blanks the cuts are off by their width, and one may
fall inside a character. Then the reading does not come to an end (`read?`), and neither does the
program that reads: it is broken off.

Out of scope: filters on spans, for a driver opens none, and the message of a program that is
broken off, which names places in the text of a library.

Results:
* `shows_byDefault`: without a filter the notes up to `info` are shown.
-/

namespace CmakeDriver

namespace Log

/-- What is shown of some notes: those up to `limit`. -/
structure Directive where
  /-- What the notes' targets begin with, unless it is about all of them. -/
  target : Option String := none
  /-- The name of a field that the notes have, unless it is about all of them. -/
  field : Option String := none
  /-- The rank of the most talkative level that is shown; 0 shows nothing. -/
  limit : Nat
  deriving DecidableEq, Repr

/-- A list of directives. -/
abbrev Filter := List Directive

namespace Directive

/-- Whether a directive is about a note. -/
def appliesTo (d : Directive) (n : Note) : Bool :=
  d.target.all (fun target => target.toList.isPrefixOf n.target.toList)
    && d.field.all fun field => n.fields.contains field

/-- How far a directive narrows down by target: not at all without one. -/
def reach (d : Directive) : Nat :=
  match d.target with
  | none => 0
  | some target => width target.toList + 1

/-- Whether `d` is at least as specific as `e`. Of two fields the later name counts as more. -/
def covers (d e : Directive) : Bool :=
  if d.reach ≠ e.reach then e.reach < d.reach
  else
    match d.field, e.field with
    | _, none => true
    | none, some _ => false
    | some f, some g => g ≤ f

/-- Of two directives in their order, the one that decides. -/
def deciding (earlier later : Directive) : Directive :=
  if later.covers earlier then later else earlier

end Directive

namespace Filter

/-- The variable that holds the filter. -/
def variableName : String := "RUST_LOG"

/-- The filter that counts where none can be read. -/
def byDefault : Filter := [{ limit := Level.info.rank }]

/-- The filter of a text without directives. -/
def errorsOnly : Filter := [{ limit := Level.error.rank }]

/-! ## Levels -/

/-- The number that digits stand for, possibly behind a plus. -/
def number? (word : List Char) : Option Nat :=
  let digits :=
    match word with
    | '+' :: rest => rest
    | word => word
  if digits ≠ [] ∧ digits.all Char.isDigit then
    some (digits.foldl (fun n d => 10 * n + (d.toNat - '0'.toNat)) 0)
  else none

/-- The rank that a level word or number stands for. -/
def limit? (word : List Char) : Option Nat :=
  match number? word with
  | some n => if n ≤ Level.trace.rank then some n else none
  | none =>
    match (word.map Char.toLower : List Char) with
    | ['o', 'f', 'f'] => some 0
    | ['e', 'r', 'r', 'o', 'r'] => some Level.error.rank
    | ['w', 'a', 'r', 'n'] => some Level.warn.rank
    | ['i', 'n', 'f', 'o'] => some Level.info.rank
    | ['d', 'e', 'b', 'u', 'g'] => some Level.debug.rank
    | ['t', 'r', 'a', 'c', 'e'] => some Level.trace.rank
    | _ => none

/-! ## Directives -/

/-- Why a text is not read as a filter. -/
inductive Fault where
  /-- It is none. -/
  | malformed
  /-- A cut falls inside a character. -/
  | splitCharacter
  deriving DecidableEq, Repr

/-- What a directive is about. -/
inductive Reading where
  | notes (directive : Directive)
  /-- A span, or a value in one. -/
  | spans
  deriving DecidableEq, Repr

/-- What is cut from a text, unless a cut falls inside a character. -/
def cutting : Option (List Char) → Except Fault (List Char)
  | some part => .ok part
  | none => .error .splitCharacter

/-- The first of these signs in a text that stands at the place `i`: its own place, the sign, and
the text behind it. -/
def seek (signs : List Char) : (i : Nat) → List Char → Option (Nat × Char × List Char)
  | _, [] => none
  | i, c :: rest => if c ∈ signs then some (i, c, rest) else seek signs (i + c.utf8Size) rest

/-- The level in the rest of a text from the place `i` on. Without a level everything is shown. -/
def level (whole : List Char) (i : Nat) : Except Fault Nat := do
  let word ← cutting (behind? whole i)
  if word = [] then pure Level.trace.rank
  else
    match limit? word with
    | some limit => pure limit
    | none => throw .malformed

/-- The level behind brackets that are closed before the place `i`, where `rest` follows. -/
def levelBehind (whole : List Char) (i : Nat) (rest : List Char) : Except Fault Nat :=
  match rest with
  | [] => pure Level.trace.rank
  | '=' :: _ => level whole (i + 1)
  | _ :: _ => throw .malformed

/-- The name of a field in brackets, or nothing if a value is asked for. -/
def fieldName (field : List Char) : Except Fault (Option String) :=
  match cutAt '=' field with
  | none => if field = [] then throw .malformed else pure (some (String.ofList field))
  | some (_, value) =>
    if isPattern (value.takeWhile (· ≠ '=')) then pure none else throw .malformed

/-- What brackets are about that hold a field at the place `i`, where `inside` follows. -/
def fieldBrackets (whole : List Char) (target : Option String) (span : List Char) (i : Nat)
    (inside : List Char) : Except Fault Reading := do
  match seek ['\x7d'] i inside with
  | none => throw .malformed
  | some (j, _, rest) =>
    let name ← fieldName (← cutting (slice? whole i j))
    match rest with
    | ']' :: rest =>
      let limit ← levelBehind whole (j + 2) rest
      match name with
      | some field => pure (if span = [] then .notes { target, field, limit } else .spans)
      | none => pure .spans
    | _ => throw .malformed

/-- What brackets are about that open before the place `i`, where `inside` follows. -/
def brackets (whole : List Char) (target : Option String) (i : Nat) (inside : List Char) :
    Except Fault Reading := do
  match seek [']', '\x7b'] i inside with
  | none => throw .malformed
  | some (j, sign, rest) =>
    let span ← cutting (slice? whole i j)
    if sign = ']' then
      let _ ← levelBehind whole (j + 1) rest
      pure .spans
    else fieldBrackets whole target span (j + 1) rest

/-- What a directive without brackets or level is about: a level for everything, or a target of
which everything is shown. -/
def word (whole : List Char) : Reading :=
  match limit? whole with
  | some limit => .notes { limit }
  | none => .notes { target := some (String.ofList whole), limit := Level.trace.rank }

/-- Whether a target may begin with a character. -/
def beginsTarget (c : Char) : Bool :=
  c = '-' || c = ':' || c = '_' || isAlphanumeric c

/-- What a directive that begins with a target or a level is about. -/
def targeted (whole body : List Char) : Except Fault Reading := do
  match seek ['=', '['] 0 body with
  | none => pure (word whole)
  | some (i, sign, rest) =>
    let target := String.ofList (← cutting (slice? whole 0 i))
    if sign = '[' then brackets whole target (i + 1) rest
    else
      let limit ← level whole (i + 1)
      pure (.notes { target, limit })

/-- What a directive is about. Its signs are sought in the text without the blank characters at its
ends and counted from there. -/
def directive (whole : List Char) : Except Fault Reading :=
  match trim whole with
  | [] => throw .malformed
  | c :: rest =>
    if c = '[' then brackets whole none 1 rest
    else if beginsTarget c then targeted whole (c :: rest)
    else throw .malformed

/-- The texts between commas. -/
def commaParts : List Char → List (List Char)
  | [] => [[]]
  | c :: rest =>
    if c = ',' then [] :: commaParts rest
    else
      match commaParts rest with
      | [] => [[c]]
      | part :: parts => (c :: part) :: parts

/-- The filter that directives make. -/
def ofReadings (readings : List Reading) : Filter :=
  if readings = [] then errorsOnly
  else
    readings.filterMap fun
      | .notes d => some d
      | .spans => none

/-- The filter that a text stands for. The first fault counts. -/
def parse (text : String) : Except Fault Filter :=
  (((commaParts text.toList).filter (· ≠ [])).mapM directive).map ofReadings

/-- The filter that a variable's bytes stand for, or else the default. There is none where the
reading does not come to an end. -/
def read? (value : Option Bytes) : Option Filter :=
  match value.bind Bytes.decode? with
  | none => some byDefault
  | some text =>
    match parse text with
    | .ok f => some f
    | .error .malformed => some byDefault
    | .error .splitCharacter => none

/-- A blank of two bytes puts the cut behind the target inside it. -/
example : parse "\u00a0a=info" = .error .splitCharacter := rfl

/-! ## Showing notes -/

/-- Whether a note is shown. -/
def shows (f : Filter) (n : Note) : Bool :=
  match f.filter (·.appliesTo n) with
  | [] => false
  | d :: rest => n.level.rank ≤ (rest.foldl Directive.deciding d).limit

theorem shows_byDefault (n : Note) : shows byDefault n = true ↔ n.level.rank ≤ Level.info.rank := by
  have h : shows byDefault n = decide (n.level.rank ≤ Level.info.rank) := rfl
  rw [h, decide_eq_true_iff]

end Filter

end Log

end CmakeDriver
