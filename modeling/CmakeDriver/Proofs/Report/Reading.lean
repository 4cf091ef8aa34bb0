import CmakeDriver.Report.Json
import CmakeDriver.Proofs.Toml.Spelling

/-!
# Reading JSON

A reader of JSON texts (RFC 8259): one value with nothing but blanks around it. Strings know the
short escapes and numbers of four hexadecimal digits, two of which make a pair for a character
beyond U+FFFF; control characters have to be escaped. Numbers are kept as they are written, and the
members of an object in their order.

A character of a string can be spelled in several ways, and the reader takes it back from each. The
objects that reports are written as use one of them, so they read as the fields they were written
for, whatever texts stand in these.

Results:
* `stringTurn_spells`: a turn through a string takes one character, however it is spelled.
* `spells_escaped`: the written form of a character is one of its spellings.
* `parse?_object`: a written object reads as its fields.
-/

namespace CmakeDriver

namespace Json

open Toml (Reader Turn hexValue? ofDigits scalar?)
open Toml.Reader (fail ofOption peek next char literal takeWhile takeWhile1 exactly optional loop
  bind_of_eq_some char_cons_self loop_again loop_done takeWhile_append exactly_append
  scalar?_toNat)

/-! ## The reader -/

/-- A value of a JSON text. -/
inductive Value where
  | null
  | boolean (b : Bool)
  /-- A number as it is written. -/
  | number (written : String)
  | text (s : String)
  | array (items : List Value)
  | object (members : List (String × Value))
  deriving Repr, BEq, Inhabited

namespace Reader

/-- Whether a character is blank. -/
def isBlank (c : Char) : Bool :=
  c = ' ' || c = '\t' || c = '\n' || c = '\r'

/-- Takes blanks, possibly none. -/
def blanks : Reader Unit := do
  let _ ← takeWhile isBlank
  pure ()

/-- Takes one of these characters. -/
def oneOf (marks : List Char) : Reader Char := do
  let c ← next
  if c ∈ marks then pure c else fail

/-! ### Strings -/

/-- The marks that stand for a character behind a backslash. -/
def shortEscapes : List (Char × Char) :=
  [('\x22', '\x22'), ('\\', '\\'), ('/', '/'), ('b', '\x08'), ('f', '\x0c'), ('n', '\n'),
    ('r', '\r'), ('t', '\t')]

/-- Takes a number in four hexadecimal digits. -/
def fourDigits : Reader Nat := do
  let digits ← exactly 4 fun c => (hexValue? c).isSome
  pure (ofDigits 16 digits)

/-- Whether a number is the first of a pair. -/
def isHigh (n : Nat) : Bool :=
  0xD800 ≤ n && n < 0xDC00

/-- Whether a number is the second of a pair. -/
def isLow (n : Nat) : Bool :=
  0xDC00 ≤ n && n < 0xE000

/-- The number of the character that a pair stands for. -/
def ofPair (high low : Nat) : Nat :=
  0x10000 + (high - 0xD800) * 0x400 + (low - 0xDC00)

/-- Takes the number of a character, or the pair of numbers that stands for it. -/
def escapedScalar : Reader Char := do
  let high ← fourDigits
  if isHigh high then do
    literal ['\\', 'u']
    let low ← fourDigits
    if isLow low then ofOption (scalar? (ofPair high low)) else fail
  else ofOption (scalar? high)

/-- Takes what follows a backslash and stands for one character. -/
def escape : Reader Char := do
  let mark ← next
  if mark = 'u' then escapedScalar else ofOption (shortEscapes.lookup mark)

/-- One turn through a string, with the characters so far, the last one first. -/
def stringTurn (sofar : List Char) : Reader (Turn (List Char) String) := do
  let c ← next
  if c = '\x22' then pure (.done (String.ofList sofar.reverse))
  else if c = '\\' then do
    let c ← escape
    pure (.again (c :: sofar))
  else if c.toNat < 0x20 then fail
  else pure (.again (c :: sofar))

/-- Takes a string between quotes. -/
def string : Reader String := do
  char '\x22'
  loop stringTurn []

/-! ### Numbers -/

/-- Takes the digits of a whole number: a zero alone, or digits that begin with another. -/
def wholeDigits : Reader (List Char) := do
  let ds ← takeWhile1 Char.isDigit
  if ds.head? = some '0' ∧ ds ≠ ['0'] then fail else pure ds

/-- Takes a fraction. -/
def fraction : Reader (List Char) := do
  char '.'
  let ds ← takeWhile1 Char.isDigit
  pure ('.' :: ds)

/-- Takes an exponent. -/
def exponent : Reader (List Char) := do
  let mark ← oneOf ['e', 'E']
  let sign ← optional (oneOf ['+', '-'])
  let ds ← takeWhile1 Char.isDigit
  pure (mark :: sign.toList ++ ds)

/-- Takes a number. -/
def number : Reader Value := do
  let sign ← optional (oneOf ['-'])
  let whole ← wholeDigits
  let part ← optional fraction
  let power ← optional exponent
  pure (.number (String.ofList (sign.toList ++ whole ++ part.getD [] ++ power.getD [])))

/-! ### Values -/

/-- Takes a value that is neither an array nor an object. -/
def scalar : Reader Value := do
  match ← peek with
  | some '\x22' => do
    let s ← string
    pure (.text s)
  | some 'n' => do
    literal ['n', 'u', 'l', 'l']
    pure .null
  | some 't' => do
    literal ['t', 'r', 'u', 'e']
    pure (.boolean true)
  | some 'f' => do
    literal ['f', 'a', 'l', 's', 'e']
    pure (.boolean false)
  | _ => number

/-- Takes an element of an array and what follows it, the last one first in `sofar`. -/
def elementTurn (element : Reader Value) (sofar : List Value) :
    Reader (Turn (List Value) Value) := do
  blanks
  let v ← element
  blanks
  let mark ← oneOf [',', ']']
  if mark = ',' then pure (.again (v :: sofar)) else pure (.done (.array (v :: sofar).reverse))

/-- Takes a member of an object and what follows it, the last one first in `sofar`. -/
def memberTurn (value : Reader Value) (sofar : List (String × Value)) :
    Reader (Turn (List (String × Value)) Value) := do
  blanks
  let name ← string
  blanks
  char ':'
  blanks
  let v ← value
  blanks
  let mark ← oneOf [',', '\x7d']
  if mark = ',' then pure (.again ((name, v) :: sofar))
  else pure (.done (.object ((name, v) :: sofar).reverse))

/-- Takes the rest of an array or object: what closes it at once, or turns. -/
def closedOr (close : Char) (empty : Value) (turns : Reader Value) : Reader Value := do
  blanks
  match ← optional (char close) with
  | some _ => pure empty
  | none => turns

/-- Takes a value that holds at most so many arrays and objects within one another. -/
def value : (nesting : Nat) → Reader Value
  | 0 => scalar
  | nesting + 1 => do
    match ← peek with
    | some '[' => do
      char '['
      closedOr ']' (.array []) (loop (elementTurn (value nesting)) [])
    | some '\x7b' => do
      char '\x7b'
      closedOr '\x7d' (.object []) (loop (memberTurn (value nesting)) [])
    | _ => scalar

/-- Takes a value and the blanks around it. -/
def document (nesting : Nat) : Reader Value := do
  blanks
  let v ← value nesting
  blanks
  pure v

end Reader

/-- The value of a JSON text. No text holds more arrays and objects within one another than it has
characters. -/
def parse? (text : String) : Option Value :=
  match Reader.document text.length text.toList with
  | some (v, []) => some v
  | _ => none

/-! ## Strings, written and read -/

/-- The ways to spell a character in a string. -/
inductive Spells (c : Char) : List Char → Prop
  | plain (hq : c ≠ '\x22') (hb : c ≠ '\\') (h : 0x20 ≤ c.toNat) : Spells c [c]
  | short {mark : Char} (h : (mark, c) ∈ Reader.shortEscapes) : Spells c ['\\', mark]
  | number {digits : List Char} (hlength : digits.length = 4)
      (hd : ∀ d ∈ digits, (hexValue? d).isSome = true) (hn : ofDigits 16 digits = c.toNat) :
      Spells c ('\\' :: 'u' :: digits)
  | pair {high low : List Char} (hh : high.length = 4) (hl : low.length = 4)
      (hhd : ∀ d ∈ high, (hexValue? d).isSome = true) (hld : ∀ d ∈ low, (hexValue? d).isSome = true)
      (hhigh : Reader.isHigh (ofDigits 16 high) = true)
      (hlow : Reader.isLow (ofDigits 16 low) = true)
      (hn : Reader.ofPair (ofDigits 16 high) (ofDigits 16 low) = c.toNat) :
      Spells c ('\\' :: 'u' :: (high ++ '\\' :: 'u' :: low))

namespace Reader

variable {c : Char} {spelled digits : List Char}

theorem fourDigits_append (hlength : digits.length = 4)
    (hd : ∀ d ∈ digits, (hexValue? d).isSome = true) (rest : List Char) :
    fourDigits (digits ++ rest) = some (ofDigits 16 digits, rest) := by
  have hread := exactly_append hd rest
  rw [hlength] at hread
  exact bind_of_eq_some hread _

theorem not_isHigh_toNat (c : Char) : isHigh c.toNat = false := by
  have hvalid : c.toNat.isValidChar := c.valid
  simp only [Nat.isValidChar] at hvalid
  simp only [isHigh, Bool.and_eq_false_iff, decide_eq_false_iff_not]
  omega

theorem escape_short {mark : Char} (h : (mark, c) ∈ shortEscapes) (rest : List Char) :
    escape (mark :: rest) = some (c, rest) := by
  simp only [shortEscapes, List.mem_cons, List.not_mem_nil, or_false, Prod.mk.injEq] at h
  rcases h with ⟨rfl, rfl⟩ | ⟨rfl, rfl⟩ | ⟨rfl, rfl⟩ | ⟨rfl, rfl⟩ | ⟨rfl, rfl⟩ | ⟨rfl, rfl⟩ |
    ⟨rfl, rfl⟩ | ⟨rfl, rfl⟩ <;> rfl

theorem escapedScalar_number (hlength : digits.length = 4)
    (hd : ∀ d ∈ digits, (hexValue? d).isSome = true) (hn : ofDigits 16 digits = c.toNat)
    (rest : List Char) : escapedScalar (digits ++ rest) = some (c, rest) := by
  rw [escapedScalar, bind_of_eq_some (fourDigits_append hlength hd rest), hn, not_isHigh_toNat,
    if_neg Bool.false_ne_true, scalar?_toNat]
  rfl

theorem escapedScalar_pair {high low : List Char} (hh : high.length = 4) (hl : low.length = 4)
    (hhd : ∀ d ∈ high, (hexValue? d).isSome = true) (hld : ∀ d ∈ low, (hexValue? d).isSome = true)
    (hhigh : isHigh (ofDigits 16 high) = true) (hlow : isLow (ofDigits 16 low) = true)
    (hn : ofPair (ofDigits 16 high) (ofDigits 16 low) = c.toNat) (rest : List Char) :
    escapedScalar (high ++ '\\' :: 'u' :: (low ++ rest)) = some (c, rest) := by
  have hmark : literal ['\\', 'u'] ('\\' :: 'u' :: (low ++ rest)) = some ((), low ++ rest) := rfl
  rw [escapedScalar, bind_of_eq_some (fourDigits_append hh hhd _), if_pos hhigh,
    bind_of_eq_some hmark, bind_of_eq_some (fourDigits_append hl hld rest), if_pos hlow, hn,
    scalar?_toNat]
  rfl

/-- **A turn takes one character**, however it is spelled. -/
theorem stringTurn_spells (h : Spells c spelled) (sofar rest : List Char) :
    stringTurn sofar (spelled ++ rest) = some (.again (c :: sofar), rest) := by
  -- Behind a backslash the turn goes on as the escape does.
  have hescape : ∀ e : List Char, escape e = some (c, rest) →
      stringTurn sofar ('\\' :: e) = some (.again (c :: sofar), rest) := by
    intro e he
    have hn : next ('\\' :: e) = some ('\\', e) := rfl
    rw [stringTurn, bind_of_eq_some hn, if_neg (by decide), if_pos rfl, bind_of_eq_some he]
    rfl
  cases h with
  | plain hq hb h =>
    have hn : next (c :: rest) = some (c, rest) := rfl
    rw [List.singleton_append, stringTurn, bind_of_eq_some hn, if_neg hq, if_neg hb,
      if_neg (Nat.not_lt.2 h)]
    rfl
  | short h => exact hescape _ (escape_short h rest)
  | number hlength hd hn => exact hescape _ (escapedScalar_number hlength hd hn rest)
  | pair hh hl hhd hld hhigh hlow hn =>
    rw [List.cons_append, List.cons_append, List.append_assoc]
    exact hescape _ (escapedScalar_pair hh hl hhd hld hhigh hlow hn rest)

end Reader

/-- The written form of a character is one of its spellings. -/
theorem spells_escaped (c : Char) : Spells c (escaped c) := by
  have hdigits : ∀ n < 0x20, ofDigits 16 ('0' :: '0' :: hexPair n) = n ∧
      ('0' :: '0' :: hexPair n).all (fun d => (hexValue? d).isSome) = true := by decide
  have hshort : ∀ p ∈ Reader.shortEscapes, Spells p.2 ['\\', p.1] := fun _ h => .short h
  unfold escaped
  split
  · next h => exact h ▸ hshort ('\x22', '\x22') (by decide)
  split
  · next h => exact h ▸ hshort ('\\', '\\') (by decide)
  split
  · next h => exact h ▸ hshort ('b', '\x08') (by decide)
  split
  · next h => exact h ▸ hshort ('f', '\x0c') (by decide)
  split
  · next h => exact h ▸ hshort ('n', '\n') (by decide)
  split
  · next h => exact h ▸ hshort ('r', '\r') (by decide)
  split
  · next h => exact h ▸ hshort ('t', '\t') (by decide)
  split
  · next h =>
    obtain ⟨hn, hd⟩ := hdigits c.toNat h
    exact .number rfl (List.all_eq_true.1 hd) hn
  · next hq hb _ _ _ _ _ h => exact .plain hq hb (Nat.not_lt.1 h)

theorem escaped_ne_nil (c : Char) : escaped c ≠ [] := by
  have h := spells_escaped c
  cases hs : escaped c with
  | nil =>
    rw [hs] at h
    cases h
  | cons => exact List.cons_ne_nil _ _

namespace Reader

theorem loop_stringTurn (cs sofar rest : List Char) :
    loop stringTurn sofar (cs.flatMap escaped ++ '\x22' :: rest) =
      some (String.ofList (sofar.reverse ++ cs), rest) := by
  induction cs generalizing sofar with
  | nil =>
    have hdone : stringTurn sofar ('\x22' :: rest) =
        some (.done (String.ofList sofar.reverse), rest) := rfl
    rw [List.flatMap_nil, List.nil_append, loop_done hdone, List.append_nil]
  | cons c cs ih =>
    have hpos := List.length_pos_iff.2 (escaped_ne_nil c)
    have hturn := stringTurn_spells (spells_escaped c) sofar
    rw [List.flatMap_cons, List.append_assoc,
      loop_again (hturn _) (by simp only [List.length_append]; omega), ih, List.reverse_cons,
      List.append_assoc, List.singleton_append]

/-- **A written text reads as itself**, whatever characters it has. -/
theorem string_written (s : String) (rest : List Char) :
    string (Json.string s ++ rest) = some (s, rest) := by
  have hloop := loop_stringTurn s.toList [] rest
  rw [List.reverse_nil, List.nil_append, String.ofList_toList] at hloop
  rw [Json.string, List.append_assoc, List.append_assoc, List.singleton_append,
    List.singleton_append]
  exact (bind_of_eq_some (char_cons_self _ _) _).trans hloop

end Reader

/-! ## Objects, written and read -/

/-- The value that is read for a plain value. -/
def Scalar.value : Scalar → Value
  | null => .null
  | boolean b => .boolean b
  | text s => .text s

theorem Scalar.value_ofText? (o : Option String) :
    (Scalar.ofText? o).value = o.elim .null .text := by
  cases o <;> rfl

/-- The member that is read for a field. -/
def member (field : String × Scalar) : String × Value :=
  (field.1, field.2.value)

/-- A field without the blanks in front of it. -/
def fieldText (field : String × Scalar) : List Char :=
  string field.1 ++ ([':', ' '] ++ field.2.render)

/-- What stands between a field and the brace at the end. -/
def behindField : List (String × Scalar) → List Char
  | [] => ['\n']
  | field :: rest => [',', '\n'] ++ fieldLines (field :: rest)

theorem fieldLines_cons (field : String × Scalar) (rest : List (String × Scalar)) :
    fieldLines (field :: rest) = [' ', ' '] ++ (fieldText field ++ behindField rest) := by
  cases rest <;> simp [fieldLines, fieldLine, fieldText, behindField]

namespace Reader

variable {field : String × Scalar} {fields : List (String × Scalar)}

/-- Blanks end at the first character that is none. -/
theorem blanks_append {run : List Char} (hrun : run.all isBlank = true) {c : Char}
    (hc : isBlank c = false) (rest : List Char) :
    blanks (run ++ c :: rest) = some ((), c :: rest) := by
  have htake : takeWhile isBlank (run ++ c :: rest) = some (run, c :: rest) :=
    takeWhile_append (List.all_eq_true.1 hrun) (by simp [hc])
  rw [blanks, bind_of_eq_some htake]
  rfl

theorem blanks_of_not_blank {c : Char} (h : isBlank c = false) (rest : List Char) :
    blanks (c :: rest) = some ((), c :: rest) :=
  blanks_append List.all_nil h rest

theorem blanks_fieldText {run : List Char} (hrun : run.all isBlank = true)
    (field : String × Scalar) (rest : List Char) :
    blanks (run ++ (fieldText field ++ rest)) = some ((), fieldText field ++ rest) :=
  blanks_append hrun (by decide) _

theorem scalar_render (v : Scalar) (rest : List Char) :
    scalar (v.render ++ rest) = some (v.value, rest) := by
  cases v with
  | null => rfl
  | boolean b => cases b <;> rfl
  | text s =>
    have hpeek : peek (Json.string s ++ rest) = some (some '\x22', Json.string s ++ rest) := rfl
    rw [Scalar.render, scalar, bind_of_eq_some hpeek]
    exact bind_of_eq_some (string_written s rest) _

/-- The first character of a plain value. -/
theorem exists_render_eq (v : Scalar) :
    ∃ c cs, v.render = c :: cs ∧ c ∈ ['n', 't', 'f', '\x22'] := by
  cases v with
  | null => exact ⟨_, _, rfl, by decide⟩
  | boolean b => cases b <;> exact ⟨_, _, rfl, by decide⟩
  | text s => exact ⟨_, _, rfl, by decide⟩

theorem blanks_render {run : List Char} (hrun : run.all isBlank = true) (v : Scalar)
    (rest : List Char) : blanks (run ++ (v.render ++ rest)) = some ((), v.render ++ rest) := by
  have hfirst : ∀ c ∈ ['n', 't', 'f', '\x22'], isBlank c = false := by simp [isBlank]
  obtain ⟨c, cs, hv, hc⟩ := exists_render_eq v
  rw [hv]
  exact blanks_append hrun (hfirst c hc) _

theorem value_render (nesting : Nat) (v : Scalar) (rest : List Char) :
    value nesting (v.render ++ rest) = some (v.value, rest) := by
  cases nesting with
  | zero => exact scalar_render v rest
  | succ nesting =>
    obtain ⟨c, cs, hv, hc⟩ := exists_render_eq v
    have hpeek : peek (v.render ++ rest) = some (some c, v.render ++ rest) := by
      rw [hv]
      rfl
    rw [value, bind_of_eq_some hpeek]
    simp only [List.mem_cons, List.not_mem_nil, or_false] at hc
    rcases hc with rfl | rfl | rfl | rfl <;> exact scalar_render v rest

theorem oneOf_mem {mark : Char} {marks : List Char} (h : mark ∈ marks) (rest : List Char) :
    oneOf marks (mark :: rest) = some (mark, rest) := by
  have hn : next (mark :: rest) = some (mark, rest) := rfl
  rw [oneOf, bind_of_eq_some hn, if_pos h]
  rfl

/-- **A turn through an object takes a field**, with the blanks around it and the mark behind. -/
theorem memberTurn_written (nesting : Nat) (field : String × Scalar)
    (sofar : List (String × Value)) {lead trail : List Char}
    (hlead : lead.all isBlank = true) (htrail : trail.all isBlank = true) {mark : Char}
    (hmark : mark ∈ [',', '\x7d']) (rest : List Char) :
    memberTurn (value nesting) sofar (lead ++ (fieldText field ++ (trail ++ mark :: rest))) =
      some (if mark = ',' then .again (member field :: sofar)
        else .done (.object (member field :: sofar).reverse), rest) := by
  have htext : fieldText field ++ (trail ++ mark :: rest) =
      Json.string field.1 ++ ':' :: ([' '] ++ (field.2.render ++ (trail ++ mark :: rest))) := by
    simp [fieldText]
  have hname := blanks_fieldText hlead field (trail ++ mark :: rest)
  have hspace : [' '].all isBlank = true := rfl
  have hvalue := blanks_render hspace field.2 (trail ++ mark :: rest)
  have hmarks : ∀ d ∈ [',', '\x7d'], isBlank d = false := by simp [isBlank]
  have hbehind := blanks_append htrail (hmarks mark hmark) rest
  rw [memberTurn, bind_of_eq_some hname, htext, bind_of_eq_some (string_written _ _),
    bind_of_eq_some (blanks_of_not_blank (by decide) _), bind_of_eq_some (char_cons_self _ _),
    bind_of_eq_some hvalue, bind_of_eq_some (value_render nesting field.2 _),
    bind_of_eq_some hbehind, bind_of_eq_some (oneOf_mem hmark rest)]
  split <;> rfl

/-- The blanks between the line before a field and the field. -/
theorem all_isBlank_indent : ['\n', ' ', ' '].all isBlank = true := rfl

/-- **Turns through the fields of an object** take them all, in order. -/
theorem loop_memberTurn (nesting : Nat) (field : String × Scalar)
    (fields : List (String × Scalar)) (sofar : List (String × Value)) {lead : List Char}
    (hlead : lead.all isBlank = true) (rest : List Char) :
    loop (memberTurn (value nesting)) sofar
        (lead ++ (fieldText field ++ (behindField fields ++ '\x7d' :: rest))) =
      some (.object (sofar.reverse ++ (field :: fields).map member), rest) := by
  induction fields generalizing field sofar lead with
  | nil =>
    have hend : ['\n'].all isBlank = true := rfl
    have hbrace : '\x7d' ∈ [',', '\x7d'] := by decide
    have hturn := memberTurn_written nesting field sofar hlead hend hbrace rest
    rw [if_neg (by decide)] at hturn
    rw [behindField, loop_done hturn]
    simp
  | cons next fields ih =>
    have hcomma : ',' ∈ [',', '\x7d'] := by decide
    have hturn := memberTurn_written nesting field sofar hlead List.all_nil hcomma
      (['\n', ' ', ' '] ++ (fieldText next ++ (behindField fields ++ '\x7d' :: rest)))
    rw [if_pos rfl, List.nil_append] at hturn
    have htext : behindField (next :: fields) ++ '\x7d' :: rest = ',' ::
        (['\n', ' ', ' '] ++ (fieldText next ++ (behindField fields ++ '\x7d' :: rest))) := by
      rw [behindField, fieldLines_cons]
      simp
    rw [htext, loop_again hturn (by simp only [List.length_append, List.length_cons]; omega),
      ih next _ all_isBlank_indent]
    simp

theorem closedOr_of_open {close : Char} {empty : Value} {turns : Reader Value}
    {s rest : List Char} (hb : blanks s = some ((), rest))
    (ho : optional (char close) rest = some (none, rest)) :
    closedOr close empty turns s = turns rest := by
  rw [closedOr, bind_of_eq_some hb, bind_of_eq_some ho]

theorem value_brace (nesting : Nat) (rest : List Char) :
    value (nesting + 1) ('\x7b' :: rest) =
      closedOr '\x7d' (.object []) (loop (memberTurn (value nesting)) []) rest := rfl

theorem value_object (nesting : Nat) (fields : List (String × Scalar)) (rest : List Char) :
    value (nesting + 1) (Json.object fields ++ rest) =
      some (.object (fields.map member), rest) := by
  cases fields with
  | nil => rfl
  | cons field fields =>
    have htext : Json.object (field :: fields) ++ rest = '\x7b' ::
        (['\n', ' ', ' '] ++ (fieldText field ++ (behindField fields ++ '\x7d' :: rest))) := by
      rw [Json.object, fieldLines_cons]
      simp
    have hblanks := blanks_fieldText all_isBlank_indent field (behindField fields ++ '\x7d' :: rest)
    have hopen : optional (char '\x7d')
          (fieldText field ++ (behindField fields ++ '\x7d' :: rest)) =
        some (none, fieldText field ++ (behindField fields ++ '\x7d' :: rest)) := rfl
    rw [htext, value_brace]
    exact (closedOr_of_open hblanks hopen).trans
      (loop_memberTurn nesting field fields [] List.all_nil rest)

end Reader

/-- **A written object reads as its fields**, in order and with the same texts. -/
theorem parse?_object (fields : List (String × Scalar)) :
    parse? (String.ofList (object fields)) = some (.object (fields.map member)) := by
  obtain ⟨cs, hcs⟩ : ∃ cs, object fields = '\x7b' :: cs := ⟨_, rfl⟩
  have hvalue := Reader.value_object cs.length fields []
  have hbrace : Reader.isBlank '\x7b' = false := by decide
  have hblanks := Reader.blanks_of_not_blank hbrace cs
  rw [List.append_nil, hcs] at hvalue
  have hread : Reader.document (cs.length + 1) ('\x7b' :: cs) =
      some (.object (fields.map member), []) := by
    rw [Reader.document, bind_of_eq_some hblanks, bind_of_eq_some hvalue]
    rfl
  rw [parse?, String.length_ofList, String.toList_ofList, hcs, List.length_cons, hread]

/-- Other texts are read as well. -/
example : parse? "[1, -2e5, \x7b\x22\\u00e9\x22 : \x7b\x7d\x7d]" =
    some (.array [.number "1", .number "-2e5", .object [("é", .object [])]]) := by cbv

/-- What is no JSON text is refused. -/
example : parse? "[01]" = none ∧ parse? "[1,]" = none ∧ parse? "\x22\\ud83d\x22" = none := by cbv

end Json

end CmakeDriver
