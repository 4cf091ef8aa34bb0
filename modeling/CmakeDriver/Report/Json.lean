/-!
# JSON objects

A report is written as one JSON object of plain values, a field a line, in the order of its fields.
In a string the quote, the backslash and the control characters are escaped, and nothing else.

Results:
* `escaped_plain`: a character that needs no escape stands for itself.
-/

namespace CmakeDriver

namespace Json

/-- A plain value. -/
inductive Scalar where
  | null
  | boolean (b : Bool)
  | text (s : String)
  deriving DecidableEq, Repr

/-- Text, or null where there is none. -/
def Scalar.ofText? : Option String → Scalar
  | some s => text s
  | none => null

/-- The hexadecimal digits of a number below 256, two of them. -/
def hexPair (n : Nat) : List Char :=
  [Nat.digitChar (n / 16), Nat.digitChar (n % 16)]

/-- Whether a character is escaped in a string. -/
def needsEscape (c : Char) : Bool :=
  c = '\x22' || c = '\\' || c.toNat < 0x20

/-- The written form of a character in a string. -/
def escaped (c : Char) : List Char :=
  if c = '\x22' then ['\\', '\x22']
  else if c = '\\' then ['\\', '\\']
  else if c = '\x08' then ['\\', 'b']
  else if c = '\x0c' then ['\\', 'f']
  else if c = '\n' then ['\\', 'n']
  else if c = '\r' then ['\\', 'r']
  else if c = '\t' then ['\\', 't']
  else if c.toNat < 0x20 then ['\\', 'u', '0', '0'] ++ hexPair c.toNat
  else [c]

theorem escaped_plain {c : Char} (h : needsEscape c = false) : escaped c = [c] := by
  simp only [needsEscape, Bool.or_eq_false_iff, decide_eq_false_iff_not] at h
  obtain ⟨⟨hq, hb⟩, hc⟩ := h
  have ne (d : Char) (hd : d.toNat < 0x20) : c ≠ d := by rintro rfl; exact hc hd
  simp [escaped, hq, hb, hc, ne '\x08' (by decide), ne '\x0c' (by decide), ne '\n' (by decide),
    ne '\r' (by decide), ne '\t' (by decide)]

/-- A text between quotes. -/
def string (s : String) : List Char :=
  ['\x22'] ++ s.toList.flatMap escaped ++ ['\x22']

/-- The written form of a plain value. -/
def Scalar.render : Scalar → List Char
  | null => ['n', 'u', 'l', 'l']
  | boolean true => ['t', 'r', 'u', 'e']
  | boolean false => ['f', 'a', 'l', 's', 'e']
  | text s => string s

/-- The line of a field, without what ends it. -/
def fieldLine (field : String × Scalar) : List Char :=
  [' ', ' '] ++ string field.1 ++ [':', ' '] ++ field.2.render

/-- The lines of fields, with commas between them. -/
def fieldLines : List (String × Scalar) → List Char
  | [] => []
  | [field] => fieldLine field ++ ['\n']
  | field :: rest => fieldLine field ++ [',', '\n'] ++ fieldLines rest

/-- The written form of an object that has a field. -/
def object (fields : List (String × Scalar)) : List Char :=
  ['\x7b', '\n'] ++ fieldLines fields ++ ['\x7d']

end Json

end CmakeDriver
