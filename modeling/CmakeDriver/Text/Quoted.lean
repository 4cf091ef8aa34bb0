import CmakeDriver.Text.Printable

/-!
# Quoted text

Messages show a text between double quotes, such that each text has one written form: a quote and
a backslash stand behind a backslash, NUL, tab, line feed and carriage return have letters, any
other character that does not show by itself is written by its code point, `\u{1}`.

Results:
* `escaped_of_isPrintable`: a printable character but quote and backslash stands for itself.
-/

namespace CmakeDriver

namespace Quoted

/-- The hexadecimal digits of a number, lower case, without leading zeros. -/
def hex (n : Nat) : List Char :=
  Nat.toDigits 16 n

/-- The written form of one character. -/
def escaped (c : Char) : List Char :=
  if c = '\x22' then ['\\', '\x22']
  else if c = '\\' then ['\\', '\\']
  else if c = '\x00' then ['\\', '0']
  else if c = '\t' then ['\\', 't']
  else if c = '\n' then ['\\', 'n']
  else if c = '\r' then ['\\', 'r']
  else if isPrintable c then [c]
  else ['\\', 'u', '\x7b'] ++ hex c.toNat ++ ['\x7d']

theorem escaped_of_isPrintable {c : Char} (h : isPrintable c = true) (hq : c ≠ '\x22')
    (hb : c ≠ '\\') : escaped c = [c] := by
  have h0 : c ≠ '\x00' := by rintro rfl; exact absurd h (by decide)
  have ht : c ≠ '\t' := by rintro rfl; exact absurd h (by decide)
  have hn : c ≠ '\n' := by rintro rfl; exact absurd h (by decide)
  have hr : c ≠ '\r' := by rintro rfl; exact absurd h (by decide)
  simp [escaped, h, hq, hb, h0, ht, hn, hr]

end Quoted

/-- A text between double quotes, its characters in their written forms. -/
def quoted (s : String) : String :=
  String.ofList (['\x22'] ++ s.toList.flatMap Quoted.escaped ++ ['\x22'])

/-- A list of texts, each quoted, between brackets. -/
def quotedList (texts : List String) : String :=
  "[" ++ ", ".intercalate (texts.map quoted) ++ "]"

end CmakeDriver
