import CmakeDriver.Text.Cut

/-!
# Command line tokens

An argument is a lone `--`, a long option with or without a value attached by an equals sign, a
short option, or a word. A lone `-` is a word, and so is the empty argument.

Results:
* `ofString_long`: an attached value is all that follows the first equals sign.
* `ofString_word`: what does not begin with a dash is a word.
-/

namespace CmakeDriver

namespace CommandLine

/-- An argument, by its form. -/
inductive Token where
  /-- The argument behind which all arguments are words. -/
  | escape
  | long (name : String) (value : Option String)
  /-- One or more short options behind one dash; the first of them decides. -/
  | short (letter : Char)
  | word (text : String)
  deriving DecidableEq, Repr

namespace Token

/-- The name and the attached value of a long option. -/
def nameAndValue (text : List Char) : String × Option String :=
  match cutAt '=' text with
  | none => (String.ofList text, none)
  | some (name, value) => (String.ofList name, some (String.ofList value))

/-- The form of an argument, by its first two characters. -/
def ofChars : List Char → Token
  | [] => word ""
  | first :: rest =>
    if first ≠ '-' then word (String.ofList (first :: rest))
    else
      match rest with
      | [] => word "-"
      | second :: text =>
        if second ≠ '-' then short second
        else if text = [] then escape
        else long (nameAndValue text).1 (nameAndValue text).2

/-- The form of an argument. -/
def ofString (s : String) : Token :=
  ofChars s.toList

theorem ofString_long {name value : String} (h : '=' ∉ name.toList) :
    ofString ("--" ++ name ++ "=" ++ value) = long name (some value) := by
  have hc : cutAt '=' (name.toList ++ '=' :: value.toList) = some (name.toList, value.toList) :=
    cutAt_eq_some_iff.2 ⟨rfl, h⟩
  have ht : ("--" ++ name ++ "=" ++ value).toList
      = '-' :: '-' :: (name.toList ++ '=' :: value.toList) := by simp
  rw [ofString, ht]
  simp [ofChars, nameAndValue, hc]

theorem ofString_word {s : String} (h : s.toList.head? ≠ some '-') : ofString s = word s := by
  unfold ofString
  cases hs : s.toList with
  | nil => rw [show s = "" from String.toList_inj.1 (by simp [hs])]; rfl
  | cons c rest =>
    have hc : c ≠ '-' := by simpa [hs] using h
    simp only [ofChars, ne_eq, hc, not_false_eq_true, if_true]
    rw [← hs, String.ofList_toList]

end Token

end CommandLine

end CmakeDriver
