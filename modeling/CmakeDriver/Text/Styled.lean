import CmakeDriver.Text.Terminal

/-!
# Styled text

A text for people is a list of spans, each in a style. It is read as the texts of its spans, and
shown on a terminal with the attributes of their styles switched on before and off behind them.

Results:
* `text_append`, `coloured_append`: both forms of a text are read off its parts.
* `withoutColours_coloured`: on a terminal nothing but colours comes to a text.
-/

namespace CmakeDriver

/-- What a span stands for. -/
inductive Style where
  | plain
  /-- The heading of a part of a text. -/
  | heading
  /-- A word to be typed as it is. -/
  | literal
  /-- The word that announces an error. -/
  | alarm
  /-- What was wrong. -/
  | invalid
  deriving DecidableEq, Repr, Inhabited

namespace Style

/-- The attributes of a style: 1 is bold, 4 underlined, 31 red and 33 yellow. -/
def attributes : Style → List Nat
  | plain => []
  | heading => [1, 4]
  | literal => [1]
  | alarm => [1, 31]
  | invalid => [33]

/-- What switches a style on. -/
def on (s : Style) : String :=
  String.join (s.attributes.map Terminal.setAttribute)

/-- What switches a style off. -/
def off (s : Style) : String :=
  if s = plain then "" else Terminal.setAttribute 0

end Style

/-- A piece of text in one style. -/
structure Span where
  text : String
  style : Style := .plain
  deriving DecidableEq, Repr, Inhabited

namespace Span

/-- A span without a style. -/
def plain (text : String) : Span := { text }

/-- A heading. -/
def heading (text : String) : Span := { text, style := .heading }

/-- A word to be typed. -/
def literal (text : String) : Span := { text, style := .literal }

/-- A word that announces an error. -/
def alarm (text : String) : Span := { text, style := .alarm }

/-- Something that was wrong. -/
def invalid (text : String) : Span := { text, style := .invalid }

/-- A span as a terminal gets it. -/
def coloured (s : Span) : String :=
  s.style.on ++ s.text ++ s.style.off

end Span

/-- A text in spans. -/
abbrev StyledText := List Span

namespace StyledText

/-- The text of all spans. -/
def text (t : StyledText) : String :=
  String.join (t.map Span.text)

/-- The text as a terminal gets it. -/
def coloured (t : StyledText) : String :=
  String.join (t.map Span.coloured)

theorem text_append (t u : StyledText) : text (t ++ u) = text t ++ text u := by
  simp [text]

theorem coloured_append (t u : StyledText) : coloured (t ++ u) = coloured t ++ coloured u := by
  simp [coloured]

private theorem withoutColoursIn_on (s : Style) (rest : List Char) :
    Terminal.withoutColoursIn (s.on.toList ++ rest) = Terminal.withoutColoursIn rest := by
  cases s <;>
    simp [Style.on, Style.attributes, Terminal.withoutColoursIn_setAttribute, List.append_assoc]

private theorem withoutColoursIn_off (s : Style) (rest : List Char) :
    Terminal.withoutColoursIn (s.off.toList ++ rest) = Terminal.withoutColoursIn rest := by
  cases s <;> simp [Style.off, Terminal.withoutColoursIn_setAttribute]

/-- On a terminal nothing but colours comes to a text, provided that it holds none of its own. -/
theorem withoutColours_coloured {t : StyledText}
    (h : ∀ s ∈ t, Terminal.escapeChar ∉ s.text.toList) :
    Terminal.withoutColours (coloured t) = text t := by
  have key : Terminal.withoutColoursIn (coloured t).toList = (text t).toList := by
    induction t with
    | nil => rw [coloured, text]; simp [Terminal.withoutColoursIn]
    | cons s t ih =>
      have hs := h s List.mem_cons_self
      have ht := ih fun u hu => h u (List.mem_cons_of_mem _ hu)
      rw [← List.singleton_append, coloured_append, text_append]
      simp only [String.toList_append, ← ht]
      simp [coloured, text, Span.coloured, withoutColoursIn_on, withoutColoursIn_off,
        Terminal.withoutColoursIn_append hs]
  rw [Terminal.withoutColours, key, String.ofList_toList]

end StyledText

end CmakeDriver
