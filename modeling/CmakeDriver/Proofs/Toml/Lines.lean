import CmakeDriver.Proofs.Toml.Moves
import CmakeDriver.Proofs.Toml.Spelling

/-!
# Documents of plain lines

The lines of a plain document are headers of one key and keys with a basic string, and empty lines
may stand between them. Reading such a document takes line after line, so it comes to what the
lines do to the draft one after the other, whatever the blanks and line ends are.

Results:
* `documentTurn_header`, `documentTurn_binding`, `documentTurn_endsLine`: what one line does.
* `Written.reads`: the document reads as what the lines say.
* `written_chars`: all lines can be written.
-/

namespace CmakeDriver

namespace Toml

/-- What a line of a plain document says. -/
inductive Line where
  | header (name : String)
  | binding (key value : String)

/-- What a line does to a draft. -/
def Line.move : Line → Move
  | .header name => .openTable ([], name)
  | .binding key value => .bind ([], key) (.text value)

/-- The end of a line and the text behind it. The last line may end with the text. -/
inductive EndsLine : List Char → List Char → Prop
  | feed (t : List Char) : EndsLine ('\n' :: t) t
  | returnFeed (t : List Char) : EndsLine ('\r' :: '\n' :: t) t
  | text : EndsLine [] []

/-- The ways to write lines. -/
inductive Written : List Line → List Char → Prop
  | nil : Written [] []
  | empty {ls : List Line} {e t : List Char} (he : EndsLine e t) (h : Written ls t) : Written ls e
  | header {name : String} {ls : List Line} {k e t : List Char} (hk : KeyWritten name k)
      (he : EndsLine e t) (h : Written ls t) : Written (.header name :: ls) ('[' :: (k ++ ']' :: e))
  | binding {key value : String} {ls : List Line} {k a b q e t : List Char}
      (hk : KeyWritten key k) (ha : ∀ c ∈ a, isBlank c = true) (hb : ∀ c ∈ b, isBlank c = true)
      (hq : Quoted value q) (he : EndsLine e t) (h : Written ls t) :
      Written (.binding key value :: ls) (k ++ (a ++ '=' :: (b ++ (q ++ e))))

/-! ## The beginnings of what is written -/

theorem KeyWritten.exists_cons {name : String} {k : List Char} (h : KeyWritten name k) :
    ∃ c cs, k = c :: cs ∧ (isBareChar c = true ∨ c = doubleQuote) := by
  cases h with
  | bare hne h =>
    obtain ⟨c, cs, hk⟩ := List.exists_cons_of_ne_nil hne
    exact ⟨c, cs, hk, .inl (h c (hk ▸ List.mem_cons_self))⟩
  | quoted h =>
    cases h
    exact ⟨_, _, rfl, .inr rfl⟩

theorem EndsLine.head? {e t : List Char} (h : EndsLine e t) {c : Char} (hc : e.head? = some c) :
    c = '\n' ∨ c = '\r' := by
  cases h with
  | feed => exact .inl (Option.some.inj hc).symm
  | returnFeed => exact .inr (Option.some.inj hc).symm
  | text => exact absurd hc (by simp)

/-- No byte order mark stands in front of lines. -/
theorem Written.head?_ne {ls : List Line} {t : List Char} (h : Written ls t) :
    t.head? ≠ some byteOrderMark := by
  intro hc
  induction h with
  | nil => exact absurd hc (by simp)
  | empty he h ih => rcases he.head? hc with h | h <;> exact absurd h (by decide)
  | header hk he h ih => exact absurd (Option.some.inj hc) (by decide)
  | binding hk ha hb hq he h ih =>
    obtain ⟨f, fs, rfl, hf⟩ := hk.exists_cons
    obtain rfl : f = byteOrderMark := Option.some.inj hc
    exact absurd hf (by decide)

theorem EndsLine.length_lt {e t : List Char} (h : EndsLine e t) (hne : e ≠ []) :
    t.length < e.length := by
  cases h with
  | feed => exact Nat.lt_succ_self _
  | returnFeed => exact Nat.lt_add_of_pos_right (by decide : 0 < 2)
  | text => exact absurd rfl hne

theorem EndsLine.length_le {e t : List Char} (h : EndsLine e t) : t.length ≤ e.length := by
  by_cases hne : e = []
  · subst hne
    cases h
    exact Nat.le_refl _
  · exact Nat.le_of_lt (h.length_lt hne)

namespace Reader

variable {name key value : String} {k a b q e t : List Char}

/-! ## Parts of a line -/

theorem blanks_append (ha : ∀ c ∈ a, isBlank c = true)
    (ht : ∀ c, t.head? = some c → isBlank c = false) : blanks (a ++ t) = some ((), t) := by
  have h := takeWhile_append ha ht
  simp only [takeWhile, Option.some.injEq, Prod.mk.injEq] at h
  rw [blanks, h.2]

theorem lineRest_endsLine (h : EndsLine e t) : lineRest e = some ((), t) := by
  cases h with
  | feed => exact lineRest_lineFeed t
  | returnFeed =>
    have hc : comment ('\r' :: '\n' :: t) = none := bind_of_eq_none (by simp [char]) _
    have ho : optional comment ('\r' :: '\n' :: t) = some (none, '\r' :: '\n' :: t) := by
      simp [optional, hc]
    rw [lineRest, bind_of_eq_some (blanks_cons (by decide) _), bind_of_eq_some ho]
    rfl
  | text => rfl

theorem optional_char_of_ne {c : Char} (h : t.head? ≠ some c) :
    optional (char c) t = some (none, t) := by
  cases t with
  | nil => rfl
  | cons d t =>
    have hd : d ≠ c := fun hd => h (congrArg some hd)
    simp [optional, char, hd]

/-- A path of one key, with blanks behind it. -/
theorem path_of_written (hk : KeyWritten name k) (ha : ∀ c ∈ a, isBlank c = true)
    {c : Char} (hc : isBareChar c = false) (hb : isBlank c = false) (hdot : c ≠ '.') :
    path (k ++ (a ++ c :: t)) = some (([], name), c :: t) := by
  have hfirst : blanks (k ++ (a ++ c :: t)) = some ((), k ++ (a ++ c :: t)) := by
    refine blanks_of_not_blank fun d hd => ?_
    obtain ⟨f, fs, rfl, hf⟩ := hk.exists_cons
    obtain rfl : f = d := Option.some.inj hd
    rcases hf with hf | rfl
    · refine Bool.eq_false_iff.2 fun h => ?_
      rw [isBareChar_not_blank h] at hf
      exact absurd hf (by simp)
    · decide
  have hkey : Reader.key (k ++ (a ++ c :: t)) = some (name, a ++ c :: t) := by
    refine key_of_written hk fun d hd => ?_
    cases a with
    | nil =>
      obtain rfl : c = d := Option.some.inj hd
      exact hc
    | cons f a =>
      obtain rfl : f = d := Option.some.inj hd
      exact isBareChar_not_blank (ha f List.mem_cons_self)
  have hblanks : blanks (a ++ c :: t) = some ((), c :: t) := by
    refine blanks_append ha fun d hd => ?_
    rwa [← Option.some.inj hd]
  have hturn : pathTurn [] (k ++ (a ++ c :: t)) = some (.done [name], c :: t) := by
    rw [pathTurn, bind_of_eq_some hfirst, bind_of_eq_some hkey, bind_of_eq_some hblanks,
      bind_of_eq_some (optional_char_of_ne (by simpa using hdot))]
    rfl
  exact (bind_of_eq_some (loop_done hturn) _).trans (by simp [pathLimit])

theorem value_quoted (h : Quoted value q) (ht : t.head? ≠ some doubleQuote) (nesting : Nat) :
    Reader.value nesting (q ++ t) = some (.text value, t) := by
  have hread := basicString_quoted h ht
  have hpeek : peek (q ++ t) = some (some doubleQuote, q ++ t) := by
    cases h
    rfl
  have hscalar : scalar (q ++ t) = some (.text value, t) := by
    rw [scalar, bind_of_eq_some hpeek]
    simp only [if_true]
    rw [bind_of_eq_some hread]
    rfl
  cases nesting with
  | zero => exact hscalar
  | succ nesting =>
    rw [Reader.value, bind_of_eq_some hpeek, if_neg (by decide), if_neg (by decide)]
    exact hscalar

/-- A key with a basic string behind it. -/
theorem pair_written (hk : KeyWritten key k) (ha : ∀ c ∈ a, isBlank c = true)
    (hb : ∀ c ∈ b, isBlank c = true) (hq : Quoted value q) (he : EndsLine e t) :
    pair (Reader.value maxNesting) (k ++ (a ++ '=' :: (b ++ (q ++ e)))) =
      some ((([], key), .text value), e) := by
  have hpath := path_of_written (t := b ++ (q ++ e)) hk ha (show isBareChar '=' = false by decide)
    (by decide) (by decide)
  have hblanks : blanks (b ++ (q ++ e)) = some ((), q ++ e) := by
    refine blanks_append hb fun c hc => ?_
    cases hq
    rw [← Option.some.inj hc]
    decide
  have hvalue : Reader.value maxNesting (q ++ e) = some (.text value, e) := by
    refine value_quoted hq (fun hc => ?_) maxNesting
    rcases he.head? hc with h | h <;> exact absurd h (by decide)
  rw [pair, bind_of_eq_some hpath, bind_of_eq_some (char_cons_self _ _), bind_of_eq_some hblanks,
    bind_of_eq_some hvalue]
  rfl

/-! ## One line -/

variable (d : Draft)

theorem documentTurn_endsLine (h : EndsLine e t) (hne : e ≠ []) :
    documentTurn d e = some (.again d, t) := by
  cases h with
  | text => exact absurd rfl hne
  | feed => rfl
  | returnFeed => rfl

theorem documentTurn_header (hk : KeyWritten name k) (he : EndsLine e t) :
    documentTurn d ('[' :: (k ++ ']' :: e)) =
      (d.make (.openTable ([], name))).map fun d => (.again d, t) := by
  have hpath : path (k ++ ']' :: e) = some (([], name), ']' :: e) :=
    path_of_written (a := []) hk (by simp) (by decide) (by decide) (by decide)
  refine documentTurn_of_path rfl (fun hc => ?_) hpath (lineRest_endsLine he) d
  obtain ⟨f, fs, rfl, hf⟩ := hk.exists_cons
  obtain rfl : f = '[' := Option.some.inj hc
  exact absurd hf (by decide)

theorem documentTurn_binding (hk : KeyWritten key k) (ha : ∀ c ∈ a, isBlank c = true)
    (hb : ∀ c ∈ b, isBlank c = true) (hq : Quoted value q) (he : EndsLine e t) :
    documentTurn d (k ++ (a ++ '=' :: (b ++ (q ++ e)))) =
      (d.make (.bind ([], key) (.text value))).map fun d => (.again d, t) := by
  have hpair := pair_written hk ha hb hq he
  obtain ⟨f, fs, rfl, hf⟩ := hk.exists_cons
  have hother : f ∉ ['#', '\n', '\r', '['] := by
    rintro hm
    simp only [List.mem_cons, List.not_mem_nil, or_false] at hm
    rcases hm with rfl | rfl | rfl | rfl <;> exact absurd hf (by decide)
  have hblank : isBlank f = false := by
    refine Bool.eq_false_iff.2 fun h => ?_
    rcases hf with hf | rfl
    · rw [isBareChar_not_blank h] at hf
      exact absurd hf (by decide)
    · exact absurd h (by decide)
  exact documentTurn_of_pair rfl hblank hother hpair (lineRest_endsLine he) d

end Reader

/-! ## All lines -/

/-- **A document of plain lines reads as what the lines say.** -/
theorem Written.reads {ls : List Line} {t : List Char} (h : Written ls t) :
    Reader.Reads t (ls.map Line.move) := by
  induction h with
  | nil => exact .ends fun _ => rfl
  | @empty ls e t he h ih =>
    by_cases hne : e = []
    · subst hne
      cases he
      exact ih
    · exact .passes (fun d => Reader.documentTurn_endsLine d he hne) (he.length_lt hne) ih
  | @header name ls k e t hk he h ih =>
    refine .makes (fun d => Reader.documentTurn_header d hk he) ?_ ih
    have hle := he.length_le
    simp only [List.length_cons, List.length_append]
    omega
  | @binding key value ls k a b q e t hk ha hb hq he h ih =>
    refine .makes (fun d => Reader.documentTurn_binding d hk ha hb hq he) ?_ ih
    have hle := he.length_le
    simp only [List.length_cons, List.length_append]
    omega

theorem withoutMark_written {ls : List Line} {t : List Char} (h : Written ls t) :
    withoutMark t = t := by
  cases t with
  | nil => rfl
  | cons c t =>
    have hc : c ≠ byteOrderMark := fun hc => h.head?_ne (congrArg some hc)
    simp [withoutMark, hc]

/-! ## A way to write all lines -/

/-- A line with its keys and values as basic strings. -/
def Line.chars : Line → List Char
  | .header name => '[' :: (quotedText name ++ [']', '\n'])
  | .binding key value => quotedText key ++ ' ' :: '=' :: ' ' :: (quotedText value ++ ['\n'])

theorem written_chars (ls : List Line) : Written ls (ls.flatMap Line.chars) := by
  induction ls with
  | nil => exact .nil
  | cons line ls ih =>
    have hkey := fun s => KeyWritten.quoted (quoted_quotedText s)
    rw [List.flatMap_cons]
    cases line with
    | header name =>
      have h := Written.header (hkey name) (.feed _) ih
      simpa [Line.chars] using h
    | binding key value =>
      have hblank : ∀ c ∈ [' '], isBlank c = true := List.all_eq_true.1 rfl
      have h := Written.binding (hkey key) hblank hblank (quoted_quotedText value) (.feed _) ih
      simpa [Line.chars] using h

end Toml

end CmakeDriver
