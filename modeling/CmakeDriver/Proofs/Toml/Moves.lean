import CmakeDriver.Toml.Document

/-!
# What the lines of a document do

A line of a document makes one move: it opens a table, adds an element to an array of tables, or
binds a key; or it makes none. Which move that is the line says by itself. The draft only decides
whether the move is allowed. So a text has moves before there is any draft, and reading it is making
them one after the other.

Results:
* `documentTurn_cases`: what a turn through a document does to all drafts.
* `documentTurn_of_path`, `documentTurn_of_pair`: which move a header and a key with a value make.
* `parse?_of_reads`: a text that reads as moves is the document that they make.
* `parse?_eq_some_iff`: every document is read so.
-/

namespace CmakeDriver

namespace Toml

/-- What a line does to a draft. -/
inductive Move where
  | openTable (p : List String × String)
  | openElement (p : List String × String)
  | bind (p : List String × String) (value : Value)

/-- A draft after a move, if the move is allowed. -/
def Draft.make (d : Draft) : Move → Option Draft
  | .openTable p => d.openTable p
  | .openElement p => d.openElement p
  | .bind p value => d.bind p value

namespace Reader

variable {s rest : List Char}

/-! ## One line -/

/-- A line makes one move in every draft, or it is none, whatever the draft. -/
def Makes (line : Draft → Reader Draft) : Prop :=
  ∀ s, (∀ d, line d s = none) ∨ ∃ m rest, ∀ d, line d s = (d.make m).map fun d => (d, rest)

theorem ofOption_apply (o : Option Draft) (t : List Char) :
    (ofOption o : Reader Draft) t = o.map fun d => (d, t) := by
  cases o <;> rfl

theorem makes_ofOption (m : Move) : Makes fun d => ofOption (d.make m) := by
  exact fun s => Or.inr ⟨m, s, fun d => ofOption_apply (d.make m) s⟩

/-- What stands in front of a line does not depend on the draft. -/
theorem Makes.after {α : Type} {r : Reader α} {line : α → Draft → Reader Draft}
    (h : ∀ a, Makes (line a)) : Makes fun d => r >>= fun a => line a d := by
  intro s
  cases hr : r s with
  | none => exact Or.inl fun d => bind_of_eq_none hr _
  | some p =>
    rcases h p.1 p.2 with hfail | ⟨m, rest, hmake⟩
    · exact Or.inl fun d => (bind_of_eq_some hr _).trans (hfail d)
    · exact Or.inr ⟨m, rest, fun d => (bind_of_eq_some hr _).trans (hmake d)⟩

theorem makes_header : Makes header := by
  refine Makes.after fun twice => ?_
  cases twice with
  | true =>
    exact Makes.after fun _ => Makes.after fun p => Makes.after fun _ => Makes.after fun _ =>
      makes_ofOption (.openElement p)
  | false =>
    exact Makes.after fun _ => Makes.after fun p => Makes.after fun _ => Makes.after fun _ =>
      makes_ofOption (.openTable p)

theorem makes_binding : Makes binding :=
  Makes.after fun p => Makes.after fun _ => makes_ofOption (.bind p.1 p.2)

/-- **What a turn through a document does** to all drafts alike: it fails, ends the document, passes
a line over, or makes a move if that is allowed. -/
inductive TurnDoes (turn : Draft → Reader (Turn Draft Draft)) (s : List Char) : Prop
  | fails (h : ∀ d, turn d s = none) : TurnDoes turn s
  | ends (rest : List Char) (h : ∀ d, turn d s = some (.done d, rest)) : TurnDoes turn s
  | passes (rest : List Char) (h : ∀ d, turn d s = some (.again d, rest)) : TurnDoes turn s
  | makes (m : Move) (rest : List Char)
      (h : ∀ d, turn d s = (d.make m).map fun d => (.again d, rest)) : TurnDoes turn s

theorem TurnDoes.after {α : Type} {r : Reader α} {turn : α → Draft → Reader (Turn Draft Draft)}
    (h : ∀ a s, TurnDoes (turn a) s) (s : List Char) :
    TurnDoes (fun d => r >>= fun a => turn a d) s := by
  cases hr : r s with
  | none => exact .fails fun d => bind_of_eq_none hr _
  | some p =>
    cases h p.1 p.2 with
    | fails h => exact .fails fun d => (bind_of_eq_some hr _).trans (h d)
    | ends rest h => exact .ends rest fun d => (bind_of_eq_some hr _).trans (h d)
    | passes rest h => exact .passes rest fun d => (bind_of_eq_some hr _).trans (h d)
    | makes m rest h => exact .makes m rest fun d => (bind_of_eq_some hr _).trans (h d)

theorem turnDoes_line {line : Draft → Reader Draft} (h : Makes line) (s : List Char) :
    TurnDoes (fun d => line d >>= fun d => pure (.again d)) s := by
  rcases h s with hfail | ⟨m, rest, hmake⟩
  · exact .fails fun d => bind_of_eq_none (hfail d) _
  · refine .makes m rest fun d => ?_
    rw [bind_apply, hmake d]
    cases d.make m <;> rfl

theorem documentTurn_cases (s : List Char) : TurnDoes documentTurn s := by
  refine TurnDoes.after (fun _ => TurnDoes.after fun c s => ?_) s
  cases c with
  | none => exact .ends s fun _ => rfl
  | some c =>
    by_cases hcomment : c = '#'
    · simp only [hcomment, if_true]
      exact TurnDoes.after (fun _ => TurnDoes.after fun _ rest => .passes rest fun _ => rfl) s
    by_cases hempty : c = '\n' ∨ c = '\r'
    · simp only [hcomment, hempty, if_false, if_true]
      exact TurnDoes.after (fun _ rest => .passes rest fun _ => rfl) s
    by_cases hheader : c = '['
    · subst hheader
      exact turnDoes_line makes_header s
    · simp only [hcomment, hempty, hheader, if_false]
      exact turnDoes_line makes_binding s

/-- What a turn through a document comes to if its line makes a move. -/
theorem documentTurn_of_line (d : Draft) {m : Move} {c : Char} {s t : List Char}
    (hb : isBlank c = false) (hc : c ∉ ['#', '\n', '\r'])
    (h : (if c = '[' then header d else binding d) (c :: s) =
      (d.make m).map fun d => (d, t)) :
    documentTurn d (c :: s) = (d.make m).map fun d => (.again d, t) := by
  have hpeek : peek (c :: s) = some (some c, c :: s) := rfl
  simp only [List.mem_cons, List.not_mem_nil, or_false, not_or] at hc
  rw [documentTurn, bind_of_eq_some (blanks_cons hb s), bind_of_eq_some hpeek]
  simp only [hc, or_self, if_false]
  by_cases hl : c = '['
  · simp only [hl, if_true] at h ⊢
    rw [bind_apply, h]
    cases d.make m <;> rfl
  · simp only [hl, if_false] at h ⊢
    rw [bind_apply, h]
    cases d.make m <;> rfl

/-- A header opens the table of its path. -/
theorem documentTurn_of_path {p : List String × String} {s tail rest t : List Char}
    (hs : s = '[' :: tail) (hsingle : tail.head? ≠ some '[')
    (hp : path tail = some (p, ']' :: rest)) (ht : lineRest rest = some ((), t)) (d : Draft) :
    documentTurn d s = (d.make (.openTable p)).map fun d => (.again d, t) := by
  subst hs
  have hsees : sees ['[', '['] ('[' :: tail) = some (false, '[' :: tail) := by
    cases tail with
    | nil => rfl
    | cons c tail =>
      have hne : c ≠ '[' := fun h => hsingle (congrArg some h)
      simp [sees, List.isPrefixOf, Ne.symm hne]
  refine documentTurn_of_line d (by decide) (by decide) ?_
  rw [if_pos rfl, header, bind_of_eq_some hsees, if_neg Bool.false_ne_true,
    bind_of_eq_some (char_cons_self _ _), bind_of_eq_some hp,
    bind_of_eq_some (char_cons_self _ _), bind_of_eq_some ht]
  exact ofOption_apply _ t

/-- A key with a value is bound. -/
theorem documentTurn_of_pair {p : (List String × String) × Value} {c : Char}
    {s tail rest t : List Char} (hs : s = c :: tail) (hb : isBlank c = false)
    (hc : c ∉ ['#', '\n', '\r', '[']) (hp : pair (value maxNesting) s = some (p, rest))
    (ht : lineRest rest = some ((), t)) (d : Draft) :
    documentTurn d s = (d.make (.bind p.1 p.2)).map fun d => (.again d, t) := by
  subst hs
  simp only [List.mem_cons, List.not_mem_nil, or_false, not_or] at hc
  refine documentTurn_of_line d hb (by simp [hc]) ?_
  rw [if_neg hc.2.2.2, binding, bind_of_eq_some hp]
  exact (bind_of_eq_some ht _).trans (ofOption_apply _ t)

/-! ## All lines -/

/-- A text reads as moves, line by line. -/
inductive Reads : List Char → List Move → Prop
  | ends {s rest : List Char} (h : ∀ d, documentTurn d s = some (.done d, rest)) : Reads s []
  | passes {s rest : List Char} {moves : List Move}
      (h : ∀ d, documentTurn d s = some (.again d, rest)) (hlt : rest.length < s.length)
      (hrest : Reads rest moves) : Reads s moves
  | makes {s rest : List Char} {m : Move} {moves : List Move}
      (h : ∀ d, documentTurn d s = (d.make m).map fun d => (.again d, rest))
      (hlt : rest.length < s.length) (hrest : Reads rest moves) : Reads s (m :: moves)

/-- **Reading a text is making its moves**, in any draft. -/
theorem readDocument_of_reads {moves : List Move} (h : Reads s moves) (d : Draft) :
    (readDocument d s).map Prod.fst = moves.foldlM Draft.make d := by
  induction h generalizing d with
  | ends h =>
    rw [Reader.readDocument, loop_done (h d)]
    rfl
  | passes h hlt _ ih =>
    rw [Reader.readDocument, loop_again (h d) hlt]
    exact ih d
  | @makes s rest m moves h hlt _ ih =>
    have hturn := h d
    rw [List.foldlM_cons, Reader.readDocument]
    cases hm : d.make m with
    | none =>
      rw [hm] at hturn
      rw [loop_fail hturn]
      rfl
    | some d' =>
      rw [hm] at hturn
      rw [loop_again hturn hlt]
      exact ih d'

/-- Every text that is read as a document has moves. -/
theorem exists_reads {d : Draft} {p : Draft × List Char} (h : Reader.readDocument d s = some p) :
    ∃ moves, Reads s moves := by
  induction hn : s.length using Nat.strongRecOn generalizing s d with
  | ind n ih =>
    subst hn
    -- A turn that goes on leaves less, or the loop had failed there.
    have hgoes : ∀ {next : Draft} {rest : List Char},
        documentTurn d s = some (.again next, rest) →
          rest.length < s.length ∧ Reader.readDocument next rest = some p := by
      intro next rest hturn
      rw [Reader.readDocument, Reader.loop, hturn] at h
      by_cases hlt : rest.length < s.length
      · simp only [hlt, if_true] at h
        exact ⟨hlt, h⟩
      · simp only [hlt, if_false] at h
        exact absurd h (by simp)
    cases documentTurn_cases s with
    | fails hturn =>
      rw [Reader.readDocument, loop_fail (hturn d)] at h
      exact absurd h (by simp)
    | ends rest hturn => exact ⟨[], .ends hturn⟩
    | passes rest hturn =>
      obtain ⟨hlt, hread⟩ := hgoes (hturn d)
      obtain ⟨moves, hmoves⟩ := ih _ hlt hread rfl
      exact ⟨moves, .passes hturn hlt hmoves⟩
    | makes m rest hturn =>
      cases hm : d.make m with
      | none =>
        have hfail := hturn d
        rw [hm] at hfail
        rw [Reader.readDocument, loop_fail hfail] at h
        exact absurd h (by simp)
      | some next =>
        have hagain := hturn d
        rw [hm] at hagain
        obtain ⟨hlt, hread⟩ := hgoes hagain
        obtain ⟨moves, hmoves⟩ := ih _ hlt hread rfl
        exact ⟨m :: moves, .makes hturn hlt hmoves⟩

end Reader

open Reader (Reads)

variable {text : String} {moves : List Move}

/-- **A text that reads as moves** is the document that they make from nothing. -/
theorem parse?_of_reads (h : Reads (withoutMark text.toList) moves) :
    parse? text = (moves.foldlM Draft.make {}).map fun d => Items.entries d.root := by
  rw [parse?, ← Reader.readDocument_of_reads h, Option.map_map]
  rfl

/-- **Every document is what its lines make**, one after the other. -/
theorem parse?_eq_some_iff {entries : Entries} :
    parse? text = some entries ↔ ∃ moves d, Reads (withoutMark text.toList) moves ∧
      moves.foldlM Draft.make {} = some d ∧ Items.entries d.root = entries := by
  constructor
  · intro h
    obtain ⟨p, hread, -⟩ := Option.map_eq_some_iff.1 h
    obtain ⟨moves, hmoves⟩ := Reader.exists_reads hread
    rw [parse?_of_reads hmoves] at h
    obtain ⟨d, hd, he⟩ := Option.map_eq_some_iff.1 h
    exact ⟨moves, d, hmoves, hd, he⟩
  · rintro ⟨moves, d, hmoves, hd, rfl⟩
    rw [parse?_of_reads hmoves, hd]
    rfl

end Toml

end CmakeDriver
