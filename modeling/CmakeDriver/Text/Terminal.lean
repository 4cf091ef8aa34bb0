import CmakeDriver.Text.Bytes

/-!
# Terminal control sequences

A terminal takes some characters for orders: control characters, and the sequences that an escape
character begins. Text for readers elsewhere leaves them out. `Place` says what a terminal is in
the middle of, `Place.next` how a character moves it on, and `Place.shows` whether the character is
text there.

Orders are left out in two ways. `plain` serves text that is there as a whole: whatever is shown,
and whatever is no ASCII character, ends the sequence before it. `filtered` serves a stream: a blank
inside a sequence is shown, and text behind it too, but the sequence goes on behind the next
control character.

Results:
* `shows_of_mem_plain`, `shows_of_mem_filtered`: what is left is text between sequences.
* `withoutColoursIn_append`, `withoutColoursIn_setAttribute`: leaving the colours out keeps text
  without escape characters and drops whatever sets an attribute.
-/

namespace CmakeDriver

namespace Terminal

/-- The character that begins a sequence. -/
def escapeChar : Char := '\x1b'

/-- What a terminal is in the middle of. -/
inductive Place where
  /-- Nothing: characters are text. -/
  | text
  /-- Right behind an escape character. -/
  | escape
  /-- A sequence that selects something, such as a character set. -/
  | selection
  /-- A control sequence, which a letter ends. -/
  | control
  /-- The parameters of a device control string. -/
  | deviceHead
  /-- A command for the operating system, which a bell ends. -/
  | command
  /-- A string, which only its terminator ends. -/
  | string
  deriving DecidableEq, Repr, Inhabited

namespace Place

/-- Where an ASCII character leads. An escape character begins a sequence anywhere, and the
characters U+0018 and U+001A break one off. -/
def next (p : Place) (c : Char) : Place :=
  if c = escapeChar then escape
  else if c = '\x18' ∨ c = '\x1a' then text
  else
    match p with
    | text => text
    | escape =>
      if c.toNat < 0x20 ∨ c = '\x7f' then escape
      else if c.toNat < 0x30 then selection
      else if c = '[' then control
      else if c = ']' then command
      else if c = 'P' then deviceHead
      else if c = 'X' ∨ c = '^' ∨ c = '_' then string
      else text
    | selection => if c.toNat < 0x30 ∨ c = '\x7f' then selection else text
    | control => if c.toNat < 0x40 ∨ c = '\x7f' then control else text
    | deviceHead => if c.toNat < 0x40 ∨ c = '\x7f' then deviceHead else string
    | command => if c = '\x07' then text else command
    | string => string

/-- Whether control characters are obeyed at once. Commands and strings swallow them. -/
def obeys : Place → Bool
  | text | escape | selection | control => true
  | deviceHead | command | string => false

/-- Whether a character is text. Of the control characters, the blank ones are wherever they are
obeyed: tab, line feed, form feed and carriage return. -/
def shows (p : Place) (c : Char) : Bool :=
  if c.toNat < 0x20 then p.obeys && (c = '\t' || c = '\n' || c = '\x0c' || c = '\r')
  else p = text && c ≠ '\x7f'

/-- Where a character beyond ASCII leads in a stream, whose bytes are taken one by one: a byte of it
can be the terminator of a string. -/
def pass (p : Place) (c : Char) : Place :=
  if p = string ∧ (Bytes.ofString (String.singleton c)).contains 0x9C then text else p

theorem shows_text_of_shows {p : Place} {c : Char} (h : p.shows c = true) :
    text.shows c = true := by
  unfold shows at h ⊢
  by_cases hc : c.toNat < 0x20
  · simp only [hc, if_true, Bool.and_eq_true] at h ⊢
    exact ⟨rfl, h.2⟩
  · simp only [hc, if_false, Bool.and_eq_true] at h ⊢
    exact ⟨by simp, h.2⟩

end Place

/-! ## Text that is there as a whole -/

/-- The text of characters that a terminal gets at a place. -/
def plainFrom : Place → List Char → List Char
  | _, [] => []
  | p, c :: rest =>
    if p.shows c then c :: plainFrom .text rest
    else plainFrom (if c.toNat < 0x80 then p.next c else .text) rest

/-- A text without its orders to a terminal. -/
def plain (s : String) : String :=
  String.ofList (plainFrom .text s.toList)

theorem shows_of_mem_plainFrom {p : Place} {cs : List Char} {c : Char}
    (h : c ∈ plainFrom p cs) : Place.text.shows c = true := by
  induction cs generalizing p with
  | nil => exact absurd h (by simp [plainFrom])
  | cons d rest ih =>
    rw [plainFrom] at h
    split at h
    · rename_i hd
      rcases List.mem_cons.1 h with rfl | h
      · exact Place.shows_text_of_shows hd
      · exact ih h
    · exact ih h

theorem shows_of_mem_plain {s : String} {c : Char} (h : c ∈ (plain s).toList) :
    Place.text.shows c = true := by
  rw [plain, String.toList_ofList] at h
  exact shows_of_mem_plainFrom h

/-! ## Text in a stream -/

/-- The text of characters that a terminal gets at a place. Where text is `running`, what is text
between sequences is shown even if the sequence of the place has not ended. -/
def filteredFrom : Place → (running : Bool) → List Char → List Char
  | _, _, [] => []
  | p, running, c :: rest =>
    if p.shows c || (running && Place.text.shows c) then
      c :: filteredFrom (if c.toNat < 0x80 then p else .text) true rest
    else filteredFrom (if c.toNat < 0x80 then p.next c else p.pass c) false rest

/-- What a stream without a terminal behind it lets through of a text. -/
def filtered (s : String) : String :=
  String.ofList (filteredFrom .text false s.toList)

theorem shows_of_mem_filteredFrom {p : Place} {running : Bool} {cs : List Char} {c : Char}
    (h : c ∈ filteredFrom p running cs) : Place.text.shows c = true := by
  induction cs generalizing p running with
  | nil => exact absurd h (by simp [filteredFrom])
  | cons d rest ih =>
    rw [filteredFrom] at h
    split at h
    · rename_i hd
      rcases List.mem_cons.1 h with rfl | h
      · rcases Bool.or_eq_true_iff.1 hd with hd | hd
        · exact Place.shows_text_of_shows hd
        · exact (Bool.and_eq_true_iff.1 hd).2
      · exact ih h
    · exact ih h

theorem shows_of_mem_filtered {s : String} {c : Char} (h : c ∈ (filtered s).toList) :
    Place.text.shows c = true := by
  rw [filtered, String.toList_ofList] at h
  exact shows_of_mem_filteredFrom h

/-! ## Colours -/

/-- The sequence that sets an attribute of the text behind it; 0 resets all of them. -/
def setAttribute (n : Nat) : String :=
  String.ofList [escapeChar, '['] ++ toString n ++ "m"

/-- What follows a sequence that sets attributes, if the characters begin with one. -/
def behindAttributes? : List Char → Option (List Char)
  | e :: '[' :: rest =>
    if e = escapeChar then
      match rest.dropWhile fun c => c.isDigit || c = ';' with
      | 'm' :: after => some after
      | _ => none
    else none
  | _ => none

theorem length_behindAttributes? {cs after : List Char} (h : behindAttributes? cs = some after) :
    after.length < cs.length := by
  unfold behindAttributes? at h
  split at h
  · rename_i e rest
    split at h
    · split at h
      · rename_i rest' hd
        obtain rfl := Option.some.inj h
        have hle := (List.dropWhile_sublist (fun c : Char => c.isDigit || c = ';')
          (l := rest)).length_le
        rw [hd, List.length_cons] at hle
        simp only [List.length_cons]
        omega
      · exact absurd h (by simp)
    · exact absurd h (by simp)
  · exact absurd h (by simp)

theorem behindAttributes?_cons_of_ne {c : Char} (h : c ≠ escapeChar) (rest : List Char) :
    behindAttributes? (c :: rest) = none := by
  unfold behindAttributes?
  split
  · rename_i heq
    obtain ⟨rfl, -⟩ := List.cons.inj heq
    rw [if_neg h]
  · rfl

/-- The characters without the sequences that set attributes. All else stays. -/
def withoutColoursIn (cs : List Char) : List Char :=
  match cs with
  | [] => []
  | c :: rest =>
    match _found : behindAttributes? (c :: rest) with
    | some after => withoutColoursIn after
    | none => c :: withoutColoursIn rest
termination_by cs.length
decreasing_by
  · exact length_behindAttributes? _found
  · simp

/-- A text without the sequences that set attributes. -/
def withoutColours (s : String) : String :=
  String.ofList (withoutColoursIn s.toList)

theorem withoutColoursIn_append {cs : List Char} (h : escapeChar ∉ cs) (rest : List Char) :
    withoutColoursIn (cs ++ rest) = cs ++ withoutColoursIn rest := by
  induction cs with
  | nil => rfl
  | cons c cs ih =>
    have hc : c ≠ escapeChar := fun e => h (e ▸ List.mem_cons_self)
    rw [List.cons_append, withoutColoursIn]
    split
    · rename_i after ha
      rw [behindAttributes?_cons_of_ne hc] at ha
      exact absurd ha (by simp)
    · rw [ih fun hm => h (List.mem_cons_of_mem _ hm), List.cons_append]

theorem behindAttributes?_setAttribute (n : Nat) (rest : List Char) :
    behindAttributes? ((setAttribute n).toList ++ rest) = some rest := by
  have hd : ∀ c ∈ Nat.toDigits 10 n, (c.isDigit || c = ';') = true := fun c hc => by
    rw [Nat.isDigit_of_mem_toDigits (by decide) (by decide) hc]; rfl
  have hs : (setAttribute n).toList ++ rest =
      escapeChar :: '[' :: (Nat.toDigits 10 n ++ 'm' :: rest) := by
    simp [setAttribute]
  rw [hs, behindAttributes?, if_pos rfl, List.dropWhile_append_of_pos hd]
  rfl

theorem withoutColoursIn_of_behindAttributes? {cs after : List Char}
    (h : behindAttributes? cs = some after) : withoutColoursIn cs = withoutColoursIn after := by
  cases cs with
  | nil => exact absurd h (by simp [behindAttributes?])
  | cons c rest =>
    rw [withoutColoursIn]
    split
    · rename_i after' ha
      rw [Option.some.inj (h.symm.trans ha)]
    · rename_i hn
      exact absurd (h.symm.trans hn) (by simp)

theorem withoutColoursIn_setAttribute (n : Nat) (rest : List Char) :
    withoutColoursIn ((setAttribute n).toList ++ rest) = withoutColoursIn rest :=
  withoutColoursIn_of_behindAttributes? (behindAttributes?_setAttribute n rest)

end Terminal

end CmakeDriver
