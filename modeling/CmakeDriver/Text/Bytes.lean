/-!
# Text as bytes

Names, paths and environment entries are byte strings to the operating system; configuration
files and command lines are Unicode text. `Bytes.ofString` writes text as UTF-8, `Bytes.decode?`
reads it back and refuses what is not UTF-8, `Bytes.decodeLossy` puts U+FFFD there.

Results:
* `decode?_ofString`: text written as bytes reads back, so `ofString` is injective
  (`ofString_inj`).
* `decode?_eq_some_iff`: only the bytes of a text read as that text.
* `ofString_append`: writing text piece by piece is writing it at once.
* `decodeLossy_ofString`: the lossy reading changes nothing in text.
* `split_ne_nil`: a split has at least one part.
-/

namespace CmakeDriver

/-- A string of bytes, of any content. -/
abbrev Bytes := List UInt8

namespace Bytes

/-! ## Text and its UTF-8 bytes -/

/-- The UTF-8 bytes of a text. -/
def ofString (s : String) : Bytes :=
  s.toByteArray.data.toList

/-- The text whose UTF-8 bytes these are, if they are UTF-8. -/
def decode? (b : Bytes) : Option String :=
  String.fromUTF8? ⟨b.toArray⟩

@[simp] theorem decode?_ofString (s : String) : decode? (ofString s) = some s := by
  have h : (⟨(ofString s).toArray⟩ : ByteArray) = s.toByteArray := by
    simp [ofString]
  simp only [decode?, String.fromUTF8?, h]
  rw [dif_pos s.isValidUTF8]
  rfl

theorem decode?_eq_some_iff {b : Bytes} {s : String} : decode? b = some s ↔ b = ofString s := by
  constructor
  · intro h
    unfold decode? String.fromUTF8? at h
    split at h
    · obtain rfl := Option.some.inj h
      simp [ofString, String.fromUTF8]
    · exact absurd h (by simp)
  · rintro rfl
    exact decode?_ofString s

theorem ofString_inj {s t : String} (h : ofString s = ofString t) : s = t := by
  have := congrArg decode? h
  simpa using this

@[simp] theorem ofString_append (s t : String) : ofString (s ++ t) = ofString s ++ ofString t := by
  simp [ofString]

/-! ## Reading bytes that may not be UTF-8 -/

/-- How many of the bytes that follow a lead byte belong to one character, and the range of the
first of them: `none` for a byte that leads nothing. -/
def leadClass (b : UInt8) : Option (Nat × UInt8 × UInt8) :=
  if b < 0x80 then some (0, 0x80, 0xBF)
  else if b < 0xC2 then none
  else if b < 0xE0 then some (1, 0x80, 0xBF)
  else if b = 0xE0 then some (2, 0xA0, 0xBF)
  else if b = 0xED then some (2, 0x80, 0x9F)
  else if b < 0xF0 then some (2, 0x80, 0xBF)
  else if b = 0xF0 then some (3, 0x90, 0xBF)
  else if b < 0xF4 then some (3, 0x80, 0xBF)
  else if b = 0xF4 then some (3, 0x80, 0x8F)
  else none

/-- The length of the longest beginning of `rest` that continues a character with `more` bytes to
come, the first of them between `lo` and `hi`. -/
def continuation : (more : Nat) → (lo hi : UInt8) → (rest : Bytes) → Nat
  | 0, _, _, _ => 0
  | _, _, _, [] => 0
  | more + 1, lo, hi, b :: rest =>
    if lo ≤ b ∧ b ≤ hi then 1 + continuation more 0x80 0xBF rest else 0

/-- The bytes cut into characters, each piece with the flag that it is complete: a piece that is
not is the longest beginning of a character found there, or one byte that leads none. -/
def pieces (b : Bytes) : List (Bool × Bytes) :=
  match b with
  | [] => []
  | lead :: rest =>
    match leadClass lead with
    | none => (false, [lead]) :: pieces rest
    | some (more, lo, hi) =>
      let n := continuation more lo hi rest
      (n == more, lead :: rest.take n) :: pieces (rest.drop n)
termination_by b.length
decreasing_by
  · simp
  · simp only [List.length_drop, List.length_cons]
    omega

/-- The text of these bytes, with one U+FFFD for each piece that is not a character. -/
def decodeLossy (b : Bytes) : String :=
  match decode? b with
  | some s => s
  | none => String.join ((pieces b).map fun (complete, piece) =>
      if complete then (decode? piece).getD "\uFFFD" else "\uFFFD")

@[simp] theorem decodeLossy_ofString (s : String) : decodeLossy (ofString s) = s := by
  simp [decodeLossy]

/-! ## Splitting at a byte -/

/-- The parts of `b` between the bytes `sep`, in order; `[]` has the one part `[]`. -/
def split (sep : UInt8) : Bytes → List Bytes
  | [] => [[]]
  | b :: rest =>
    if b = sep then [] :: split sep rest
    else
      match split sep rest with
      | [] => [[b]]
      | part :: parts => (b :: part) :: parts

theorem split_ne_nil (sep : UInt8) (b : Bytes) : split sep b ≠ [] := by
  cases b with
  | nil => simp [split]
  | cons b rest =>
    rw [split]
    split
    · simp
    · split <;> simp

/-- The byte of a slash. -/
def slash : UInt8 := 0x2F

/-- The byte of a colon. -/
def colon : UInt8 := 0x3A

/-- The byte of an equals sign. -/
def equalsSign : UInt8 := 0x3D

end Bytes

end CmakeDriver
