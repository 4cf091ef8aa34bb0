import CmakeDriver.Text.Bytes

/-!
# ASCII in the bytes of a text

In UTF-8 a byte below 128 stands only for the character of its number. So what a program looks for
in the bytes of a text (a NUL, a slash, an equals sign) is found exactly where the character is.

Results:
* `ofString_eq`: the bytes of a text are those of its characters in order.
* `mem_ofString_iff`: an ASCII byte is among the bytes of a text exactly when its character is in
  the text.
-/

namespace CmakeDriver

namespace Bytes

theorem ofString_eq (s : String) : ofString s = s.toList.flatMap String.utf8EncodeChar := by
  obtain ⟨cs, rfl⟩ : ∃ cs, s = String.ofList cs := ⟨s.toList, String.ofList_toList.symm⟩
  simp [ofString, String.toByteArray_ofList, List.utf8Encode]

/-- A byte below 128 is among those of a character only if it is that character. -/
theorem mem_utf8EncodeChar_iff {c : Char} {b : UInt8} (h : b.toNat < 0x80) :
    b ∈ String.utf8EncodeChar c ↔ c.toNat = b.toNat := by
  have hbyte : ∀ n : Nat, b = UInt8.ofNat n ↔ b.toNat = n % 256 := by
    intro n
    rw [← UInt8.toNat_inj, UInt8.toNat_ofNat']
  have hc : c.val.toNat = c.toNat := rfl
  unfold String.utf8EncodeChar
  simp only [hc]
  split
  · rw [List.mem_singleton, hbyte]
    omega
  split
  · simp only [List.mem_cons, List.not_mem_nil, or_false, hbyte]
    omega
  split
  · simp only [List.mem_cons, List.not_mem_nil, or_false, hbyte]
    omega
  · simp only [List.mem_cons, List.not_mem_nil, or_false, hbyte]
    omega

/-- **An ASCII byte shows an ASCII character.** -/
theorem mem_ofString_iff {s : String} {a : Char} (h : a.toNat < 0x80) :
    UInt8.ofNat a.toNat ∈ ofString s ↔ a ∈ s.toList := by
  have ha : (UInt8.ofNat a.toNat).toNat = a.toNat := by
    rw [UInt8.toNat_ofNat']
    omega
  rw [ofString_eq, List.mem_flatMap]
  constructor
  · rintro ⟨c, hc, hb⟩
    rw [mem_utf8EncodeChar_iff (by omega), ha] at hb
    exact Char.toNat_inj.1 hb ▸ hc
  · intro hm
    exact ⟨a, hm, (mem_utf8EncodeChar_iff (by omega)).2 ha.symm⟩

theorem zero_mem_ofString_iff {s : String} : 0 ∈ ofString s ↔ '\x00' ∈ s.toList :=
  mem_ofString_iff (a := '\x00') (by decide)

theorem equalsSign_mem_ofString_iff {s : String} : equalsSign ∈ ofString s ↔ '=' ∈ s.toList :=
  mem_ofString_iff (a := '=') (by decide)

end Bytes

end CmakeDriver
