import Mathlib.Data.String.Basic
import ContractBinder.Text.Bytes

/-!
# Texts as bytes

A text can be read back from its bytes, and bytes are a text at most once
(`decode?_eq_some_iff`), so different texts have different bytes. In UTF-8 a byte below
0x80 stands for the character of this number and for nothing else
(`mem_bytes_iff`).
-/

namespace ContractBinder.Text

variable {text other : String} {byte : UInt8}

/-! ## 1. Reading back -/

theorem decode?_bytes (text : String) : decode? (bytes text) = some text :=
  dif_pos text.isValidUTF8

theorem decode?_eq_some_iff {encoded : List UInt8} :
    decode? encoded = some text ↔ encoded = bytes text := by
  constructor
  · intro decoded
    unfold decode? String.fromUTF8? at decoded
    split at decoded
    · next valid =>
      rw [← Option.some.inj decoded]
      rfl
    · cases decoded
  · rintro rfl
    exact decode?_bytes text

theorem bytes_injective : Function.Injective bytes := fun text other same =>
  Option.some.inj ((decode?_bytes text).symm.trans (same ▸ decode?_bytes other))

theorem bytes_append (text other : String) : bytes (text ++ other) = bytes text ++ bytes other := by
  simp [bytes]

/-- Bytes that are a text are shown as this text. -/
theorem shown_bytes (text : String) : shown (bytes text) = text := by
  rw [shown, decode?_bytes]

/-! ## 2. Characters of one byte -/

theorem mem_utf8EncodeChar_iff (ascii : byte.toNat < 0x80) (c : Char) :
    byte ∈ String.utf8EncodeChar c ↔ c.toNat = byte.toNat := by
  have long {encoded : List UInt8} (large : 0x7f < c.toNat)
      (high : ∀ other ∈ encoded, 0x80 ≤ other.toNat) : byte ∈ encoded ↔ c.toNat = byte.toNat :=
    ⟨fun member => absurd (high byte member) (Nat.not_le.mpr ascii), fun same => by omega⟩
  unfold String.utf8EncodeChar
  dsimp only
  split
  · next short =>
    rw [List.mem_singleton, ← UInt8.toNat_inj, UInt8.toNat_ofNat', eq_comm]
    exact (Nat.mod_eq_of_lt (Nat.lt_of_le_of_lt short (by decide))).congr_left
  -- All bytes of a longer encoding have their highest bit set.
  · next large =>
    refine long (Nat.lt_of_not_le large) ?_
    split_ifs <;> simp <;> omega

theorem bytes_eq_flatMap (text : String) :
    bytes text = text.toList.flatMap String.utf8EncodeChar := by
  rw [bytes, String.toUTF8_eq_toByteArray, ← String.utf8Encode_toList, List.utf8Encode,
    List.data_toByteArray]

theorem mem_bytes_iff {c : Char} (ascii : byte.toNat < 0x80) (number : c.toNat = byte.toNat) :
    byte ∈ bytes text ↔ c ∈ text.toList := by
  rw [bytes_eq_flatMap, List.mem_flatMap]
  simp only [mem_utf8EncodeChar_iff ascii, ← number, Char.toNat_inj]
  simp

end ContractBinder.Text
