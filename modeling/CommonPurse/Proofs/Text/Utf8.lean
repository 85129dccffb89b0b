import CommonPurse.Text.Utf8
import Mathlib.Data.List.Forall2
import Mathlib.Tactic.Lemma

/-!
# Bytes of texts

A text whose characters have one byte each is read back from its bytes, whether or not malformed
bytes are made up for.

## Main definitions

* `CommonPurse.Text.encodeUtf8` — the bytes of a text.

## Main results

* `CommonPurse.Text.decodeUtf8Lossy_encodeUtf8` — reading the bytes of a text.
-/

namespace CommonPurse.Text

/-- The bytes of a text. -/
def encodeUtf8 (s : String) : List UInt8 := s.toList.flatMap String.utf8EncodeChar

/-- A character below 128 is its own byte, and that byte needs no others behind it. -/
lemma scanUtf8_cons {c : Char} (small : c.toNat < 128) (bytes : List UInt8) :
    scanUtf8 (String.utf8EncodeChar c ++ bytes) = some c :: scanUtf8 bytes := by
  have one : c.utf8Size = 1 := by
    rw [Char.utf8Size_eq_one_iff]
    exact UInt32.le_iff_toNat_le.mpr (Nat.le_of_lt_succ small)
  have byte : c.val.toUInt8.toNat = c.toNat := by
    rw [UInt32.toNat_toUInt8]
    exact Nat.mod_eq_of_lt (Nat.lt_trans small (by decide))
  rw [String.utf8EncodeChar_eq_singleton one, List.singleton_append, scanUtf8]
  have lead : leadByte? c.val.toUInt8 = some (c.toNat, []) := by
    rw [leadByte?, byte, if_pos small]
  simp only [lead, takeContinuation, Option.map_some, Char.ofNat_toNat]

lemma scanUtf8_encode {s : List Char} (small : ∀ c ∈ s, c.toNat < 128) :
    scanUtf8 (s.flatMap String.utf8EncodeChar) = s.map some := by
  induction s with
  | nil => simp [scanUtf8]
  | cons c rest ih =>
    rw [List.flatMap_cons, scanUtf8_cons (small c List.mem_cons_self),
      ih fun x hx => small x (List.mem_cons_of_mem _ hx), List.map_cons]

/-- **A text of characters below 128 is read back from its bytes.** -/
theorem decodeUtf8Lossy_encodeUtf8 {s : String} (small : ∀ c ∈ s.toList, c.toNat < 128) :
    decodeUtf8Lossy (encodeUtf8 s) = s := by
  rw [decodeUtf8Lossy, encodeUtf8, scanUtf8_encode small, List.map_map]
  exact (congrArg String.ofList (List.map_id s.toList)).trans String.ofList_toList

end CommonPurse.Text
