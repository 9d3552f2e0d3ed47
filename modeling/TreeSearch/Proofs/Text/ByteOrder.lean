import TreeSearch.Proofs.Json.Reading
import Mathlib.Data.String.Basic

/-!
# The order of texts and of their bytes

Texts are ordered character by character. Encoding keeps this order: of two characters the smaller
one has the smaller bytes, and the bytes differ before either encoding ends
(`utf8EncodeChar_append_lt`). So texts compare like their bytes (`utf8_lt_iff`).
-/

namespace TreeSearch.Text

open Json (utf8 utf8_eq_flatMap)

/-- Two sequences of bytes are in order if the first bytes are, and the rest where these agree. -/
theorem ofNat_cons_lt_cons {m n : Nat} {rest rest' : List UInt8} (small : n < 256) (le : m ≤ n)
    (tail : m = n → rest < rest') : UInt8.ofNat m :: rest < UInt8.ofNat n :: rest' := by
  rw [List.cons_lt_cons_iff]
  rcases Nat.lt_or_eq_of_le le with less | rfl
  · left
    have value : (UInt8.ofNat n).toNat = n := UInt8.toNat_ofNat_of_lt' small
    have value' : (UInt8.ofNat m).toNat = m := UInt8.toNat_ofNat_of_lt' (Nat.lt_trans less small)
    rwa [UInt8.lt_iff_toNat_lt, value, value']
  · exact .inr ⟨rfl, tail rfl⟩

/-- The bytes of a smaller character are smaller, whatever follows them. -/
theorem utf8EncodeChar_append_lt {c d : Char} (less : c < d) (rest rest' : List UInt8) :
    String.utf8EncodeChar c ++ rest < String.utf8EncodeChar d ++ rest' := by
  have code : c.val.toNat < d.val.toNat := less
  have bound : d.val.toNat < 1114112 := by
    rcases d.valid with low | high
    · exact Nat.lt_trans low (by decide)
    · exact high.2
  simp only [String.utf8EncodeChar]
  -- encodings of different lengths differ in the first byte, others in the first digit that differs
  split_ifs <;> simp only [List.cons_append, List.nil_append] <;>
    repeat' (apply ofNat_cons_lt_cons; omega; omega; intro same)
  all_goals omega

theorem flatMap_utf8EncodeChar_lt {cs ds : List Char} (less : cs < ds) :
    cs.flatMap String.utf8EncodeChar < ds.flatMap String.utf8EncodeChar := by
  induction less with
  | @nil d ds =>
      obtain ⟨byte, bytes, encoded⟩ :=
        List.exists_cons_of_ne_nil (String.utf8EncodeChar_ne_nil (c := d))
      rw [List.flatMap_nil, List.flatMap_cons, encoded, List.cons_append]
      exact List.nil_lt_cons _ _
  | rel less =>
      rw [List.flatMap_cons, List.flatMap_cons]
      exact utf8EncodeChar_append_lt less _ _
  | cons _ ih =>
      rw [List.flatMap_cons, List.flatMap_cons]
      exact List.append_left_lt ih

/-- Texts are ordered like their bytes. -/
theorem utf8_lt_iff {a b : String} : utf8 a < utf8 b ↔ a < b := by
  have keeps : ∀ {a b : String}, a < b → utf8 a < utf8 b := by
    intro a b less
    rw [utf8_eq_flatMap, utf8_eq_flatMap]
    exact flatMap_utf8EncodeChar_lt less
  refine ⟨fun bytes => ?_, keeps⟩
  rcases lt_trichotomy a b with less | rfl | greater
  · exact less
  · exact absurd bytes (List.lt_irrefl _)
  · exact absurd bytes (List.lt_asymm (keeps greater))

theorem utf8_le_iff {a b : String} : utf8 a ≤ utf8 b ↔ a ≤ b := by
  rw [← List.not_lt, ← not_lt, utf8_lt_iff]

section Entries

variable {α : Type}

theorem key_le_trans (a b c : String × α) (first : decide (a.1 ≤ b.1) = true)
    (second : decide (b.1 ≤ c.1) = true) : decide (a.1 ≤ c.1) = true :=
  decide_eq_true (le_trans (of_decide_eq_true first) (of_decide_eq_true second))

theorem key_le_total (a b : String × α) : (decide (a.1 ≤ b.1) || decide (b.1 ≤ a.1)) = true := by
  simpa using le_total a.1 b.1

/-- Sorting entries puts their keys in order. -/
theorem pairwise_key_mergeSort (entries : List (String × α)) :
    (entries.mergeSort fun a b => a.1 ≤ b.1).Pairwise fun a b => a.1 ≤ b.1 :=
  (List.pairwise_mergeSort key_le_trans key_le_total entries).imp of_decide_eq_true

end Entries

end TreeSearch.Text
