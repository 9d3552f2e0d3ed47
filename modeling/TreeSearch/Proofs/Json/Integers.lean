import TreeSearch.Json.Printer
import TreeSearch.Proofs.Json.Reading
import Mathlib.Tactic.IntervalCases

/-!
# Integers are read as written

The digits of an integer of 64 bits are taken into the significand one by one, and the number that
has been read is the integer again. It stays open until a byte that cannot belong to it.
-/

namespace TreeSearch.Json

/-- The digits of a natural number have been read. -/
def Numeral.whole (negative : Bool) (n : Nat) : Numeral :=
  if n = 0 then .zero negative else .integer negative n

/-- The byte of a decimal digit. -/
def digitByte (d : Nat) : UInt8 := UInt8.ofNat (48 + d)

theorem utf8EncodeChar_digitChar {d : Nat} (digit : d < 10) :
    String.utf8EncodeChar d.digitChar = [digitByte d] := by
  interval_cases d <;> rfl

theorem beginValue_digitByte (stack : List Frame) {d : Nat} (digit : d < 10) :
    State.beginValue stack (digitByte d) = .ok ⟨.number (.whole false d), stack⟩ := by
  interval_cases d <;> rfl

theorem step_minus_digitByte (stack : List Frame) {d : Nat} (digit : d < 10) :
    State.step ⟨.number .minus, stack⟩ (digitByte d) = .ok ⟨.number (.whole true d), stack⟩ := by
  interval_cases d <;> rfl

/-- Another digit is taken in while the number fits in 64 bits. -/
theorem step_whole_digitByte (negative : Bool) (stack : List Frame) {n d : Nat} (positive : 0 < n)
    (digit : d < 10) (fits : n * 10 + d ≤ Number.maxUnsigned) :
    State.step ⟨.number (.whole negative n), stack⟩ (digitByte d) =
      .ok ⟨.number (.whole negative (n * 10 + d)), stack⟩ := by
  have value : Numeral.digit? (digitByte d) = some d := by
    interval_cases d <;> rfl
  rw [Numeral.whole, if_neg (by omega), Numeral.whole, if_neg (by omega)]
  simp only [State.step, Numeral.step, value, if_pos fits]

/-- The digits of a number are read from wherever its first digit is. -/
theorem reads_digits {s : State} {negative : Bool} {stack : List Frame}
    (first : ∀ d < 10, s.step (digitByte d) = .ok ⟨.number (.whole negative d), stack⟩) (n : Nat)
    (fits : n ≤ Number.maxUnsigned) :
    s.Reads (utf8 n.repr) ⟨.number (.whole negative n), stack⟩ := by
  induction n using Nat.strongRecOn with
  | ind n ih =>
      rw [Nat.repr_eq_ofList_toDigits, utf8_ofList]
      by_cases small : n < 10
      · rw [Nat.toDigits_of_lt_base small, List.flatMap_singleton, utf8EncodeChar_digitChar small]
        exact .one (first n small)
      · -- the digits before the last one are those of `n / 10`, which is not zero
        have digit : n % 10 < 10 := Nat.mod_lt n (by decide)
        have front := ih (n / 10) (by omega) (by omega)
        have last := step_whole_digitByte negative stack (n := n / 10) (by omega) digit (by omega)
        rw [show n / 10 * 10 + n % 10 = n by omega] at last
        rw [Nat.repr_eq_ofList_toDigits, utf8_ofList] at front
        rw [Nat.toDigits_of_base_le (by decide) (Nat.le_of_not_lt small), List.flatMap_append,
          List.flatMap_singleton, utf8EncodeChar_digitChar digit]
        exact front.trans (.one last)

theorem settles_whole (negative : Bool) (n : Nat) (stack : List Frame) :
    State.Settles ⟨.number (.whole negative n), stack⟩
      (State.finish (.num (Number.ofInteger negative n)) stack) := by
  apply State.Settles.number
  · rw [Numeral.whole]
    split
    case isTrue zero => rw [zero]; rfl
    case isFalse => rfl
  · rw [Numeral.whole]
    split <;> rfl
  · intro byte closes
    have foreign : ∀ byte ∈ State.closers, Numeral.digit? byte = none ∧ byte ≠ 46 ∧
        Numeral.isExponentMark byte = false := by
      simp only [State.closers, List.forall_mem_cons, List.not_mem_nil, false_imp_iff,
        implies_true, and_true]
      decide
    obtain ⟨digit, point, mark⟩ := foreign byte closes
    rw [Numeral.whole]
    split <;> simp only [Numeral.step, digit, Numeral.afterWhole, if_neg point, mark,
      Bool.false_eq_true, if_false]

/-- An integer of 64 bits, signed or unsigned, is read as it is written. -/
theorem reads_integer {s : State} {stack : List Frame} (awaits : s.Awaits stack) {i : Int}
    (least : -2 ^ 63 ≤ i) (greatest : i < 2 ^ 64) :
    ∃ s', s.Reads (utf8 (Number.int i).text) s' ∧
      s'.Settles (State.finish (.num (.int i)) stack) := by
  have bound : Number.maxUnsigned = 2 ^ 64 - 1 := rfl
  rw [Number.text, Int.toString_eq_repr, Int.repr_eq_if]
  split
  case isTrue sign =>
    have first : ∀ d < 10, s.step (digitByte d) = .ok ⟨.number (.whole false d), stack⟩ := by
      intro d digit
      rw [awaits.step_eq, beginValue_digitByte stack digit]
      · interval_cases d <;> rfl
      · interval_cases d <;> decide
    have value : Number.ofInteger false i.toNat = .int i := by
      rw [Number.ofInteger, if_neg Bool.false_ne_true, Int.toNat_of_nonneg sign]
    exact ⟨_, reads_digits first i.toNat (by omega), value ▸ settles_whole false i.toNat stack⟩
  case isFalse sign =>
    have minus : s.step 45 = .ok ⟨.number .minus, stack⟩ := by
      rw [awaits.step_eq rfl (by decide)]
      rfl
    have value : Number.ofInteger true (-i).toNat = .int i := by
      rw [Number.ofInteger, if_pos rfl, if_pos (by omega), Int.toNat_of_nonneg (by omega),
        Int.neg_neg]
    have digits := reads_digits (s := ⟨.number .minus, stack⟩)
      (fun d digit => step_minus_digitByte stack digit) (-i).toNat (by omega)
    rw [utf8_append]
    exact ⟨_, .cons minus digits, value ▸ settles_whole true (-i).toNat stack⟩

end TreeSearch.Json
