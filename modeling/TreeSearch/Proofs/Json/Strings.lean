import TreeSearch.Json.Printer
import TreeSearch.Proofs.Json.Reading

/-!
# Strings are read as written

A character is written as itself, as an escape of one letter, or as an escape of four digits.
Reading what is written adds the encoding of the character to the collected bytes, so reading a
whole string gives the text back, wherever in a document the string stands.
-/

namespace TreeSearch.Json

/-- The three ways to write a character. -/
inductive Written (c : Char) : List UInt8 → Prop
  | letter {letter decoded : UInt8} (different : letter ≠ 117)
      (escaped : Quotation.escaped? letter = some decoded)
      (encoding : String.utf8EncodeChar c = [decoded]) : Written c [92, letter]
  | code {high low : UInt8} {x y : Nat} (first : Quotation.hexDigit? high = some x)
      (second : Quotation.hexDigit? low = some y) (control : x * 16 + y < 32)
      (encoding : c = Char.ofNat (x * 16 + y)) : Written c [92, 117, 48, 48, high, low]
  | plain (visible : ∀ byte ∈ String.utf8EncodeChar c, 32 ≤ byte ∧ byte ≠ 34 ∧ byte ≠ 92) :
      Written c (String.utf8EncodeChar c)

/-- A byte that starts or continues the encoding of a character beyond ASCII. -/
theorem le_toNat_ofNat_mod_add (n : Nat) {top base : Nat} (positive : 0 < top)
    (small : top + base ≤ 256) (large : 128 ≤ base) :
    128 ≤ (UInt8.ofNat (n % top + base)).toNat := by
  have less := Nat.mod_lt n positive
  rw [UInt8.toNat_ofNat_of_lt' (show n % top + base < 256 by omega)]
  omega

/-- The bytes of a character are the character itself or lie beyond ASCII. -/
theorem utf8EncodeChar_cases (c : Char) :
    String.utf8EncodeChar c = [UInt8.ofNat c.toNat] ∧ c.toNat < 128 ∨
      ∀ byte ∈ String.utf8EncodeChar c, 128 ≤ byte.toNat := by
  fun_cases String.utf8EncodeChar c
  case case1 v h => exact .inl ⟨rfl, Nat.lt_succ_of_le h⟩
  all_goals
    right
    simp only [List.forall_mem_cons, List.not_mem_nil, false_imp_iff, implies_true, and_true]
    and_intros <;> exact le_toNat_ofNat_mod_add _ (by decide) (by decide) (by decide)

theorem Written.of_visible {c : Char} (control : 32 ≤ c.toNat) (quote : c ≠ '"')
    (backslash : c ≠ '\\') : Written c (String.utf8EncodeChar c) := by
  have different {d : Char} (h : c ≠ d) : c.toNat ≠ d.toNat :=
    fun same => h (Char.toNat_inj.mp same)
  apply Written.plain
  rcases utf8EncodeChar_cases c with ⟨single, small⟩ | beyond
  · rw [single]
    intro byte mem
    cases List.mem_singleton.mp mem
    have value : (UInt8.ofNat c.toNat).toNat = c.toNat :=
      UInt8.toNat_ofNat_of_lt' (Nat.lt_trans small (by decide))
    refine ⟨UInt8.le_iff_toNat_le.mpr (by rw [value]; exact control), ?_, ?_⟩
    · exact fun same => different quote (value.symm.trans (congrArg UInt8.toNat same))
    · exact fun same => different backslash (value.symm.trans (congrArg UInt8.toNat same))
  · intro byte mem
    have large := beyond byte mem
    refine ⟨UInt8.le_iff_toNat_le.mpr (Nat.le_trans (by decide) large), ?_, ?_⟩
    · rintro rfl
      exact absurd large (by decide)
    · rintro rfl
      exact absurd large (by decide)

theorem hexDigit?_digitChar : ∀ n < 16, ∃ byte,
    String.utf8EncodeChar n.digitChar = [byte] ∧ Quotation.hexDigit? byte = some n := by
  intro n small
  have table : ∀ n < 16, String.utf8EncodeChar n.digitChar = [UInt8.ofNat n.digitChar.toNat] ∧
      Quotation.hexDigit? (UInt8.ofNat n.digitChar.toNat) = some n := by decide
  exact ⟨_, table n small⟩

/-- A control character is written with the two digits of its code. -/
theorem Written.of_control {c : Char} (control : c.toNat < 32) :
    Written c (utf8 (if c.toNat < 16 then "\\u000" ++ String.ofList (Nat.toDigits 16 c.toNat)
      else "\\u00" ++ String.ofList (Nat.toDigits 16 c.toNat))) := by
  have digit : c.toNat % 16 < 16 := Nat.mod_lt _ (by decide)
  obtain ⟨low, bytes, value⟩ := hexDigit?_digitChar _ digit
  split
  case isTrue small =>
    have digits : Nat.toDigits 16 c.toNat = [(c.toNat % 16).digitChar] := by
      rw [Nat.toDigits_of_lt_base small, Nat.mod_eq_of_lt small]
    have text : utf8 ("\\u000" ++ String.ofList (Nat.toDigits 16 c.toNat)) =
        [92, 117, 48, 48, 48, low] := by
      rw [utf8_append, digits, utf8_ofList [_], List.flatMap_singleton, bytes]
      rfl
    rw [text]
    refine .code (x := 0) rfl value (by omega) ?_
    rw [Nat.zero_mul, Nat.zero_add, Nat.mod_eq_of_lt small, Char.ofNat_toNat]
  case isFalse large =>
    have quotient : c.toNat / 16 = 1 := by omega
    have digits : Nat.toDigits 16 c.toNat = ['1', (c.toNat % 16).digitChar] := by
      rw [Nat.toDigits_of_base_le (by decide) (Nat.le_of_not_lt large), quotient]
      rfl
    have text : utf8 ("\\u00" ++ String.ofList (Nat.toDigits 16 c.toNat)) =
        [92, 117, 48, 48, 49, low] := by
      rw [utf8_append, digits, utf8_ofList [_, _], List.flatMap_cons, List.flatMap_singleton, bytes]
      rfl
    rw [text]
    refine .code (x := 1) rfl value (by omega) ?_
    rw [show 1 * 16 + c.toNat % 16 = c.toNat by omega, Char.ofNat_toNat]

theorem written_escapeChar (c : Char) : Written c (utf8 (escapeChar c)) := by
  unfold escapeChar
  split
  case h_8 quote backslash _ _ _ _ _ =>
    by_cases control : c.toNat < 32
    · have written := Written.of_control control
      simp only [control, if_true]
      exact written
    · have itself : utf8 c.toString = String.utf8EncodeChar c := by
        rw [utf8_eq_flatMap, Char.toString_eq_singleton, String.toList_singleton,
          List.flatMap_singleton]
      rw [if_neg (by omega), if_neg control, itself]
      exact .of_visible (Nat.le_of_not_lt control) quote backslash
  all_goals exact .letter (by decide) rfl rfl

/-- A place for strings: `inside` are the states in the middle of a string, and `closed` is the
state behind it. -/
structure Quoting (inside : ByteArray → Quotation → State) (closed : String → State) : Prop where
  more {bytes bytes' : ByteArray} {place place' : Quotation} {byte : UInt8} :
    place.step bytes byte = .more bytes' place' →
      (inside bytes place).step byte = .ok (inside bytes' place')
  close {bytes : ByteArray} {place : Quotation} {byte : UInt8} {text : String} :
    place.step bytes byte = .closed → Quotation.decode bytes = .ok text →
      (inside bytes place).step byte = .ok (closed text)

theorem quoting_value (stack : List Frame) :
    Quoting (fun bytes place => ⟨.text bytes place, stack⟩)
      fun text => State.finish (.str text) stack where
  more step := by simp only [State.step, step]
  close step decoded := by simp only [State.step, step, decoded]

theorem quoting_key (fields : Fields Json) (stack : List Frame) :
    Quoting (fun bytes place => ⟨.keyText fields bytes place, stack⟩)
      fun text => ⟨.colon fields text, stack⟩ where
  more step := by simp only [State.step, step]
  close step decoded := by simp only [State.step, step, decoded]

namespace Quoting

variable {inside : ByteArray → Quotation → State} {closed : String → State}

/-- Bytes that are neither escapes nor the end of the string are collected. -/
theorem reads_plain (quoting : Quoting inside closed) {plain : List UInt8}
    (visible : ∀ byte ∈ plain, 32 ≤ byte ∧ byte ≠ 34 ∧ byte ≠ 92) (bytes : ByteArray) :
    (inside bytes .plain).Reads plain (inside (bytes ++ plain.toByteArray) .plain) := by
  induction plain generalizing bytes with
  | nil =>
      rw [List.toByteArray_nil, ByteArray.append_empty]
      exact .nil _
  | cons byte rest ih =>
      obtain ⟨control, quote, backslash⟩ := visible byte List.mem_cons_self
      have step : Quotation.plain.step bytes byte = .more (bytes.push byte) .plain := by
        rw [Quotation.step, if_neg quote, if_neg backslash, if_neg (UInt8.not_lt.mpr control)]
      have collected :
          bytes ++ (byte :: rest).toByteArray = bytes.push byte ++ rest.toByteArray := by
        rw [← List.singleton_append, List.toByteArray_append, ← ByteArray.append_assoc,
          ByteArray.append_toByteArray_singleton]
      rw [collected]
      exact .cons (quoting.more step)
        (ih (fun byte mem => visible byte (List.mem_cons_of_mem _ mem)) _)

theorem reads_written (quoting : Quoting inside closed) {c : Char} {written : List UInt8}
    (h : Written c written) (bytes : ByteArray) :
    (inside bytes .plain).Reads written (inside (bytes ++ [c].utf8Encode) .plain) := by
  have encode : [c].utf8Encode = (String.utf8EncodeChar c).toByteArray := by
    rw [List.utf8Encode, List.flatMap_singleton]
  rw [encode]
  cases h with
  | @letter letter decoded different escaped encoding =>
      rw [encoding, ByteArray.append_toByteArray_singleton]
      refine .cons (quoting.more rfl) (.one (quoting.more ?_))
      rw [Quotation.step, if_neg different, escaped]
  | @code high low x y first second control encoding =>
      have pushed : bytes ++ (String.utf8EncodeChar c).toByteArray =
          Quotation.pushCode bytes (x * 16 + y) := by
        rw [← encode, encoding, Quotation.pushCode, String.toUTF8_eq_toByteArray,
          ← String.utf8Encode_toList, String.toList_singleton]
      rw [pushed]
      refine .cons (quoting.more rfl) <| .cons (quoting.more rfl) <| .cons (quoting.more rfl) <|
        .cons (quoting.more rfl) <| .cons (quoting.more rfl) <| .one (quoting.more ?_)
      have zero : Quotation.hexDigit? 48 = some 0 := rfl
      have trail : Quotation.isTrail (x * 16 + y) = false := by
        rw [Quotation.isTrail, decide_eq_false (by omega), Bool.false_and]
      have lead : Quotation.isLead (x * 16 + y) = false := by
        rw [Quotation.isLead, decide_eq_false (by omega), Bool.false_and]
      simp [Quotation.step, zero, first, second, Quotation.afterCode, trail, lead]
  | plain visible => exact quoting.reads_plain visible bytes

theorem reads_chars (quoting : Quoting inside closed) (cs : List Char) (bytes : ByteArray) :
    (inside bytes .plain).Reads (cs.flatMap fun c => utf8 (escapeChar c))
      (inside (bytes ++ cs.utf8Encode) .plain) := by
  induction cs generalizing bytes with
  | nil =>
      rw [List.utf8Encode_nil, ByteArray.append_empty]
      exact .nil _
  | cons c rest ih =>
      rw [List.flatMap_cons, ← List.singleton_append, List.utf8Encode_append,
        ← ByteArray.append_assoc]
      exact (quoting.reads_written (written_escapeChar c) bytes).trans (ih _)

/-- Behind the opening quotation mark, a string is read to its end and gives its text. -/
theorem reads_string (quoting : Quoting inside closed) (text : String) :
    (inside .empty .plain).Reads ((text.toList.flatMap fun c => utf8 (escapeChar c)) ++ [34])
      (closed text) := by
  have decoded : Quotation.decode text.toList.utf8Encode = .ok text := by
    rw [String.utf8Encode_toList, Quotation.decode, String.fromUTF8?, dif_pos text.isValidUTF8]
    rfl
  have chars := quoting.reads_chars text.toList .empty
  rw [ByteArray.empty_append] at chars
  exact chars.trans (.one (quoting.close rfl decoded))

end Quoting

theorem utf8_writeString (text out : String) :
    utf8 (writeString text out) =
      utf8 out ++ 34 :: (text.toList.flatMap fun c => utf8 (escapeChar c)) ++ [34] := by
  have chars : ∀ (cs : List Char) (out : String),
      utf8 (cs.foldl (fun out c => out ++ escapeChar c) out) =
        utf8 out ++ cs.flatMap fun c => utf8 (escapeChar c) := by
    intro cs
    induction cs with
    | nil => exact fun out => (List.append_nil _).symm
    | cons c rest ih =>
        intro out
        rw [List.foldl_cons, ih, utf8_append, List.flatMap_cons, List.append_assoc]
  have mark : String.utf8EncodeChar '"' = [34] := rfl
  rw [writeString, utf8_push, chars, utf8_push, mark, List.append_assoc (utf8 out),
    List.singleton_append]

end TreeSearch.Json
