import TreeSearch.Json.Reader
import Mathlib.Data.List.Basic

/-!
# Runs of the reader

`State.Reads` is what the reader does with the bytes of a piece of text. A state that awaits a value
starts it with the next byte, and a state in the middle of a number counts as settled in the state
behind the number, because the next byte that can stand there, or the end of the text, ends it.
-/

namespace TreeSearch.Json

/-- The bytes of a text. -/
def utf8 (text : String) : List UInt8 := text.toUTF8.data.toList

@[simp]
theorem utf8_append (a b : String) : utf8 (a ++ b) = utf8 a ++ utf8 b := by
  simp [utf8, String.toUTF8_eq_toByteArray]

theorem utf8_eq_flatMap (text : String) :
    utf8 text = text.toList.flatMap String.utf8EncodeChar := by
  rw [utf8, String.toUTF8_eq_toByteArray, ← String.utf8Encode_toList, List.utf8Encode,
    List.toList_data_toByteArray]

theorem utf8_ofList (cs : List Char) :
    utf8 (String.ofList cs) = cs.flatMap String.utf8EncodeChar := by
  rw [utf8_eq_flatMap, String.toList_ofList]

@[simp]
theorem utf8_push (text : String) (c : Char) :
    utf8 (text.push c) = utf8 text ++ String.utf8EncodeChar c := by
  simp [utf8_eq_flatMap]

namespace State

/-- `s.Reads bytes s'`: no byte is refused, and the last one leads to `s'`. -/
inductive Reads : State → List UInt8 → State → Prop
  | nil (s) : Reads s [] s
  | cons {s next s' byte rest} (step : s.step byte = .ok next) (tail : Reads next rest s') :
      Reads s (byte :: rest) s'

theorem Reads.one {s s' : State} {byte : UInt8} (step : s.step byte = .ok s') :
    s.Reads [byte] s' :=
  .cons step (.nil s')

theorem Reads.trans {s t u : State} {front back : List UInt8} (first : s.Reads front t)
    (second : t.Reads back u) : s.Reads (front ++ back) u := by
  induction first with
  | nil => exact second
  | cons step _ ih => exact .cons step (ih second)

/-- Nothing leads back from behind the document. -/
theorem Reads.eq_of_trailing {value : Json} {stack : List Frame} {bytes : List UInt8} {s' : State}
    (reads : Reads ⟨.trailing value, stack⟩ bytes s') : s' = ⟨.trailing value, stack⟩ := by
  generalize hs : State.mk (.trailing value) stack = s at reads
  induction reads with
  | nil => rfl
  | cons step _ ih =>
      subst hs
      cases step
      exact ih rfl

theorem readFrom_of_reads (source : Source) {s s' : State} {bytes : List UInt8}
    (reads : s.Reads bytes s') (inside : ∀ value, s'.mode ≠ .trailing value) (here : Position) :
    Document.readFrom source s here bytes =
      Document.atEnd source s' (bytes.foldl Position.advance here) := by
  induction reads generalizing here with
  | nil => rfl
  | @cons s next s' byte rest step tail ih =>
      rw [Document.readFrom, step, List.foldl_cons]
      have document : ∀ value, next.mode ≠ .trailing value := by
        intro value trailing
        obtain ⟨mode, stack⟩ := next
        cases show mode = .trailing value from trailing
        exact inside value (by rw [tail.eq_of_trailing])
      dsimp only
      split
      case h_1 value trailing => exact absurd trailing (document value)
      case h_2 => exact ih inside _

/-- `s.Awaits stack`: a value that starts here is handed to the top of `stack`. -/
inductive Awaits : State → List Frame → Prop
  | value (stack) : Awaits ⟨.value, stack⟩ stack
  | item (items first stack) : Awaits ⟨.item items first, stack⟩ (.list items :: stack)

theorem Awaits.step_eq {s : State} {stack : List Frame} (awaits : s.Awaits stack) {byte : UInt8}
    (solid : isBlank byte = false) (opens : byte ≠ 93) : s.step byte = beginValue stack byte := by
  cases awaits with
  | value => simp only [step, solid, Bool.false_eq_true, if_false]
  | item => simp only [step, solid, Bool.false_eq_true, if_false, if_neg opens]

/-- The bytes that may follow a value: a line break, a comma and the closing brackets. -/
def closers : List UInt8 := [10, 44, 93, 125]

/-- `s.Settles target`: the state is `target`, or lies in a complete number with `target` behind
it. -/
inductive Settles : State → State → Prop
  | self (s) : Settles s s
  | number {numeral : Numeral} {number : Number} (stack : List Frame)
      (value : numeral.value? = some number) (complete : numeral.isComplete = true)
      (ends : ∀ byte ∈ closers, numeral.step byte = .ended) :
      Settles ⟨.number numeral, stack⟩ (finish (.num number) stack)

theorem afterNumber_eq_step (value : Json) (stack : List Frame) (byte : UInt8) :
    afterNumber value stack byte = (finish value stack).step byte := by
  cases stack with
  | nil => rfl
  | cons frame rest => cases frame <;> rfl

/-- A byte that may follow a value does the same behind a number as in the middle of it. -/
theorem Settles.reads {s target s' : State} (settles : s.Settles target) {byte : UInt8}
    {rest : List UInt8} (closes : byte ∈ closers) (reads : target.Reads (byte :: rest) s') :
    s.Reads (byte :: rest) s' := by
  cases settles with
  | self => exact reads
  | number stack value complete ends =>
      cases reads with
      | cons step tail =>
          refine .cons ?_ tail
          rw [← step, ← afterNumber_eq_step]
          simp only [State.step, ends byte closes, value]

theorem Settles.atEnd {s : State} {value : Json} (settles : s.Settles ⟨.done value, []⟩) :
    s.atEnd = .ok value := by
  generalize ht : State.mk (.done value) [] = target at settles
  cases settles with
  | self => subst ht; rfl
  | @number numeral number stack known complete ends =>
      rw [State.atEnd, settle]
      simp only [complete, known, if_true, ← ht]
      rfl

theorem Settles.not_trailing {s target : State} (settles : s.Settles target)
    (inside : ∀ value, target.mode ≠ .trailing value) (value : Json) :
    s.mode ≠ .trailing value := by
  cases settles with
  | self => exact inside value
  | number => exact nofun

/-- A text whose bytes lead behind a value is read as that value. -/
theorem read_of_reads {text : String} {s : State} {value : Json}
    (reads : start.Reads (utf8 text) s) (settles : s.Settles ⟨.done value, []⟩) :
    Document.read (.text text) = .ok ⟨value, none⟩ := by
  have inside := settles.not_trailing nofun
  rw [Document.read, Source.bytes, ← utf8, readFrom_of_reads _ reads inside, Document.atEnd]
  simp only [Source.failure?, settles.atEnd]

end State

end TreeSearch.Json
