import TreeSearch.Json.Reader
import TreeSearch.Proofs.Json.Values

/-!
# The reader puts fields in order

Whatever the order of the fields in a text, the fields of every object that has been read are in
ascending order. This is kept by every step of the reader, for the value in the making and for all
that wait on the stack.
-/

namespace TreeSearch.Json

theorem ordered_scalar {v : Json} (empty : v.parts = []) (plain : ∀ fields, v ≠ .obj fields) :
    v.Ordered := by
  intro fields contains
  cases contains with
  | self => exact absurd rfl (plain fields)
  | part mem _ =>
      rw [empty] at mem
      cases mem

theorem ordered_arr {items : List Json} (ordered : ∀ item ∈ items, item.Ordered) :
    (arr items).Ordered := by
  intro fields contains
  cases contains with
  | part mem within => exact ordered _ mem fields within

theorem ordered_obj {fields : Fields Json} (ascending : fields.Ascending)
    (ordered : ∀ field ∈ fields, field.2.Ordered) : (obj fields).Ordered := by
  intro inner contains
  cases contains with
  | self => exact ascending
  | part mem within =>
      obtain ⟨field, hfield, rfl⟩ := List.mem_map.mp mem
      exact ordered field hfield inner within

theorem Ordered.cons {v : Json} {items : List Json} (value : v.Ordered)
    (ordered : (arr items).Ordered) : (arr (v :: items)).Ordered :=
  ordered_arr (List.forall_mem_cons.mpr ⟨value, fun _ mem => ordered.part mem⟩)

theorem Ordered.reverse {items : List Json} (ordered : (arr items).Ordered) :
    (arr items.reverse).Ordered :=
  ordered_arr fun _ mem => ordered.part (List.mem_reverse.mp mem)

theorem Ordered.insert {v : Json} {fields : Fields Json} (value : v.Ordered)
    (ordered : (obj fields).Ordered) (name : String) : (obj (fields.insert name v)).Ordered := by
  refine ordered_obj ((ordered fields (.self _)).insert name v) ?_
  intro field mem
  rcases Fields.mem_insert mem with rfl | mem
  · exact value
  · exact ordered.part (List.mem_map_of_mem mem)

/-- The value that a list or an object on the stack has so far. -/
def Frame.held : Frame → Json
  | .list items => .arr items
  | .entry fields _ => .obj fields

/-- The value in the making. -/
def Mode.held : Mode → Json
  | .item items _ | .afterItem items => .arr items
  | .key fields _ | .keyText fields _ _ | .colon fields _ | .afterEntry fields => .obj fields
  | .word _ v | .done v | .trailing v => v
  | .value | .text _ _ | .number _ => .null

namespace State

/-- All values in the making have their fields in order. -/
structure Ordered (s : State) : Prop where
  mode : s.mode.held.Ordered
  stack : ∀ frame ∈ s.stack, frame.held.Ordered

/-- A step that is not refused leads to a state with fields in order. -/
def Delivers (result : Except Refusal State) : Prop := ∀ s, result = .ok s → s.Ordered

theorem delivers_ok {s : State} (ordered : s.Ordered) : Delivers (.ok s) := by
  rintro _ ⟨⟩
  exact ordered

theorem delivers_error (refusal : Refusal) : Delivers (.error refusal) := nofun

theorem ordered_finish {v : Json} (value : v.Ordered) {stack : List Frame}
    (waiting : ∀ frame ∈ stack, frame.held.Ordered) : (finish v stack).Ordered := by
  cases stack with
  | nil => exact ⟨value, waiting⟩
  | cons frame rest =>
      obtain ⟨top, rest⟩ := List.forall_mem_cons.mp waiting
      cases frame with
      | list items => exact ⟨value.cons top, rest⟩
      | entry fields key => exact ⟨value.insert top key, rest⟩

theorem delivers_beginValue {stack : List Frame} (waiting : ∀ frame ∈ stack, frame.held.Ordered)
    (byte : UInt8) : Delivers (beginValue stack byte) := by
  have leaf {mode : Mode} (parts : mode.held.parts = [])
      (plain : ∀ fields, mode.held ≠ .obj fields) : Delivers (.ok ⟨mode, stack⟩) :=
    delivers_ok ⟨ordered_scalar parts plain, waiting⟩
  unfold beginValue
  split
  case h_3 => exact delivers_ok ⟨ordered_obj List.Pairwise.nil nofun, waiting⟩
  case h_7 =>
    split
    · exact leaf rfl nofun
    · exact delivers_error _
  all_goals exact leaf rfl nofun

theorem delivers_afterItem {items : List Json} (list : (arr items).Ordered) {stack : List Frame}
    (waiting : ∀ frame ∈ stack, frame.held.Ordered) (byte : UInt8) :
    Delivers (afterItem items stack byte) := by
  unfold afterItem
  split
  · exact delivers_ok ⟨list, waiting⟩
  · split
    · exact delivers_ok ⟨list, waiting⟩
    · split
      · exact delivers_ok (ordered_finish list.reverse waiting)
      · exact delivers_error _

theorem delivers_afterEntry {fields : Fields Json} (object : (obj fields).Ordered)
    {stack : List Frame} (waiting : ∀ frame ∈ stack, frame.held.Ordered) (byte : UInt8) :
    Delivers (afterEntry fields stack byte) := by
  unfold afterEntry
  split
  · exact delivers_ok ⟨object, waiting⟩
  · split
    · exact delivers_ok ⟨object, waiting⟩
    · split
      · exact delivers_ok (ordered_finish object waiting)
      · exact delivers_error _

theorem delivers_afterDocument {v : Json} (value : v.Ordered) {stack : List Frame}
    (waiting : ∀ frame ∈ stack, frame.held.Ordered) (byte : UInt8) :
    Delivers (.ok (afterDocument v stack byte)) := by
  unfold afterDocument
  split <;> exact delivers_ok ⟨value, waiting⟩

theorem delivers_afterNumber (n : Number) {stack : List Frame}
    (waiting : ∀ frame ∈ stack, frame.held.Ordered) (byte : UInt8) :
    Delivers (afterNumber (.num n) stack byte) := by
  have number : (Json.num n).Ordered := ordered_scalar rfl nofun
  cases stack with
  | nil => exact delivers_afterDocument number waiting byte
  | cons frame rest =>
      obtain ⟨top, rest⟩ := List.forall_mem_cons.mp waiting
      cases frame with
      | list items => exact delivers_afterItem (number.cons top) rest byte
      | entry fields key => exact delivers_afterEntry (number.insert top key) rest byte

section Step

variable {stack : List Frame} (waiting : ∀ frame ∈ stack, frame.held.Ordered) (byte : UInt8)

include waiting

theorem delivers_step_item {items : List Json} (list : (arr items).Ordered) (first : Bool) :
    Delivers (step ⟨.item items first, stack⟩ byte) := by
  have inside : ∀ frame ∈ Frame.list items :: stack, frame.held.Ordered :=
    List.forall_mem_cons.mpr ⟨list, waiting⟩
  simp only [step]
  split
  · exact delivers_ok ⟨list, waiting⟩
  · split
    · split
      · exact delivers_ok (ordered_finish list.reverse waiting)
      · exact delivers_error _
    · exact delivers_beginValue inside byte

theorem delivers_step_key {fields : Fields Json} (object : (obj fields).Ordered) (first : Bool) :
    Delivers (step ⟨.key fields first, stack⟩ byte) := by
  simp only [step]
  split
  · exact delivers_ok ⟨object, waiting⟩
  · split
    · exact delivers_ok ⟨object, waiting⟩
    · split
      · split
        · exact delivers_ok (ordered_finish object waiting)
        · exact delivers_error _
      · exact delivers_error _

theorem delivers_step_keyText {fields : Fields Json} (object : (obj fields).Ordered)
    (bytes : ByteArray) (place : Quotation) :
    Delivers (step ⟨.keyText fields bytes place, stack⟩ byte) := by
  simp only [step]
  split
  · exact delivers_ok ⟨object, waiting⟩
  · exact delivers_error _
  · split
    · exact delivers_ok ⟨object, waiting⟩
    · exact delivers_error _

theorem delivers_step_colon {fields : Fields Json} (object : (obj fields).Ordered) (key : String) :
    Delivers (step ⟨.colon fields key, stack⟩ byte) := by
  have inside : ∀ frame ∈ Frame.entry fields key :: stack, frame.held.Ordered :=
    List.forall_mem_cons.mpr ⟨object, waiting⟩
  simp only [step]
  split
  · exact delivers_ok ⟨object, waiting⟩
  · split
    · exact delivers_ok ⟨ordered_scalar rfl nofun, inside⟩
    · exact delivers_error _

theorem delivers_step_word {v : Json} (value : v.Ordered) (rest : List UInt8) :
    Delivers (step ⟨.word rest v, stack⟩ byte) := by
  cases rest with
  | nil => exact delivers_ok (ordered_finish value waiting)
  | cons expected rest =>
      simp only [step]
      split
      · split
        · exact delivers_ok (ordered_finish value waiting)
        · exact delivers_ok ⟨value, waiting⟩
      · exact delivers_error _

theorem delivers_step_text (bytes : ByteArray) (place : Quotation) :
    Delivers (step ⟨.text bytes place, stack⟩ byte) := by
  have string (text : String) : (Json.str text).Ordered := ordered_scalar rfl nofun
  simp only [step]
  split
  · exact delivers_ok ⟨ordered_scalar rfl nofun, waiting⟩
  · exact delivers_error _
  · split
    · exact delivers_ok (ordered_finish (string _) waiting)
    · exact delivers_error _

theorem delivers_step_number (numeral : Numeral) :
    Delivers (step ⟨.number numeral, stack⟩ byte) := by
  simp only [step]
  split
  · exact delivers_ok ⟨ordered_scalar rfl nofun, waiting⟩
  · exact delivers_error _
  · exact delivers_error _
  · split
    · exact delivers_afterNumber _ waiting byte
    · exact delivers_error _

end Step

/-- Every step keeps the fields in order. -/
theorem Ordered.step {s : State} (ordered : s.Ordered) (byte : UInt8) : Delivers (s.step byte) := by
  obtain ⟨mode, stack⟩ := s
  obtain ⟨made, waiting⟩ := ordered
  cases mode with
  | value =>
      simp only [State.step]
      split
      · exact delivers_ok ⟨made, waiting⟩
      · exact delivers_beginValue waiting byte
  | item items first => exact delivers_step_item waiting byte made first
  | afterItem items => exact delivers_afterItem made waiting byte
  | key fields first => exact delivers_step_key waiting byte made first
  | keyText fields bytes place => exact delivers_step_keyText waiting byte made bytes place
  | colon fields key => exact delivers_step_colon waiting byte made key
  | afterEntry fields => exact delivers_afterEntry made waiting byte
  | word rest v => exact delivers_step_word waiting byte made rest
  | text bytes place => exact delivers_step_text waiting byte bytes place
  | number numeral => exact delivers_step_number waiting byte numeral
  | done v => exact delivers_afterDocument made waiting byte
  | trailing v => exact delivers_ok ⟨made, waiting⟩

theorem Ordered.settle {s s' : State} (ordered : s.Ordered) (settled : s.settle = .ok s') :
    s'.Ordered := by
  unfold State.settle at settled
  split at settled
  case h_1 numeral _ =>
    split at settled
    · split at settled
      case h_1 n _ =>
        cases settled
        have number : (Json.num n).Ordered := ordered_scalar rfl nofun
        exact ordered_finish number ordered.stack
      case h_2 => cases settled
    · cases settled
  case h_2 =>
    cases settled
    exact ordered

theorem Ordered.atEnd {s : State} {v : Json} (ordered : s.Ordered) (ended : s.atEnd = .ok v) :
    v.Ordered := by
  unfold State.atEnd at ended
  cases settled : s.settle with
  | error reason =>
      rw [settled] at ended
      cases ended
  | ok s' =>
      have made := (ordered.settle settled).mode
      rw [settled] at ended
      obtain ⟨mode, stack⟩ := s'
      cases mode with
      | done value => cases ended; exact made
      | trailing value => cases ended; exact made
      | item items first => cases first <;> cases ended
      | key fields first => cases first <;> cases ended
      | _ => cases ended

theorem Ordered.readFrom {source : Source} {s : State} {here : Position} {bytes : List UInt8}
    {document : Document} (ordered : s.Ordered)
    (known : Document.readFrom source s here bytes = .ok document) : document.value.Ordered := by
  induction bytes generalizing s here with
  | nil =>
      rw [Document.readFrom, Document.atEnd] at known
      split at known
      · split at known
        case h_1 v ended =>
          cases known
          exact ordered.atEnd ended
        case h_2 => cases known
      · split at known
        case h_1 v ended =>
          cases known
          have made := ordered.mode
          rw [ended] at made
          exact made
        case h_2 => cases known
  | cons byte rest ih =>
      rw [Document.readFrom] at known
      split at known
      case h_1 => cases known
      case h_2 next stepped =>
        have kept := ordered.step byte next stepped
        split at known
        case h_1 v trailing =>
          cases known
          have made := kept.mode
          rw [trailing] at made
          exact made
        case h_2 => exact ih kept known

end State

/-- Whatever is read has its fields in order. -/
theorem ordered_of_read {source : Source} {document : Document}
    (known : Document.read source = .ok document) : document.value.Ordered := by
  have begin : State.start.Ordered := ⟨ordered_scalar rfl nofun, nofun⟩
  exact begin.readFrom known

end TreeSearch.Json
