import TreeSearch.Grammar.Go
import Mathlib.Data.List.Nodup
import Mathlib.Order.Bounds.Basic

/-!
# The tables that are grammars

A table is read once, and each kind is compared with what has been seen of the table so far. What
this finds is described by positions. A name is repeated at a position if it has occurred before it
(`RepeatsAt`), and a table has a fault at a position if the kind there repeats one of its slots or
is itself repeated (`Grammar.FaultAt`). A table is refused for the first position with a fault
(`Grammar.fault?_eq_some_iff`). If there is none, no two kinds have one name, so a kind is looked up
by its name (`Grammar.lookup_eq_some_iff`).
-/

namespace TreeSearch

/-- If `P` holds at the first position, it is the least one. -/
theorem isLeast_zero_iff {P : Nat → Prop} (here : P 0) {i : Nat} : IsLeast {i | P i} i ↔ i = 0 := by
  constructor
  · intro least
    exact Nat.le_zero.mp (least.2 here)
  · rintro rfl
    exact ⟨here, fun j _ => Nat.zero_le j⟩

/-- If `P` does not hold at the first position, the least one is behind it. -/
theorem isLeast_succ_iff {P : Nat → Prop} (elsewhere : ¬ P 0) {i : Nat} :
    IsLeast {i | P i} i ↔ ∃ j, i = j + 1 ∧ IsLeast {j | P (j + 1)} j := by
  constructor
  · rintro ⟨holds, least⟩
    cases i with
    | zero => exact absurd holds elsewhere
    | succ j => exact ⟨j, rfl, holds, fun k further => Nat.le_of_succ_le_succ (least further)⟩
  · rintro ⟨j, rfl, holds, least⟩
    refine ⟨holds, fun k further => ?_⟩
    cases k with
    | zero => exact absurd further elsewhere
    | succ k => exact Nat.succ_le_succ (least further)

/-- The name at position `i` has occurred before: at an earlier position, or among those seen. -/
def RepeatsAt (seen names : List String) (i : Nat) : Prop :=
  ∃ name, names[i]? = some name ∧ (name ∈ names.take i ∨ name ∈ seen)

theorem repeatsAt_zero {seen rest : List String} {name : String} :
    RepeatsAt seen (name :: rest) 0 ↔ name ∈ seen := by
  simp [RepeatsAt]

/-- Behind a name the name counts as seen. -/
theorem repeatsAt_succ {seen rest : List String} {name : String} {i : Nat} :
    RepeatsAt seen (name :: rest) (i + 1) ↔ RepeatsAt (name :: seen) rest i := by
  simp only [RepeatsAt, List.getElem?_cons_succ, List.take_succ_cons, List.mem_cons]
  constructor
  · rintro ⟨other, here, (same | earlier) | before⟩
    · exact ⟨other, here, .inr (.inl same)⟩
    · exact ⟨other, here, .inl earlier⟩
    · exact ⟨other, here, .inr (.inr before)⟩
  · rintro ⟨other, here, earlier | same | before⟩
    · exact ⟨other, here, .inl (.inr earlier)⟩
    · exact ⟨other, here, .inl (.inl same)⟩
    · exact ⟨other, here, .inr before⟩

/-- Among values of different names, a search by name finds the one that has it. -/
theorem find?_eq_some_iff_of_nodup {α : Type} {nameOf : α → String} {l : List α}
    (nodup : (l.map nameOf).Nodup) {name : String} {a : α} :
    l.find? (fun b => nameOf b = name) = some a ↔ a ∈ l ∧ nameOf a = name := by
  constructor
  · intro found
    exact ⟨List.mem_of_find?_eq_some found, by simpa using List.find?_some found⟩
  · rintro ⟨mem, rfl⟩
    obtain ⟨b, found⟩ : ∃ b, l.find? (fun b => nameOf b = nameOf a) = some b :=
      Option.isSome_iff_exists.mp (List.find?_isSome.mpr ⟨a, mem, by simp⟩)
    have same : nameOf b = nameOf a := by simpa using List.find?_some found
    rw [found, List.inj_on_of_nodup_map nodup (List.mem_of_find?_eq_some found) mem same]

/-- The names of the slots of a kind, in their order. -/
def KindDescriptor.slotNames (d : KindDescriptor) : List String := d.slots.map SlotDescriptor.name

namespace Grammar

/-- The slot that is found repeated is the one at the least position where a name is. -/
theorem repeatedSlot?_eq_some_iff (seen : List String) (slots : List SlotDescriptor)
    (name : String) :
    repeatedSlot? seen slots = some name ↔
      ∃ j, IsLeast {j | RepeatsAt seen (slots.map SlotDescriptor.name) j} j ∧
        (slots.map SlotDescriptor.name)[j]? = some name := by
  induction slots generalizing seen with
  | nil =>
      simp only [repeatedSlot?, List.map_nil, List.getElem?_nil, reduceCtorEq, and_false,
        exists_false]
  | cons s rest ih =>
      rw [repeatedSlot?, List.map_cons]
      by_cases again : s.name ∈ seen
      · simp [again, isLeast_zero_iff (repeatsAt_zero.mpr again)]
      · rw [if_neg again, ih]
        simp only [isLeast_succ_iff (mt repeatsAt_zero.mp again), repeatsAt_succ]
        constructor
        · rintro ⟨j, least, here⟩
          exact ⟨j + 1, ⟨j, rfl, least⟩, here⟩
        · rintro ⟨_, ⟨j, rfl, least⟩, here⟩
          exact ⟨j, least, here⟩

/-- The table has a fault at position `i`: the kind there declares a slot twice, or it has occurred
before. -/
def FaultAt (seen : List String) (kinds : List KindDescriptor) (i : Nat) : Prop :=
  (∃ d, kinds[i]? = some d ∧ ¬ d.slotNames.Nodup) ∨
    RepeatsAt seen (kinds.map KindDescriptor.kind) i

/-- The error for a kind at which a table has a fault: its first repeated slot or, if its slots are
different from each other, the kind itself. -/
inductive ErrorAt (d : KindDescriptor) : GrammarError → Prop
  | slot {j : Nat} {name : String} (first : IsLeast {j | RepeatsAt [] d.slotNames j} j)
      (here : d.slotNames[j]? = some name) : ErrorAt d (.repeatedSlot d.kind name)
  | kind (different : d.slotNames.Nodup) : ErrorAt d (.repeatedKind d.kind)

theorem nodup_slotNames_iff (d : KindDescriptor) :
    d.slotNames.Nodup ↔ repeatedSlot? [] d.slots = none := by
  rw [repeatedSlot?_eq_none_iff]
  simp [KindDescriptor.slotNames]

theorem errorAt_of_repeatedSlot {d : KindDescriptor} {slot : String}
    (found : repeatedSlot? [] d.slots = some slot) (e : GrammarError) :
    ErrorAt d e ↔ e = .repeatedSlot d.kind slot := by
  constructor
  · intro error
    cases error with
    | slot first here =>
        have same := (repeatedSlot?_eq_some_iff [] d.slots _).mpr ⟨_, first, here⟩
        rw [Option.some.inj (found.symm.trans same)]
    | kind different =>
        rw [nodup_slotNames_iff, found] at different
        cases different
  · rintro rfl
    obtain ⟨j, first, here⟩ := (repeatedSlot?_eq_some_iff [] d.slots slot).mp found
    exact .slot first here

theorem errorAt_of_nodup {d : KindDescriptor} (different : d.slotNames.Nodup) (e : GrammarError) :
    ErrorAt d e ↔ e = .repeatedKind d.kind := by
  constructor
  · intro error
    cases error with
    | slot first here =>
        have found := (repeatedSlot?_eq_some_iff [] d.slots _).mpr ⟨_, first, here⟩
        rw [(nodup_slotNames_iff d).mp different] at found
        cases found
    | kind _ => rfl
  · rintro rfl
    exact .kind different

theorem faultAt_zero {seen : List String} {d : KindDescriptor} {rest : List KindDescriptor} :
    FaultAt seen (d :: rest) 0 ↔ ¬ d.slotNames.Nodup ∨ d.kind ∈ seen := by
  simp [FaultAt, repeatsAt_zero]

theorem faultAt_succ {seen : List String} {d : KindDescriptor} {rest : List KindDescriptor}
    {i : Nat} : FaultAt seen (d :: rest) (i + 1) ↔ FaultAt (d.kind :: seen) rest i := by
  simp only [FaultAt, List.getElem?_cons_succ, List.map_cons, repeatsAt_succ]

/-- The error that is found is the one for the least position where the table has a fault. -/
theorem fault?_eq_some_iff (seen : List String) (kinds : List KindDescriptor) (e : GrammarError) :
    fault? seen kinds = some e ↔
      ∃ i d, IsLeast {i | FaultAt seen kinds i} i ∧ kinds[i]? = some d ∧ ErrorAt d e := by
  induction kinds generalizing seen with
  | nil =>
      simp only [fault?, List.getElem?_nil, reduceCtorEq, false_and, and_false, exists_false]
  | cons d rest ih =>
      -- at the first position the slots are looked at before the kind
      have here (fault : FaultAt seen (d :: rest) 0) :
          (∃ i d', IsLeast {i | FaultAt seen (d :: rest) i} i ∧ (d :: rest)[i]? = some d' ∧
            ErrorAt d' e) ↔ ErrorAt d e := by
        simp [isLeast_zero_iff fault]
      rw [fault?]
      cases found : repeatedSlot? [] d.slots with
      | some slot =>
          have twice : ¬ d.slotNames.Nodup := by simp [nodup_slotNames_iff, found]
          rw [here (faultAt_zero.mpr (.inl twice)), errorAt_of_repeatedSlot found]
          simp [eq_comm]
      | none =>
          have different := (nodup_slotNames_iff d).mpr found
          by_cases again : d.kind ∈ seen
          · rw [here (faultAt_zero.mpr (.inr again)), errorAt_of_nodup different]
            simp [again, eq_comm]
          · have none : ¬ FaultAt seen (d :: rest) 0 := by
              rw [faultAt_zero]
              exact not_or.mpr ⟨not_not.mpr different, again⟩
            simp only [if_neg again, ih, isLeast_succ_iff none, faultAt_succ]
            constructor
            · rintro ⟨i, d', least, there, error⟩
              exact ⟨i + 1, d', ⟨i, rfl, least⟩, there, error⟩
            · rintro ⟨_, d', ⟨i, rfl, least⟩, there, error⟩
              exact ⟨i, d', least, there, error⟩

theorem ofKinds_eq_error_iff (kinds : List KindDescriptor) (e : GrammarError) :
    ofKinds kinds = .error e ↔ fault? [] kinds = some e := by
  unfold ofKinds
  split <;> simp_all

/-- A table that is accepted is the table of the grammar. -/
theorem ofKinds_eq_ok_iff (kinds : List KindDescriptor) (g : Grammar) :
    ofKinds kinds = .ok g ↔ g.kinds = kinds := by
  constructor
  · intro accepted
    unfold ofKinds at accepted
    split at accepted
    · cases accepted
    · cases accepted
      rfl
  · rintro rfl
    have unambiguous : fault? [] g.kinds = none :=
      (fault?_eq_none_iff [] g.kinds).mpr ⟨g.nodup_kinds, by simp, g.nodup_slots⟩
    unfold ofKinds
    split
    · simp_all
    · rfl

/-- A kind is looked up by its name. -/
theorem lookup_eq_some_iff (g : Grammar) (name : String) (d : KindDescriptor) :
    g.lookup name = some d ↔ d ∈ g.kinds ∧ d.kind = name :=
  find?_eq_some_iff_of_nodup g.nodup_kinds

theorem contains_iff (g : Grammar) (name : String) :
    g.contains name = true ↔ ∃ d ∈ g.kinds, d.kind = name := by
  rw [contains, Option.isSome_iff_exists]
  simp only [lookup_eq_some_iff]

/-- A table is accepted exactly if no two of its kinds have one name and no kind has two slots of
one name. Then a name is looked up to the kind of the table that has it, and it is contained exactly
if there is one. A table that is refused has a first position at which a kind repeats one of its
slots or has occurred before: the error is that of the first repeated slot of the kind there or, if
it repeats none, that of the kind. -/
theorem ofKinds_accepts_unambiguous_tables (kinds : List KindDescriptor) :
    ((∃ g, ofKinds kinds = .ok g) ↔
      (kinds.map KindDescriptor.kind).Nodup ∧ ∀ d ∈ kinds, d.slotNames.Nodup) ∧
    (∀ g, ofKinds kinds = .ok g → ∀ name,
      (∀ d, g.lookup name = some d ↔ d ∈ kinds ∧ d.kind = name) ∧
      (g.contains name = true ↔ ∃ d ∈ kinds, d.kind = name)) ∧
    ∀ e, ofKinds kinds = .error e ↔
      ∃ i d, IsLeast {i | FaultAt [] kinds i} i ∧ kinds[i]? = some d ∧ ErrorAt d e := by
  refine ⟨?_, ?_, ?_⟩
  · simp only [ofKinds_eq_ok_iff]
    constructor
    · rintro ⟨g, rfl⟩
      exact ⟨g.nodup_kinds, g.nodup_slots⟩
    · rintro ⟨different, slots⟩
      exact ⟨⟨kinds, different, slots⟩, rfl⟩
  · intro g accepted name
    rw [ofKinds_eq_ok_iff] at accepted
    subst accepted
    exact ⟨g.lookup_eq_some_iff name, g.contains_iff name⟩
  · intro e
    rw [ofKinds_eq_error_iff, fault?_eq_some_iff]

/-- A table with a kind that is repeated and repeats two of its slots, in front of another kind that
repeats a slot. -/
def crowdedTable : List KindDescriptor :=
  [Go.kind "Pair" [],
   Go.kind "Pair" [Go.list "X", Go.list "Y", Go.optional "Y", Go.list "X"],
   Go.kind "List" [Go.list "Z", Go.list "Z"]]

/-- The table of Go syntax is accepted. In the crowded table the second slot of the second kind is
the first that is repeated, and without its slots the second kind itself is. -/
theorem ofKinds_accepts_unambiguous_tables_of_kinds :
    (∃ g, ofKinds Go.kinds = .ok g ∧
      g.lookup "Ident" = some (Go.kind "Ident" []) ∧ g.contains "*ast.Ident" = false) ∧
    ofKinds crowdedTable = .error (.repeatedSlot "Pair" "Y") ∧
    ofKinds (crowdedTable.set 1 (Go.kind "Pair" [])) = .error (.repeatedKind "Pair") := by
  refine ⟨?_, ?_, ?_⟩
  · obtain ⟨accepts, finds, -⟩ := ofKinds_accepts_unambiguous_tables Go.kinds
    obtain ⟨g, accepted⟩ := accepts.mpr ⟨go.nodup_kinds, go.nodup_slots⟩
    refine ⟨g, accepted, ((finds g accepted "Ident").1 _).mpr ⟨?_, rfl⟩, ?_⟩
    · decide +kernel
    · have absent : ¬ ∃ d ∈ Go.kinds, d.kind = "*ast.Ident" := by decide +kernel
      exact Bool.eq_false_iff.mpr (mt (finds g accepted "*ast.Ident").2.mp absent)
  · have refuses := (ofKinds_accepts_unambiguous_tables crowdedTable).2.2
    refine (refuses _).mpr ⟨1, _, ⟨.inl ⟨_, rfl, by decide⟩, ?_⟩, rfl, .slot (j := 2) ⟨?_, ?_⟩ rfl⟩
    · rintro (_ | i) fault
      · exact absurd (faultAt_zero.mp fault) (by decide)
      · omega
    · exact ⟨"Y", rfl, by decide⟩
    · rintro (_ | _ | j) again
      · exact absurd (repeatsAt_zero.mp again) (by decide)
      · exact absurd (repeatsAt_zero.mp (repeatsAt_succ.mp again)) (by decide)
      · omega
  · have refuses :=
      (ofKinds_accepts_unambiguous_tables (crowdedTable.set 1 (Go.kind "Pair" []))).2.2
    refine (refuses _).mpr ⟨1, _, ⟨.inr ⟨"Pair", rfl, by decide⟩, ?_⟩, rfl, .kind (by decide)⟩
    rintro (_ | i) fault
    · exact absurd (faultAt_zero.mp fault) (by decide)
    · omega

end Grammar

end TreeSearch
