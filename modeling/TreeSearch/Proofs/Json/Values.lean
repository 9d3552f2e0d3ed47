import TreeSearch.Json.Basic
import Mathlib.Algebra.Group.Int.Defs
import Mathlib.Data.String.Basic

/-!
# Values with ordered fields

The fields of an object are kept in ascending order by `Fields.insert`, and fields that are already
ascending are what `Fields.ofList` makes of them. `Json.normal` is what is left of a value when the
fields of every object in it are put in order, and it is the value itself if they are in order.
-/

namespace TreeSearch

namespace Fields

variable {α β : Type}

/-- The names are in ascending order, so that none occurs twice. -/
def Ascending (fields : Fields α) : Prop := fields.Pairwise fun a b => a.1 < b.1

theorem Ascending.nodup {fields : Fields α} (ascending : Ascending fields) :
    (fields.map Prod.fst).Nodup :=
  List.pairwise_map.mpr (ascending.imp fun h => ne_of_lt h)

theorem ascending_map (f : α → β) (fields : Fields α) :
    Ascending (fields.map fun field => (field.1, f field.2)) ↔ Ascending fields :=
  List.pairwise_map

theorem get?_insert_self (name : String) (value : α) (fields : Fields α) :
    get? name (fields.insert name value) = some value := by
  induction fields with
  | nil => rw [insert, get?, if_pos rfl]
  | cons field rest ih =>
      obtain ⟨other, old⟩ := field
      rw [insert]
      by_cases less : name < other
      · rw [if_pos less, get?, if_pos rfl]
      · by_cases same : name = other
        · rw [if_neg less, if_pos same, get?, if_pos rfl]
        · rw [if_neg less, if_neg same, get?, if_neg same, ih]

theorem get?_insert_of_ne {name other : String} (different : other ≠ name) (value : α)
    (fields : Fields α) : get? other (fields.insert name value) = get? other fields := by
  induction fields with
  | nil => simp only [insert, get?, if_neg different]
  | cons field rest ih =>
      obtain ⟨first, old⟩ := field
      rw [insert]
      by_cases less : name < first
      · rw [if_pos less, get?, if_neg different]
      · by_cases same : name = first
        · rw [if_neg less, if_pos same, get?, get?, if_neg different, if_neg (same ▸ different)]
        · rw [if_neg less, if_neg same, get?, get?, ih]

theorem mem_insert {name : String} {value : α} {fields : Fields α} {field : String × α}
    (mem : field ∈ fields.insert name value) : field = (name, value) ∨ field ∈ fields := by
  induction fields with
  | nil => exact .inl (List.mem_singleton.mp mem)
  | cons first rest ih =>
      obtain ⟨other, old⟩ := first
      rw [insert] at mem
      split at mem
      · exact List.mem_cons.mp mem
      · split at mem
        · rcases List.mem_cons.mp mem with h | h
          · exact .inl h
          · exact .inr (List.mem_cons_of_mem _ h)
        · rcases List.mem_cons.mp mem with h | h
          · exact .inr (h ▸ List.mem_cons_self)
          · exact (ih h).imp id (List.mem_cons_of_mem _)

theorem Ascending.insert {fields : Fields α} (ascending : Ascending fields) (name : String)
    (value : α) : Ascending (fields.insert name value) := by
  induction fields with
  | nil => exact List.pairwise_singleton _ _
  | cons first rest ih =>
      obtain ⟨other, old⟩ := first
      obtain ⟨least, tail⟩ := List.pairwise_cons.mp ascending
      rw [Fields.insert]
      split
      case isTrue less =>
        refine List.pairwise_cons.mpr ⟨?_, ascending⟩
        intro field mem
        rcases List.mem_cons.mp mem with rfl | mem
        · exact less
        · exact lt_trans less (least field mem)
      case isFalse notLess =>
        split
        case isTrue same =>
          subst same
          exact List.pairwise_cons.mpr ⟨least, tail⟩
        case isFalse different =>
          refine List.pairwise_cons.mpr ⟨?_, ih tail⟩
          intro field mem
          rcases mem_insert mem with rfl | mem
          · exact lt_of_le_of_ne (le_of_not_gt notLess) (Ne.symm different)
          · exact least field mem

/-- A name behind all others is put at the end. -/
theorem insert_last {name : String} (value : α) {fields : Fields α}
    (last : ∀ field ∈ fields, field.1 < name) :
    fields.insert name value = fields ++ [(name, value)] := by
  induction fields with
  | nil => rfl
  | cons first rest ih =>
      obtain ⟨other, old⟩ := first
      have less : other < name := last _ List.mem_cons_self
      rw [insert, if_neg (not_lt_of_gt less), if_neg (ne_of_gt less),
        ih fun field mem => last field (List.mem_cons_of_mem _ mem), List.cons_append]

/-- A name behind all others may be put in before or after another one. -/
theorem insert_insert_last {name later : String} (value other : α) {fields : Fields α}
    (different : name ≠ later) (last : ∀ field ∈ fields, field.1 < later) :
    (fields.insert name value).insert later other =
      (fields ++ [(later, other)]).insert name value := by
  induction fields with
  | nil =>
      rcases lt_or_gt_of_ne different with less | greater
      · simp only [insert, List.nil_append, if_pos less, if_neg (not_lt_of_gt less),
          if_neg (Ne.symm different)]
      · simp only [insert, List.nil_append, if_pos greater, if_neg (not_lt_of_gt greater),
          if_neg different]
  | cons first rest ih =>
      obtain ⟨front, old⟩ := first
      have less : front < later := last _ List.mem_cons_self
      have rest_last : ∀ field ∈ rest, field.1 < later :=
        fun field mem => last field (List.mem_cons_of_mem _ mem)
      rw [List.cons_append, insert, insert]
      split
      case isTrue before =>
        have names : ∀ field ∈ (name, value) :: (front, old) :: rest, field.1 < later := by
          intro field mem
          rcases List.mem_cons.mp mem with rfl | mem
          · exact lt_trans before less
          · exact last field mem
        rw [insert_last other names]
        rfl
      case isFalse =>
        split
        case isTrue =>
          have names : ∀ field ∈ (name, value) :: rest, field.1 < later := by
            intro field mem
            rcases List.mem_cons.mp mem with rfl | mem
            · rename_i same
              exact same ▸ less
            · exact rest_last field mem
          rw [insert_last other names]
          rfl
        case isFalse =>
          rw [insert, if_neg (not_lt_of_gt less), if_neg (ne_of_gt less), ih rest_last]

theorem foldl_insert_of_ascending {front fields : Fields α}
    (ascending : Ascending (front ++ fields)) :
    fields.foldl (fun fields (name, value) => fields.insert name value) front =
      front ++ fields := by
  induction fields generalizing front with
  | nil => exact (List.append_nil front).symm
  | cons first rest ih =>
      obtain ⟨name, value⟩ := first
      have last := (List.pairwise_append.mp ascending).2.2
      have put : front.insert name value = front ++ [(name, value)] :=
        insert_last value fun field mem => last field mem _ List.mem_cons_self
      simp only [List.foldl_cons, put]
      rw [ih (by simpa [Ascending] using ascending)]
      simp

theorem ofList_of_ascending {fields : Fields α} (ascending : Ascending fields) :
    ofList fields = fields :=
  foldl_insert_of_ascending ascending

/-- Putting one name in front of ascending fields is putting it among them. -/
theorem ofList_cons_of_ascending {name : String} (value : α) {fields : Fields α}
    (ascending : Ascending fields) (absent : ∀ field ∈ fields, name ≠ field.1) :
    ofList ((name, value) :: fields) = fields.insert name value := by
  have move : ∀ front : Fields α, Ascending (front ++ fields) →
      fields.foldl (fun fields (name, value) => fields.insert name value)
        (front.insert name value) = (front ++ fields).insert name value := by
    clear ascending
    induction fields with
    | nil => intro front _; rw [List.foldl_nil, List.append_nil]
    | cons first rest ih =>
        intro front ascending
        obtain ⟨later, other⟩ := first
        have last := (List.pairwise_append.mp ascending).2.2
        have put : (front.insert name value).insert later other =
            (front ++ [(later, other)]).insert name value :=
          insert_insert_last value other (absent _ List.mem_cons_self)
            fun field mem => last field mem _ List.mem_cons_self
        simp only [List.foldl_cons, put]
        rw [ih (fun field mem => absent field (List.mem_cons_of_mem _ mem)) _
          (by simpa [Ascending] using ascending)]
        simp
  exact move [] ascending

theorem ascending_ofList (entries : List (String × α)) : Ascending (ofList entries) := by
  have keep : ∀ front : Fields α, Ascending front →
      Ascending (entries.foldl (fun fields (name, value) => fields.insert name value) front) := by
    induction entries with
    | nil => exact fun _ ascending => ascending
    | cons first rest ih =>
        intro front ascending
        exact ih _ (ascending.insert first.1 first.2)
  exact keep [] List.Pairwise.nil

theorem mem_of_mem_ofList {entries : List (String × α)} {field : String × α}
    (mem : field ∈ ofList entries) : field ∈ entries := by
  have keep : ∀ front : Fields α,
      field ∈ entries.foldl (fun fields (name, value) => fields.insert name value) front →
        field ∈ entries ∨ field ∈ front := by
    clear mem
    induction entries with
    | nil => exact fun _ h => .inr h
    | cons first rest ih =>
        intro front h
        rcases ih _ h with h | h
        · exact .inl (List.mem_cons_of_mem _ h)
        · rcases mem_insert h with rfl | h
          · exact .inl List.mem_cons_self
          · exact .inr h
  rcases keep [] mem with h | h
  · exact h
  · cases h

end Fields

namespace Json

/-- The values directly in a value. -/
def parts : Json → List Json
  | .arr items => items
  | .obj fields => fields.map Prod.snd
  | _ => []

theorem sizeOf_lt_of_mem_parts {v part : Json} (mem : part ∈ v.parts) : sizeOf part < sizeOf v := by
  cases v with
  | arr items =>
      have := List.sizeOf_lt_of_mem (show part ∈ items from mem)
      simp only [arr.sizeOf_spec]
      omega
  | obj fields =>
      obtain ⟨field, hfield, rfl⟩ := List.mem_map.mp mem
      have := List.sizeOf_lt_of_mem hfield
      obtain ⟨name, value⟩ := field
      simp only [obj.sizeOf_spec, Prod.mk.sizeOf_spec] at this ⊢
      omega
  | _ => cases mem

/-- What holds of a value if it holds of the values directly in it holds of every value. -/
theorem parts_induction {P : Json → Prop} (step : ∀ v, (∀ part ∈ v.parts, P part) → P v)
    (v : Json) : P v :=
  step v fun part mem =>
    have := sizeOf_lt_of_mem_parts mem
    parts_induction step part
termination_by sizeOf v

/-- `v.Contains part`: the value `part` occurs anywhere in the value `v`, or is `v`. -/
inductive Contains : Json → Json → Prop
  | self (v) : Contains v v
  | part {v part inner} (mem : part ∈ v.parts) (within : Contains part inner) : Contains v inner

theorem Contains.trans {a b c : Json} (first : a.Contains b) (second : b.Contains c) :
    a.Contains c := by
  induction first with
  | self => exact second
  | part mem _ ih => exact .part mem (ih second)

/-- The fields of every object in the value are in ascending order. -/
def Ordered (v : Json) : Prop := ∀ fields, v.Contains (.obj fields) → Fields.Ascending fields

/-- Every number in the value is an integer of 64 bits, signed or unsigned. -/
def IntegersOnly (v : Json) : Prop :=
  ∀ n, v.Contains (.num n) → ∃ i : Int, n = .int i ∧ -2 ^ 63 ≤ i ∧ i < 2 ^ 64

theorem Ordered.part {v part : Json} (ordered : v.Ordered) (mem : part ∈ v.parts) : part.Ordered :=
  fun fields within => ordered fields (.part mem within)

theorem IntegersOnly.part {v part : Json} (integers : v.IntegersOnly) (mem : part ∈ v.parts) :
    part.IntegersOnly :=
  fun n within => integers n (.part mem within)

theorem integersOnly_int {i : Int} (least : -2 ^ 63 ≤ i) (greatest : i < 2 ^ 64) :
    (num (.int i)).IntegersOnly := by
  intro n contains
  cases contains with
  | self => exact ⟨i, rfl, least, greatest⟩
  | part mem _ => cases mem

theorem integersOnly_str (text : String) : (str text).IntegersOnly := by
  intro n contains
  cases contains with
  | part mem _ => cases mem

theorem integersOnly_arr {items : List Json} (integers : ∀ item ∈ items, item.IntegersOnly) :
    (arr items).IntegersOnly := by
  intro n contains
  cases contains with
  | part mem within => exact integers _ mem n within

theorem integersOnly_obj {fields : List (String × Json)}
    (integers : ∀ field ∈ fields, field.2.IntegersOnly) : (obj fields).IntegersOnly := by
  intro n contains
  cases contains with
  | part mem within =>
      obtain ⟨field, hfield, rfl⟩ := List.mem_map.mp mem
      exact integers field hfield n within

mutual

/-- The value with the fields of every object in ascending order; of two fields with one name the
later counts. -/
def normal : Json → Json
  | .arr items => .arr (normalItems items)
  | .obj fields => .obj (Fields.ofList (normalFields fields))
  | v => v

/-- The items of a list with the fields of every object in order. -/
def normalItems : List Json → List Json
  | [] => []
  | item :: rest => item.normal :: normalItems rest

/-- The fields of an object with the fields of every object in their values in order. -/
def normalFields : List (String × Json) → List (String × Json)
  | [] => []
  | (name, value) :: rest => (name, value.normal) :: normalFields rest

end

theorem normalItems_eq_map (items : List Json) : normalItems items = items.map normal := by
  induction items with
  | nil => rfl
  | cons item rest ih => rw [normalItems, ih, List.map_cons]

theorem normalFields_eq_map (fields : List (String × Json)) :
    normalFields fields = fields.map fun field => (field.1, field.2.normal) := by
  induction fields with
  | nil => rfl
  | cons field rest ih => rw [normalFields, ih, List.map_cons]

theorem normal_of_ordered {v : Json} (ordered : v.Ordered) : v.normal = v := by
  induction v using parts_induction with
  | step v ih =>
      cases v with
      | arr items =>
          have same : ∀ item ∈ items, item.normal = item :=
            fun item mem => ih item mem (ordered.part mem)
          rw [normal, normalItems_eq_map, List.map_congr_left same, List.map_id']
      | obj fields =>
          have values : ∀ field ∈ fields, (field.1, field.2.normal) = field := by
            intro field mem
            have part : field.2 ∈ (obj fields).parts := List.mem_map_of_mem mem
            rw [ih field.2 part (ordered.part part)]
          rw [normal, normalFields_eq_map, List.map_congr_left values, List.map_id',
            Fields.ofList_of_ascending (ordered fields (.self _))]
      | _ => rfl

end Json

end TreeSearch
