import TreeSearch.Proofs.Node.Nodes

/-!
# Equality of nodes

Two nodes are compared member by member, and attributes number by number. Floats are compared as
floats, so equality is only known to be identity where all numbers are integers.
-/

namespace TreeSearch

/-- `all` compares two lists item by item with `r`. -/
structure Itemwise {α : Type} (r : α → α → Bool) (all : List α → List α → Bool) : Prop where
  nil : all [] [] = true
  left (a : α) (as : List α) : all (a :: as) [] = false
  right (b : α) (bs : List α) : all [] (b :: bs) = false
  cons (a : α) (as : List α) (b : α) (bs : List α) :
    all (a :: as) (b :: bs) = (r a b && all as bs)

/-- Lists are equal only to themselves if their items are. -/
theorem Itemwise.eq_true_iff {α : Type} {r : α → α → Bool} {all : List α → List α → Bool}
    (itemwise : Itemwise r all) {as bs : List α}
    (items : ∀ b ∈ bs, ∀ a, r a b = true ↔ a = b) : all as bs = true ↔ as = bs := by
  induction bs generalizing as with
  | nil =>
      cases as with
      | nil => exact iff_of_true itemwise.nil rfl
      | cons a as => exact iff_of_false (by rw [itemwise.left]; exact Bool.false_ne_true) nofun
  | cons b bs ih =>
      cases as with
      | nil => exact iff_of_false (by rw [itemwise.right]; exact Bool.false_ne_true) nofun
      | cons a as =>
          rw [itemwise.cons, Bool.and_eq_true, items b List.mem_cons_self,
            ih fun b mem => items b (List.mem_cons_of_mem _ mem), List.cons.injEq]

/-- The comparison of named values. -/
def sameNamed {α : Type} (r : α → α → Bool) (a b : String × α) : Bool := a.1 == b.1 && r a.2 b.2

theorem sameNamed_eq_true_iff {α : Type} {r : α → α → Bool} {a b : String × α}
    (value : r a.2 b.2 = true ↔ a.2 = b.2) : sameNamed r a b = true ↔ a = b := by
  rw [sameNamed, Bool.and_eq_true, beq_iff_eq, value, Prod.ext_iff]

namespace Json

theorem itemwise_beqItems : Itemwise beq beqItems := by
  constructor <;> simp [beqItems]

theorem itemwise_beqFields : Itemwise (sameNamed beq) beqFields := by
  constructor <;> simp [beqFields, sameNamed]

theorem beq_eq_true_iff {a b : Json} (integers : b.IntegersOnly) : beq a b = true ↔ a = b := by
  induction b using parts_induction generalizing a with
  | step b ih =>
      cases b with
      | num n =>
          obtain ⟨i, rfl, -⟩ := integers n (.self _)
          cases a with
          | num m => cases m <;> simp [beq, BEq.beq]
          | _ => simp [beq]
      | arr bs =>
          cases a with
          | arr as =>
              rw [beq, arr.injEq]
              exact itemwise_beqItems.eq_true_iff fun b mem a => ih b mem (integers.part mem)
          | _ => simp [beq]
      | obj bs =>
          cases a with
          | obj as =>
              rw [beq, obj.injEq]
              apply itemwise_beqFields.eq_true_iff
              intro b mem a
              have part : b.2 ∈ (obj bs).parts := List.mem_map_of_mem mem
              exact sameNamed_eq_true_iff (ih b.2 part (integers.part part))
          | _ => simp [beq]
      | _ => cases a <;> simp [beq]

end Json

namespace Node

theorem itemwise_beqItems : Itemwise Node.beq beqItems := by
  constructor <;> simp [beqItems]

theorem itemwise_beqEntries : Itemwise (sameNamed Node.beq) beqEntries := by
  constructor <;> simp [beqEntries, sameNamed]

theorem itemwise_beqFields : Itemwise (sameNamed Member.beq) Member.beqFields := by
  constructor <;> simp [Member.beqFields, sameNamed]

/-- Members are equal only to themselves if the nodes and the attributes in them are. -/
theorem member_beq_eq_true_iff {m other : Member}
    (nodes : ∀ child ∈ m.nodes, ∀ n, Node.beq n child = true ↔ n = child)
    (integers : ∀ value, m = .attr value → value.IntegersOnly) :
    Member.beq other m = true ↔ other = m := by
  cases m with
  | node child =>
      cases other with
      | node n => rw [Member.beq, Member.node.injEq, nodes child (List.mem_singleton.mpr rfl)]
      | _ => simp [Member.beq]
  | list items =>
      cases other with
      | list others =>
          rw [Member.beq, Member.list.injEq]
          exact itemwise_beqItems.eq_true_iff nodes
      | _ => simp [Member.beq]
  | map entries =>
      cases other with
      | map others =>
          rw [Member.beq, Member.map.injEq]
          apply itemwise_beqEntries.eq_true_iff
          exact fun b mem a => sameNamed_eq_true_iff (nodes b.2 (List.mem_map_of_mem mem) a.2)
      | _ => simp [Member.beq]
  | attr value =>
      cases other with
      | attr v =>
          rw [Member.beq, Member.attr.injEq]
          exact Json.beq_eq_true_iff (integers value rfl)
      | _ => simp [Member.beq]

/-- A node whose numbers are integers equals only itself. -/
theorem beq_eq_true_iff {a b : Node} (integers : b.IntegersOnly) : (a == b) = true ↔ a = b := by
  change Node.beq a b = true ↔ a = b
  induction b using nodes_induction generalizing a with
  | step b ih =>
      have members : ∀ member ∈ b.members, ∀ other,
          Member.beq other member.2 = true ↔ other = member.2 := by
        rintro ⟨name, m⟩ mem other
        apply member_beq_eq_true_iff
        · exact fun child within n => ih name m mem child within (integers.child mem within)
        · exact integers b (.self b) name m mem
      obtain ⟨kind, bs⟩ := b
      obtain ⟨other, as⟩ := a
      rw [Node.beq, Bool.and_eq_true, beq_iff_eq, mk.injEq]
      apply and_congr_right'
      apply itemwise_beqFields.eq_true_iff
      exact fun b mem a => sameNamed_eq_true_iff (members b mem a.2)

end Node

end TreeSearch
