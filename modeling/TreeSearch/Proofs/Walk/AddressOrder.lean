import TreeSearch.Proofs.Text.ByteOrder
import TreeSearch.Proofs.Walk.Descent

/-!
# The order of addresses

The visiting order can be read off the paths (`Grammar.Precedes`). A path comes before those that go
on from it. Otherwise two paths part at a node that they share, and there the declared order of the
slots decides, or the positions or keys in one slot. Where no key is repeated, this order is
asymmetric (`Grammar.Precedes.asymm`), and the moments of the visiting order agree with it
(`Walker.precedes_of_lt`).
-/

namespace TreeSearch

variable {σ τ : Type}

/-- `d.Before a b`: of two segments through slots of a node of kind `d`, the slot of the first is
declared earlier, or they go through one slot and the first has the smaller position or key in it.
Keys are compared by their bytes. -/
inductive KindDescriptor.Before (d : KindDescriptor) : Segment → Segment → Prop
  | slot {a b : Segment} {s t : SlotDescriptor} {i j : Nat}
      (first : d.slots[i]? = some s) (second : d.slots[j]? = some t)
      (through : a.slotName? = some s.name) (through' : b.slotName? = some t.name)
      (earlier : i < j) : Before d a b
  | index {name : String} {i j : Nat} (less : i < j) : Before d (.index name i) (.index name j)
  | key {name k l : String} (less : Json.utf8 k < Json.utf8 l) :
      Before d (.key name k) (.key name l)

namespace KindDescriptor

variable {d : KindDescriptor}

/-- A name has one place among the slots of a kind. -/
theorem slot_number_unique (nodup : (d.slots.map SlotDescriptor.name).Nodup) {i j : Nat}
    {s t : SlotDescriptor} (first : d.slots[i]? = some s) (second : d.slots[j]? = some t)
    (same : s.name = t.name) : i = j := by
  obtain ⟨bound, -⟩ := List.getElem?_eq_some_iff.mp first
  apply (List.getElem?_inj (by rwa [List.length_map]) nodup).mp
  rw [List.getElem?_map, List.getElem?_map, first, second, Option.map_some, Option.map_some, same]

theorem Before.asymm (nodup : (d.slots.map SlotDescriptor.name).Nodup) {a b : Segment}
    (before : d.Before a b) : ¬ d.Before b a := by
  intro after
  cases before with
  | slot first second through through' earlier =>
      cases after with
      | slot first' second' throughB throughA earlier' =>
          have here := slot_number_unique nodup first second'
            (Option.some.inj (through.symm.trans throughA))
          have there := slot_number_unique nodup second first'
            (Option.some.inj (through'.symm.trans throughB))
          omega
      | index | key =>
          have same := slot_number_unique nodup first second
            (Option.some.inj (through.symm.trans through'))
          omega
  | index less =>
      cases after with
      | slot first second through through' earlier =>
          have same := slot_number_unique nodup first second
            (Option.some.inj (through.symm.trans through'))
          omega
      | index less' => omega
  | key less =>
      cases after with
      | slot first second through through' earlier =>
          have same := slot_number_unique nodup first second
            (Option.some.inj (through.symm.trans through'))
          omega
      | key less' => exact List.lt_asymm less less'

/-- The nodes that a slot holds are listed in the order of their segments. -/
theorem pairwise_before_held (d : KindDescriptor) (s : SlotDescriptor) {value : SlotValue τ}
    (unique : value.UniqueKeys) : (s.held value).Pairwise fun h h' => d.Before h.1 h'.1 := by
  unfold SlotDescriptor.held
  split
  case h_1 | h_2 => exact List.pairwise_singleton _ _
  case h_3 items arity =>
    rw [List.pairwise_iff_getElem]
    intro i j hi hj less
    rw [List.getElem_mapIdx, List.getElem_mapIdx]
    exact .index less
  case h_4 entries arity =>
    have sorted := Text.pairwise_key_mergeSort entries
    have different : (entries.mergeSort fun a b => a.1 ≤ b.1).Pairwise fun a b => a.1 ≠ b.1 :=
      List.pairwise_map.mp
        (((List.mergeSort_perm entries _).map Prod.fst).nodup_iff.mpr unique)
    rw [List.pairwise_map]
    exact (sorted.and different).imp fun less =>
      .key (Text.utf8_lt_iff.mpr (lt_of_le_of_ne less.1 less.2))
  case h_5 => exact .nil

end KindDescriptor

variable [SyntaxTree τ]

theorem KindDescriptor.mem_held_of_getElem? {d : KindDescriptor} {n : τ} {s : SlotDescriptor}
    {i j : Nat} {h : Segment × τ} (slot : d.slots[i]? = some s)
    (item : (s.held (SyntaxTree.slot n s.name))[j]? = some h) :
    (h.1, h.2, s.polymorphic) ∈ d.held n :=
  List.mem_flatMap.mpr ⟨s, List.mem_of_getElem? slot,
    List.mem_map.mpr ⟨h, List.mem_of_getElem? item, rfl⟩⟩

/-- `g.Precedes root p q`: the path `q` goes on from `p`, or the paths part behind a node of the
tree that they share, and there `p` goes on before `q`. -/
inductive Grammar.Precedes (g : Grammar) (root : τ) : List Segment → List Segment → Prop
  | above {p rest} (longer : rest ≠ []) : Precedes g root p (p ++ rest)
  | apart {x : Place τ} {d a b p q} (shared : g.Reaches (.root root) x)
      (known : g.lookup (SyntaxTree.kind x.node) = some d)
      (held : (d.child? x.node a).isSome) (held' : (d.child? x.node b).isSome)
      (different : a ≠ b) (before : d.Before a b) :
      Precedes g root ((basePath d x.path x.polymorphic).segments ++ a :: p)
        ((basePath d x.path x.polymorphic).segments ++ b :: q)

theorem rel_of_getElem? {α : Type} {R : α → α → Prop} {l : List α} (pairwise : l.Pairwise R)
    {i j : Nat} {a b : α} (first : l[i]? = some a) (second : l[j]? = some b) (less : i < j) :
    R a b := by
  obtain ⟨hi, rfl⟩ := List.getElem?_eq_some_iff.mp first
  obtain ⟨hj, rfl⟩ := List.getElem?_eq_some_iff.mp second
  exact List.pairwise_iff_getElem.mp pairwise i j hi hj less

/-- Where two lists part: what they share and how they go on there is determined. -/
theorem parting_unique {α : Type} {common common' p q p' q' : List α} {a b a' b' : α}
    (different : a ≠ b) (different' : a' ≠ b')
    (first : common ++ a :: p = common' ++ a' :: p')
    (second : common ++ b :: q = common' ++ b' :: q') : common = common' ∧ a = a' ∧ b = b' := by
  induction common generalizing common' with
  | nil =>
      cases common' with
      | nil => exact ⟨rfl, (List.cons.inj first).1, (List.cons.inj second).1⟩
      | cons c rest =>
          exact absurd ((List.cons.inj first).1.trans (List.cons.inj second).1.symm) different
  | cons c rest ih =>
      cases common' with
      | nil =>
          exact absurd ((List.cons.inj first).1.symm.trans (List.cons.inj second).1) different'
      | cons c' rest' =>
          obtain ⟨rfl, tails⟩ := List.cons.inj first
          obtain ⟨rfl, same⟩ := ih tails (List.cons.inj second).2
          exact ⟨rfl, same⟩

namespace Grammar

variable {g : Grammar} {root : τ}

omit [SyntaxTree τ] in
theorem segments_basePath (d : KindDescriptor) (path : Path) (polymorphic : Bool) :
    (basePath d path polymorphic).segments = path.segments ++ kindSegments d polymorphic := by
  rw [basePath_eq_extend, Path.segments_extend]

/-- The path of a place that is reached from another one goes on from there to its node. -/
theorem Reaches.resolve {x y : Place τ} (reaches : g.Reaches x y) (unique : UniqueKeys x.node) :
    ∃ tail, y.path.segments = x.path.segments ++ tail ∧
      g.resolve tail x.node x.polymorphic = some y.node := by
  induction reaches using Relation.ReflTransGen.head_induction_on with
  | refl => exact ⟨[], by rw [List.append_nil], by rw [Grammar.resolve]⟩
  | @head x₁ x₂ mem _ ih =>
      obtain ⟨tail, path, leads⟩ := ih (unique.of_mem_below mem)
      obtain ⟨d, known, h, held, rfl⟩ := exists_held_of_mem_below mem
      have child := (KindDescriptor.mem_held_iff (g.nodup_slots_of_lookup known)
        (unique x₁.node .root)).mp held
      refine ⟨kindSegments d x₁.polymorphic ++ h.1 :: tail, ?_, ?_⟩
      · rw [path, Place.path_child, Path.segments_extend]
        simp
      · rw [g.resolve_step known, child]
        exact leads

theorem Reaches.uniqueKeys {x y : Place τ} (reaches : g.Reaches x y) (unique : UniqueKeys x.node) :
    UniqueKeys y.node := by
  induction reaches with
  | refl => exact unique
  | tail _ mem ih => exact ih.of_mem_below mem

/-- No path of a place ends with a type. -/
theorem Reaches.not_ends_with_kind {y : Place τ} (reaches : g.Reaches (.root root) y)
    (front : List Segment) (typeName : String) : y.path.segments ≠ front ++ [.kind typeName] := by
  intro ends
  rcases Relation.ReflTransGen.cases_tail reaches with rfl | ⟨x, -, mem⟩
  · exact List.append_ne_nil_of_right_ne_nil front (List.cons_ne_nil _ _) ends.symm
  · obtain ⟨d, -, h, held, rfl⟩ := exists_held_of_mem_below mem
    obtain ⟨s, -, within⟩ := KindDescriptor.exists_slot_of_mem_held held
    have name := SlotDescriptor.slotName?_of_mem_held within
    rw [Place.path_child, Path.segments_extend, ← List.append_assoc] at ends
    rw [List.singleton_inj.mp (List.append_inj_right' ends rfl)] at name
    cases name

/-- Places whose slots have the same paths are of the same kind. -/
theorem Reaches.kind_unique (unique : UniqueKeys root) {x x' : Place τ} {d d' : KindDescriptor}
    (reaches : g.Reaches (.root root) x) (reaches' : g.Reaches (.root root) x')
    (known : g.lookup (SyntaxTree.kind x.node) = some d)
    (known' : g.lookup (SyntaxTree.kind x'.node) = some d')
    (same : (basePath d x.path x.polymorphic).segments =
      (basePath d' x'.path x'.polymorphic).segments) : d = d' := by
  have paths : x.path.segments = x'.path.segments := by
    rw [segments_basePath, segments_basePath] at same
    cases flag : x.polymorphic <;> cases flag' : x'.polymorphic <;>
      simp only [flag, flag', kindSegments, Bool.false_eq_true, if_true, if_false,
        List.append_nil] at same
    · exact same
    · exact absurd same (reaches.not_ends_with_kind _ _)
    · exact absurd same.symm (reaches'.not_ends_with_kind _ _)
    · exact List.append_inj_left' same rfl
  obtain ⟨tail, path, leads⟩ := reaches.resolve unique
  obtain ⟨tail', path', leads'⟩ := reaches'.resolve unique
  have tails : tail = tail' := List.append_cancel_left (path.symm.trans (paths.trans path'))
  rw [tails, leads'] at leads
  rw [Option.some.inj leads, known] at known'
  exact Option.some.inj known'

/-- A path does not go on to one that it parts from. -/
theorem append_ne_of_apart {base p q rest : List Segment} {a b : Segment} (different : a ≠ b) :
    base ++ a :: p ++ rest ≠ base ++ b :: q := by
  intro same
  rw [List.append_assoc, List.append_cancel_left_eq, List.cons_append] at same
  exact different (List.cons.inj same).1

/-- Of two paths at most one comes before the other. -/
theorem Precedes.asymm (unique : UniqueKeys root) {p q : List Segment}
    (precedes : g.Precedes root p q) : ¬ g.Precedes root q p := by
  intro follows
  generalize first : q = q' at follows
  generalize second : p = p' at follows
  cases precedes with
  | @above _ rest longer =>
      cases follows with
      | @above _ rest' longer' =>
          rw [← first, List.append_assoc, List.self_eq_append_right] at second
          exact longer (List.append_eq_nil_iff.mp second).1
      | apart _ _ _ _ different _ =>
          rw [second] at first
          exact append_ne_of_apart different.symm first
  | apart shared known held held' different before =>
      cases follows with
      | above longer =>
          rw [← first] at second
          exact append_ne_of_apart different.symm second.symm
      | apart shared' known' _ _ different' before' =>
          obtain ⟨base, same, same'⟩ := parting_unique different different'.symm second first
          cases Reaches.kind_unique unique shared shared' known known' base
          subst same same'
          exact before.asymm (g.nodup_slots_of_lookup known) before'

/-- Paths that go on from a node through two of the nodes that it holds are in the order of the
segments. -/
theorem precedes_of_before (unique : UniqueKeys root) {x y z : Place τ} {d : KindDescriptor}
    {h h' : Segment × τ × Bool} (shared : g.Reaches (.root root) x)
    (known : g.lookup (SyntaxTree.kind x.node) = some d) (held : h ∈ d.held x.node)
    (held' : h' ∈ d.held x.node) (before : d.Before h.1 h'.1)
    (toY : g.Reaches (x.child d h) y) (toZ : g.Reaches (x.child d h') z) :
    g.Precedes root y.path.segments z.path.segments := by
  have nodup := g.nodup_slots_of_lookup known
  have child {h : Segment × τ × Bool} (held : h ∈ d.held x.node) :
      (d.child? x.node h.1).isSome := by
    have found := (KindDescriptor.mem_held_iff nodup
      ((shared.uniqueKeys unique) x.node .root)).mp held
    rw [found]
    rfl
  have different : h.1 ≠ h'.1 := by
    intro same
    rw [same] at before
    exact before.asymm nodup before
  have goesOn {h : Segment × τ × Bool} {y : Place τ} (toY : g.Reaches (x.child d h) y) :
      ∃ rest, y.path.segments = (basePath d x.path x.polymorphic).segments ++ h.1 :: rest := by
    obtain ⟨rest, path⟩ := toY.path
    exact ⟨rest, by rw [path, Path.segments_extend, Place.child, Path.segments_append]; simp⟩
  obtain ⟨rest, pathY⟩ := goesOn toY
  obtain ⟨rest', pathZ⟩ := goesOn toZ
  rw [pathY, pathZ]
  exact .apart shared known (child held) (child held') different before

theorem Descends.precedes {x y : Place τ} (descends : g.Descends x y) :
    g.Precedes root x.path.segments y.path.segments := by
  obtain ⟨tail, longer, path⟩ := descends.path
  rw [path, Path.segments_extend]
  exact .above longer

end Grammar

namespace Walker

variable {w : Walker} {root : τ}

/-- Of two places in the schedule of a place, the one that comes earlier has the path that comes
first. -/
theorem precedes_of_lt (unique : UniqueKeys root) {x y z : Place τ} {depth : Nat} {m m' : Moment}
    (reaches : w.grammar.Reaches (.root root) x) (first : w.Scheduled x depth m (.enter y))
    (second : w.Scheduled x depth m' (.enter z)) (less : m < m') :
    w.grammar.Precedes root y.path.segments z.path.segments := by
  generalize same : Stop.enter y = stop at first
  induction first generalizing m' with
  | tooDeep | unknownKind | slot => cases same
  | enter x depth =>
      cases same
      cases second with
      | enter => exact absurd less (List.lt_irrefl _)
      | inside held scheduled =>
          apply Grammar.Descends.precedes
          have below := Grammar.mem_below_iff.mpr ⟨_, _, held⟩
          exact .head' below ((w.exists_scheduled_iff _).mp ⟨_, scheduled⟩)
  | @inside x depth i j x₁ m stop held scheduled ih =>
      cases second with
      | enter => exact absurd less (List.not_lt_nil _)
      | @inside _ _ i' j' x₂ m' _ held' scheduled' =>
          subst same
          have toY := (w.exists_scheduled_iff _).mp ⟨_, scheduled⟩
          have toZ := (w.exists_scheduled_iff _).mp ⟨_, scheduled'⟩
          have below := Grammar.mem_below_iff.mpr ⟨_, _, held⟩
          obtain @⟨d, slotY, _, _, itemY, known, slot, item⟩ := held
          obtain @⟨_, slotZ, _, _, itemZ, known', slot', item'⟩ := held'
          cases known.symm.trans known'
          have heldY := KindDescriptor.mem_held_of_getElem? slot item
          have heldZ := KindDescriptor.mem_held_of_getElem? slot' item'
          rw [List.cons_lt_cons_iff, List.cons_lt_cons_iff] at less
          rcases less with slots | ⟨rfl, items | ⟨rfl, later⟩⟩
          · refine Grammar.precedes_of_before unique reaches known heldY heldZ ?_ toY toZ
            have through := SlotDescriptor.slotName?_of_mem_held (List.mem_of_getElem? item)
            have through' := SlotDescriptor.slotName?_of_mem_held (List.mem_of_getElem? item')
            exact .slot slot slot' through through' slots
          · cases slot.symm.trans slot'
            refine Grammar.precedes_of_before unique reaches known heldY heldZ ?_ toY toZ
            have keys := (reaches.uniqueKeys unique) x.node .root slotY.name
            have ordered := KindDescriptor.pairwise_before_held d slotY keys
            exact rel_of_getElem? ordered item item' items
          · cases slot.symm.trans slot'
            cases item.symm.trans item'
            exact ih (reaches.tail below) scheduled' later rfl

/-- The visits come in the order of their paths. -/
theorem pairwise_precedes {v : Visitor σ τ} (descends : ∀ s n p, (v.enter s n p).2 = .descend)
    (s : σ) (unique : UniqueKeys root) :
    (entered (w.log v s root).2).Pairwise fun a b =>
      w.grammar.Precedes root a.2.segments b.2.segments := by
  have keeps : w.Keeps v s [(Place.root root).visit 0] (w.Scheduled (.root root) 0) :=
    keeps_visit descends (.root root) 0 s
  obtain ⟨visits, sorted, mem, told⟩ := keeps.enters
  change entered (w.log v s root).2 = _ at told
  rw [told, List.pairwise_map]
  apply sorted.imp_of_mem
  intro a b first second less
  exact precedes_of_lt unique .refl ((mem _ _).mp first).1 ((mem _ _).mp second).1 less

/-- Where no keyed slot repeats a key, a walk that goes on below every node enters no two nodes at
one path, and of two nodes it enters the one first whose path comes first. This holds also for what
a walk has entered when it fails. -/
theorem visits_in_address_order (w : Walker) {v : Visitor σ τ}
    (descends : ∀ s n p, (v.enter s n p).2 = .descend) (s : σ) (root : τ)
    (unique : UniqueKeys root) :
    ((entered (w.log v s root).2).map fun e => e.2.segments).Nodup ∧
    ∀ (i j : Nat) (n m : τ) (p q : Path), (entered (w.log v s root).2)[i]? = some (n, p) →
      (entered (w.log v s root).2)[j]? = some (m, q) →
      (i < j ↔ w.grammar.Precedes root p.segments q.segments) := by
  have ordered := w.pairwise_precedes descends s unique
  constructor
  · rw [List.Nodup, List.pairwise_map]
    apply ordered.imp
    intro a b precedes same
    rw [same] at precedes
    exact precedes.asymm unique precedes
  · intro i j n m p q first second
    constructor
    · exact rel_of_getElem? ordered first second
    · intro precedes
      rcases Nat.lt_trichotomy i j with less | rfl | greater
      · exact less
      · cases first.symm.trans second
        exact absurd precedes (precedes.asymm unique)
      · exact absurd precedes ((rel_of_getElem? ordered second first greater).asymm unique)

end Walker

/-- A package of two files, one of which has declarations. -/
def declaringPackage : Node :=
  (Node.ofKind "Package").withKeyed "Files"
    [("é.go", (Node.ofKind "File").withNode "Name" (Node.ident "main")),
     ("z.go", ((Node.ofKind "File").withNode "Name" (Node.ident "main")).withList "Decls"
      [(Node.ofKind "GenDecl").withList "Specs" [Node.ofKind "ValueSpec"], Node.ofKind "BadDecl"])]

theorem ordered_declaringPackage : declaringPackage.Ordered := by
  have named := (Node.ordered_ofKind "File").withNode "Name" (Node.ordered_ident "main")
  have declares : ((Node.ofKind "GenDecl").withList "Specs" [Node.ofKind "ValueSpec"]).Ordered :=
    (Node.ordered_ofKind _).withList _ (List.forall_mem_singleton.mpr (Node.ordered_ofKind _))
  apply (Node.ordered_ofKind _).withKeyed
  simp only [List.forall_mem_cons]
  refine ⟨named, named.withList "Decls" ?_, nofun⟩
  simp only [List.forall_mem_cons]
  exact ⟨declares, Node.ordered_ofKind _, nofun⟩

theorem visits_in_address_order_of_package :
    UniqueKeys declaringPackage ∧
    (entered ((⟨Grammar.go, 4⟩ : Walker).log .descending () declaringPackage).2).map
        (fun e => e.2.render ".") =
      ["", "Files[z.go]", "Files[z.go].Name", "Files[z.go].Decls[0]",
        "Files[z.go].Decls[0].(*ast.GenDecl).Specs[0]", "Files[z.go].Decls[1]", "Files[é.go]",
        "Files[é.go].Name"] ∧
    ((entered ((⟨Grammar.go, 4⟩ : Walker).log .descending () declaringPackage).2).map
      fun e => e.2.segments).Nodup ∧
    ∀ (i j : Nat) (n m : Node) (p q : Path),
      (entered ((⟨Grammar.go, 4⟩ : Walker).log .descending () declaringPackage).2)[i]? =
        some (n, p) →
      (entered ((⟨Grammar.go, 4⟩ : Walker).log .descending () declaringPackage).2)[j]? =
        some (m, q) →
      (i < j ↔ Grammar.go.Precedes declaringPackage p.segments q.segments) := by
  have unique := ordered_declaringPackage.uniqueKeys
  refine ⟨unique, ?_, Walker.visits_in_address_order _ (fun _ _ _ => rfl) () _ unique⟩
  cbv

end TreeSearch
