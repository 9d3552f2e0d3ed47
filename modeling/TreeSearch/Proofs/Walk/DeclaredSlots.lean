import TreeSearch.Grammar.Go
import TreeSearch.Proofs.Node.Nodes
import TreeSearch.Proofs.Walk.Simulation
import Mathlib.Logic.Relation

/-!
# What a walk reads of a tree

A walk reads the kind of a node and the slots that are declared for it, and of a slot no more than
its shape and the nodes in it. Trees that agree in this are related (`Grammar.Related`), which is an
equivalence, and walks of related trees are in step (`Walker.inStep_of_seesAlike`). Of the nodes of
a tree dump, members that are not declared or null are not read (`Grammar.related_of_addsUnread`).
-/

namespace TreeSearch

variable {τ τ' τ'' α β γ : Type}

/-- Two slots hold values of one shape, with nodes that `R` relates: those of lists position by
position, and those of keyed maps also under the same keys. -/
inductive SlotValue.Matches (R : τ → τ' → Prop) : SlotValue τ → SlotValue τ' → Prop
  | absent : Matches R .absent .absent
  | node {a b} (related : R a b) : Matches R (.node a) (.node b)
  | list {as bs} (related : List.Forall₂ R as bs) : Matches R (.list as) (.list bs)
  | keyed {as bs} (related : List.Forall₂ (fun a b => a.1 = b.1 ∧ R a.2 b.2) as bs) :
      Matches R (.keyed as) (.keyed bs)
  | scalar : Matches R .scalar .scalar

section Lists

theorem forall₂_comp {R : α → β → Prop} {S : β → γ → Prop} {as : List α} {bs : List β}
    {cs : List γ} (first : List.Forall₂ R as bs) (second : List.Forall₂ S bs cs) :
    List.Forall₂ (Relation.Comp R S) as cs := by
  induction first generalizing cs with
  | nil =>
      cases second
      exact .nil
  | cons head _ ih =>
      cases second with
      | cons head' tail => exact .cons ⟨_, head, head'⟩ (ih tail)

/-- Sorting keeps lists related, if the order does not depend on the side. -/
theorem forall₂_mergeSort {R : α → β → Prop} {le : α → α → Bool} {le' : β → β → Bool}
    {as : List α} {bs : List β}
    (agree : ∀ {a b a' b'}, R a b → R a' b' → le a a' = le' b b')
    (related : List.Forall₂ R as bs) :
    List.Forall₂ R (as.mergeSort le) (bs.mergeSort le') := by
  have length := related.length_eq
  have pairs : ∀ z ∈ as.zip bs, R z.1 z.2 := fun z mem => List.forall₂_zip related mem
  have firsts : (as.zip bs).map Prod.fst = as := List.map_fst_zip length.le
  have seconds : (as.zip bs).map Prod.snd = bs := List.map_snd_zip length.ge
  -- the pairs are sorted by their first parts, which sorts the second parts as well
  let sorted := (as.zip bs).mergeSort fun z z' => le z.1 z'.1
  have sortedFirsts : sorted.map Prod.fst = as.mergeSort le := by
    rw [List.map_mergeSort (s := le) (f := Prod.fst) fun _ _ _ _ => rfl, firsts]
  have sortedSeconds : sorted.map Prod.snd = bs.mergeSort le' := by
    rw [List.map_mergeSort (s := le') (f := Prod.snd) fun z mem z' mem' =>
      agree (pairs z mem) (pairs z' mem'), seconds]
  rw [← sortedFirsts, ← sortedSeconds, List.forall₂_map_left_iff, List.forall₂_map_right_iff,
    List.forall₂_same]
  exact fun z mem => pairs z (List.mem_mergeSort.mp mem)

theorem forall₂_mapIdx {R : α → β → Prop} {as : List α} {bs : List β}
    (related : List.Forall₂ R as bs) (f : Nat → Segment) :
    List.Forall₂ (fun h h' => h.1 = h'.1 ∧ R h.2 h'.2) (as.mapIdx fun i a => (f i, a))
      (bs.mapIdx fun i b => (f i, b)) := by
  induction related generalizing f with
  | nil => exact .nil
  | cons head _ ih =>
      rw [List.mapIdx_cons, List.mapIdx_cons]
      exact .cons ⟨rfl, head⟩ (ih fun i => f (i + 1))

end Lists

namespace SlotValue.Matches

variable {R : τ → τ' → Prop} {S : τ' → τ'' → Prop} {a : SlotValue τ} {b : SlotValue τ'}
  {c : SlotValue τ''}

theorem refl {R : τ → τ → Prop} (refl : ∀ n, R n n) (a : SlotValue τ) : a.Matches R a := by
  cases a with
  | absent => exact .absent
  | node n => exact .node (refl n)
  | list items => exact .list (List.forall₂_same.mpr fun n _ => refl n)
  | keyed entries => exact .keyed (List.forall₂_same.mpr fun entry _ => ⟨rfl, refl entry.2⟩)
  | scalar => exact .scalar

theorem flip (values : a.Matches R b) : b.Matches (flip R) a := by
  cases values with
  | absent => exact .absent
  | node related => exact .node related
  | list related => exact .list related.flip
  | keyed related => exact .keyed (related.flip.imp fun _ _ h => ⟨h.1.symm, h.2⟩)
  | scalar => exact .scalar

theorem comp (first : a.Matches R b) (second : b.Matches S c) :
    a.Matches (Relation.Comp R S) c := by
  cases first with
  | absent => cases second; exact .absent
  | node related =>
      cases second with
      | node related' => exact .node ⟨_, related, related'⟩
  | list related =>
      cases second with
      | list related' => exact .list (forall₂_comp related related')
  | keyed related =>
      cases second with
      | keyed related' =>
          refine .keyed ((forall₂_comp related related').imp ?_)
          rintro x z ⟨y, first, second⟩
          exact ⟨first.1.trans second.1, y.2, first.2, second.2⟩
  | scalar => cases second; exact .scalar

theorem shape_eq (values : a.Matches R b) : a.shape = b.shape := by
  cases values <;> rfl

/-- The nodes in slots that match are related and have the same segments. -/
theorem held (values : a.Matches R b) (s : SlotDescriptor) :
    List.Forall₂ (fun h h' => h.1 = h'.1 ∧ R h.2 h'.2) (s.held a) (s.held b) := by
  cases values with
  | absent | scalar => cases arity : s.arity <;> simp [SlotDescriptor.held, arity]
  | node related => cases arity : s.arity <;> simp [SlotDescriptor.held, arity, related]
  | list related =>
      cases arity : s.arity <;> simp only [SlotDescriptor.held, arity, List.Forall₂.nil]
      exact forall₂_mapIdx related (.index s.name)
  | keyed related =>
      cases arity : s.arity <;> simp only [SlotDescriptor.held, arity, List.Forall₂.nil]
      rw [List.forall₂_map_left_iff, List.forall₂_map_right_iff]
      refine (forall₂_mergeSort ?_ related).imp ?_
      · intro a b a' b' first second
        rw [first.1, second.1]
      · intro a b entry
        exact ⟨by rw [entry.1], entry.2⟩

end SlotValue.Matches

variable [SyntaxTree τ] [SyntaxTree τ'] [SyntaxTree τ'']

namespace Grammar

/-- Trees that `R` relates are of one kind and, if it is described, their declared slots hold values
that match. -/
def Respects (g : Grammar) (R : τ → τ' → Prop) : Prop :=
  ∀ a b, R a b → SyntaxTree.kind a = SyntaxTree.kind b ∧
    ∀ d, g.lookup (SyntaxTree.kind a) = some d → ∀ s ∈ d.slots,
      (SyntaxTree.slot a s.name).Matches R (SyntaxTree.slot b s.name)

/-- Two trees agree in all that the grammar describes of them, on every level. -/
def Related (g : Grammar) (a : τ) (b : τ') : Prop := ∃ R, g.Respects R ∧ R a b

/-- Trees that `R` relates look the same to a walk: they are of one kind and, if it is described,
the declared slots have the same shapes and hold, in visiting order and under the same segments,
nodes that `R` relates. -/
def SeesAlike (g : Grammar) (R : τ → τ' → Prop) : Prop :=
  ∀ a b, R a b → SyntaxTree.kind a = SyntaxTree.kind b ∧
    ∀ d, g.lookup (SyntaxTree.kind a) = some d → ∀ s ∈ d.slots,
      (SyntaxTree.slot a s.name).shape = (SyntaxTree.slot b s.name).shape ∧
      List.Forall₂ (fun h h' => h.1 = h'.1 ∧ R h.2 h'.2)
        (s.held (SyntaxTree.slot a s.name)) (s.held (SyntaxTree.slot b s.name))

theorem Respects.seesAlike {g : Grammar} {R : τ → τ' → Prop} (respects : g.Respects R) :
    g.SeesAlike R := by
  intro a b related
  obtain ⟨kinds, slots⟩ := respects a b related
  exact ⟨kinds, fun d known s mem =>
    ⟨(slots d known s mem).shape_eq, (slots d known s mem).held s⟩⟩

theorem related_refl (g : Grammar) (a : τ) : g.Related a a := by
  refine ⟨Eq, ?_, rfl⟩
  rintro a _ rfl
  exact ⟨rfl, fun d known s mem => .refl (fun _ => rfl) _⟩

theorem Related.symm {g : Grammar} {a : τ} {b : τ'} (related : g.Related a b) : g.Related b a := by
  obtain ⟨R, respects, here⟩ := related
  refine ⟨flip R, ?_, here⟩
  intro b a related
  obtain ⟨kinds, slots⟩ := respects a b related
  refine ⟨kinds.symm, fun d known s mem => ?_⟩
  rw [← kinds] at known
  exact (slots d known s mem).flip

theorem Related.trans {g : Grammar} {a : τ} {b : τ'} {c : τ''} (first : g.Related a b)
    (second : g.Related b c) : g.Related a c := by
  obtain ⟨R, respects, here⟩ := first
  obtain ⟨S, respects', here'⟩ := second
  refine ⟨Relation.Comp R S, ?_, b, here, here'⟩
  rintro a c ⟨b, related, related'⟩
  obtain ⟨kinds, slots⟩ := respects a b related
  obtain ⟨kinds', slots'⟩ := respects' b c related'
  refine ⟨kinds.trans kinds', fun d known s mem => (slots d known s mem).comp ?_⟩
  rw [kinds] at known
  exact slots' d known s mem

end Grammar

/-- The places are of nodes that `R` relates, and otherwise the same. -/
def Place.Alike (R : τ → τ' → Prop) (x : Place τ) (y : Place τ') : Prop :=
  R x.node y.node ∧ x.path = y.path ∧ x.polymorphic = y.polymorphic

namespace Walker

/-- Walks of trees that look the same are in step. -/
theorem inStep_of_seesAlike {w : Walker} {R : τ → τ' → Prop} (alike : w.grammar.SeesAlike R) :
    w.InStep w (Place.Alike R) Eq 0 where
  maxDepth := rfl
  tooDeep := by
    rintro ⟨a, path, polymorphic⟩ ⟨b, _, _⟩ ⟨-, rfl, rfl⟩
    rfl
  expand := by
    rintro ⟨a, path, polymorphic⟩ ⟨b, _, _⟩ depth ⟨related, rfl, rfl⟩
    obtain ⟨kinds, slots⟩ := alike a b related
    cases known : w.grammar.lookup (SyntaxTree.kind a) with
    | none =>
        apply expand_matches_of_unknown known (kinds ▸ known)
        simp only [kinds]
    | some d =>
        apply expand_matches known (kinds ▸ known)
        refine List.forall₂_same.mpr fun s mem => ?_
        obtain ⟨shapes, held⟩ := slots d known s mem
        refine ⟨rfl, shapes, ?_, ?_⟩
        · simp only [slotFault, shapes]
        · exact held.imp fun h h' same => ⟨same.2, by simp only [Place.child, same.1], rfl⟩

/-- Walks of the two trees are the same for all that kinds and paths can tell. Whatever the start,
two visitors that choose in the same way from the kinds and paths that they are told of are told of
the same kinds and paths, and the walks have the same result. -/
def SameWalks (w : Walker) (a : τ) (b : τ') : Prop :=
  ∀ (σ ρ : Type) (v : Visitor σ τ) (u : Visitor ρ τ') (s : σ) (r : ρ)
    (choose : List (Event String) → Event String → Decision),
    v.DecidesFrom s (Event.map SyntaxTree.kind id) choose →
    u.DecidesFrom r (Event.map SyntaxTree.kind id) choose →
    ∀ (path : Path) (polymorphic : Bool),
      (w.logFrom v s a path polymorphic).2.map (Event.map SyntaxTree.kind id) =
        (w.logFrom u r b path polymorphic).2.map (Event.map SyntaxTree.kind id) ∧
      (w.walkFrom v s a path polymorphic).result = (w.walkFrom u r b path polymorphic).result

theorem sameWalks_of_seesAlike {w : Walker} {R : τ → τ' → Prop} (alike : w.grammar.SeesAlike R)
    {a : τ} {b : τ'} (related : R a b) : w.SameWalks a b := by
  intro σ ρ v u s r choose decides decides' path polymorphic
  have enters : ∀ {x y}, Place.Alike R x y →
      Event.map SyntaxTree.kind id (.enter x.node x.path) =
        Event.map SyntaxTree.kind id (.enter y.node y.path) := by
    rintro x y ⟨nodes, paths, -⟩
    simp only [Event.map, (alike x.node y.node nodes).1, paths]
  obtain ⟨views, ends⟩ := (inStep_of_seesAlike alike).logs decides decides' enters rfl
    (x := ⟨a, path, polymorphic⟩) (y := ⟨b, path, polymorphic⟩) ⟨related, rfl, rfl⟩ 0
  exact ⟨views, ends.eq⟩

end Walker

namespace Member

/-- The members are alike up to one node in them: `a` in the first and `b` in the second. -/
inductive Replaces (a b : Node) : Member → Member → Prop
  | node : Replaces a b (.node a) (.node b)
  | list (before after : List Node) :
      Replaces a b (.list (before ++ a :: after)) (.list (before ++ b :: after))
  | map (before after : List (String × Node)) (key : String) :
      Replaces a b (.map (before ++ (key, a) :: after)) (.map (before ++ (key, b) :: after))

theorem Replaces.slotValue {a b : Node} {m m' : Member} (replaces : Replaces a b m m')
    {R : Node → Node → Prop} (refl : ∀ n, R n n) (related : R a b) :
    m.slotValue.Matches R m'.slotValue := by
  cases replaces with
  | node => exact .node related
  | list before after =>
      apply SlotValue.Matches.list
      apply List.rel_append (List.forall₂_same.mpr fun n _ => refl n)
      exact .cons related (List.forall₂_same.mpr fun n _ => refl n)
  | map before after key =>
      apply SlotValue.Matches.keyed
      apply List.rel_append (List.forall₂_same.mpr fun entry _ => ⟨rfl, refl entry.2⟩)
      exact .cons ⟨rfl, related⟩ (List.forall₂_same.mpr fun entry _ => ⟨rfl, refl entry.2⟩)

end Member

/-- The fields differ in the value of one entry, which a name has in both or in neither. -/
theorem Fields.get?_replace (name key : String) (m m' : α) (before after : Fields α) :
    get? name (before ++ (key, m) :: after) = get? name (before ++ (key, m') :: after) ∨
      get? name (before ++ (key, m) :: after) = some m ∧
        get? name (before ++ (key, m') :: after) = some m' := by
  induction before with
  | nil =>
      by_cases same : name = key
      · exact .inr (by simp [get?, same])
      · exact .inl (by simp [get?, same])
  | cons field rest ih =>
      obtain ⟨other, value⟩ := field
      by_cases same : name = other
      · exact .inl (by simp [get?, same])
      · simpa [get?, same] using ih

namespace Grammar

/-- A member that no walk reads: its name is not declared for the kind, or it is null. -/
def Unread (g : Grammar) (kind name : String) (m : Member) : Prop :=
  (∀ d, g.lookup kind = some d → name ∉ d.slots.map SlotDescriptor.name) ∨ m = .attr .null

/-- `g.AddsUnread a b`: one member that no walk reads is added to a node anywhere in `a`. -/
inductive AddsUnread (g : Grammar) : Node → Node → Prop
  | here {n name m} (new : n.members.get? name = none) (unread : g.Unread n.kind name m) :
      AddsUnread g n (n.withMember name m)
  | inside {kind before after name a b m m'} (adds : AddsUnread g a b)
      (replaces : Member.Replaces a b m m') :
      AddsUnread g (.mk kind (before ++ (name, m) :: after))
        (.mk kind (before ++ (name, m') :: after))

theorem slot_withMember_of_unread {g : Grammar} {n : Node} {name : String} {m : Member}
    (new : n.members.get? name = none) (unread : g.Unread n.kind name m) {d : KindDescriptor}
    (known : g.lookup n.kind = some d) {s : SlotDescriptor} (mem : s ∈ d.slots) :
    (n.withMember name m).slot s.name = n.slot s.name := by
  have members : (n.withMember name m).members = n.members.insert name m := rfl
  rw [Node.slot, Node.slot, members]
  by_cases same : s.name = name
  · have null : m = .attr .null := by
      rcases unread with undeclared | null
      · exact absurd (List.mem_map.mpr ⟨s, mem, same⟩) (undeclared d known)
      · exact null
    rw [same, Fields.get?_insert_self, null, new]
    rfl
  · rw [Fields.get?_insert_of_ne same]

/-- Adding a member that is not read keeps trees related. -/
theorem related_of_addsUnread {g : Grammar} {a b : Node} (adds : g.AddsUnread a b) :
    g.Related a b := by
  refine ⟨fun a b => a = b ∨ g.AddsUnread a b, ?_, .inr adds⟩
  have same : ∀ n : Node, n = n ∨ g.AddsUnread n n := fun n => .inl rfl
  rintro a b (rfl | adds)
  · exact ⟨rfl, fun d known s mem => .refl same _⟩
  · cases adds with
    | here new unread =>
        refine ⟨rfl, fun d known s mem => ?_⟩
        have slot := slot_withMember_of_unread new unread known mem
        change (Node.slot _ _).Matches _ (Node.slot _ _)
        rw [slot]
        exact .refl same _
    | @inside kind before after name a b m m' adds replaces =>
        refine ⟨rfl, fun d known s mem => ?_⟩
        change (Node.slot _ _).Matches _ (Node.slot _ _)
        simp only [Node.slot, Node.members]
        rcases Fields.get?_replace s.name name m m' before after with equal | ⟨here, there⟩
        · rw [equal]
          exact .refl same _
        · rw [here, there]
          exact replaces.slotValue same (.inr adds)

end Grammar

/-- A walk reads of a tree only what the grammar declares. Related trees have the same walks, and so
do nodes of a tree dump if members that are not declared or null are added or removed anywhere. -/
theorem Walker.reads_only_declared_slots (w : Walker) :
    (∀ (a : τ) (b : τ'), w.grammar.Related a b → w.SameWalks a b) ∧
    ∀ a b : Node, Relation.EqvGen w.grammar.AddsUnread a b → w.SameWalks a b := by
  have walks {τ τ' : Type} [SyntaxTree τ] [SyntaxTree τ'] {a : τ} {b : τ'}
      (related : w.grammar.Related a b) : w.SameWalks a b := by
    obtain ⟨R, respects, here⟩ := related
    exact sameWalks_of_seesAlike respects.seesAlike here
  refine ⟨fun a b => walks, ?_⟩
  intro a b changes
  apply walks
  induction changes with
  | rel a b adds => exact Grammar.related_of_addsUnread adds
  | refl a => exact Grammar.related_refl _ a
  | symm a b _ ih => exact ih.symm
  | trans a b c _ _ first second => exact first.trans second

/-- A file with a name. -/
def namedFile : Node := (Node.ofKind "File").withNode "Name" (Node.ident "main")

/-- The file with a position at its name. -/
def positionedFile : Node :=
  (Node.ofKind "File").withNode "Name" ((Node.ident "main").withAttr "NamePos" (.bool true))

/-- The file as another type of tree. -/
def foreignFile : SlotTree :=
  .node "File" [("Size", .scalar), ("Name", .node (.node "Ident" [("Pos", .scalar)]))]

/-- The position is not declared, and the comment is null. -/
theorem addsUnread_positionedFile :
    Relation.EqvGen Grammar.go.AddsUnread (positionedFile.withAttr "Doc" .null) namedFile := by
  have position : Grammar.go.AddsUnread namedFile positionedFile := by
    have undeclared : Grammar.go.Unread "Ident" "NamePos" (.attr (.bool true)) := by
      refine .inl fun d known => ?_
      cases known
      exact List.not_mem_nil
    have name : Grammar.go.AddsUnread (Node.ident "main") _ := .here rfl undeclared
    exact @Grammar.AddsUnread.inside _ "File" [] [] "Name" _ _ _ _ name .node
  have comment : Grammar.go.AddsUnread positionedFile (positionedFile.withAttr "Doc" .null) :=
    .here rfl (.inr rfl)
  exact .symm _ _ (.trans _ _ _ (.rel _ _ position) (.rel _ _ comment))

theorem related_foreignFile : Grammar.go.Related foreignFile namedFile := by
  refine ⟨fun a b => a = foreignFile ∧ b = namedFile ∨
    a = .node "Ident" [("Pos", .scalar)] ∧ b = Node.ident "main", ?_, .inl ⟨rfl, rfl⟩⟩
  rintro a b (⟨rfl, rfl⟩ | ⟨rfl, rfl⟩)
  · refine ⟨rfl, fun d known s mem => ?_⟩
    cases known
    simp only [Grammar.Go.kind, List.mem_cons, List.not_mem_nil, or_false] at mem
    rcases mem with rfl | rfl | rfl
    · exact .absent
    · exact .node (.inr ⟨rfl, rfl⟩)
    · exact .absent
  · refine ⟨rfl, fun d known s mem => ?_⟩
    cases known
    cases mem

theorem reads_only_declared_slots_of_file :
    Grammar.go.Related foreignFile namedFile ∧
    Relation.EqvGen Grammar.go.AddsUnread (positionedFile.withAttr "Doc" .null) namedFile ∧
    (⟨Grammar.go, 1⟩ : Walker).SameWalks foreignFile namedFile ∧
    (⟨Grammar.go, 1⟩ : Walker).SameWalks (positionedFile.withAttr "Doc" .null) namedFile := by
  obtain ⟨related, changed⟩ :=
    @Walker.reads_only_declared_slots SlotTree Node _ _ ⟨Grammar.go, 1⟩
  exact ⟨related_foreignFile, addsUnread_positionedFile, related _ _ related_foreignFile,
    changed _ _ addsUnread_positionedFile⟩

end TreeSearch
