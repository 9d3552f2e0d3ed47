import TreeSearch.Proofs.Grammar.Tables
import TreeSearch.Proofs.Query.Search
import TreeSearch.Proofs.Walk.Lineage

/-!
# Searching by kind and by type

A query for a kind compares its name with the kind of a node and with the type of the kind. Where
the types are the kinds with a mark in front (`Grammar.TypesMarked`), and a name does not begin with
the mark itself, the name and the marked name select the same nodes of known kinds
(`Query.selects_marked`). In a walk without fault every node is of a known kind, and a walk that
fails does so whatever is looked for. So it does not matter by which of the two names one searches.
-/

namespace TreeSearch

variable {σ τ : Type}

/-- The type of each kind is its name with the mark in front, and no kind begins with the mark. -/
def Grammar.TypesMarked (g : Grammar) (mark : String) : Prop :=
  ∀ d ∈ g.kinds, d.typeName = mark ++ d.kind ∧ ¬ mark.toList <+: d.kind.toList

instance (g : Grammar) (mark : String) : Decidable (g.TypesMarked mark) :=
  inferInstanceAs (Decidable (∀ d ∈ g.kinds, _ ∧ _))

theorem Grammar.go_typesMarked : Grammar.go.TypesMarked "*ast." := by decide +kernel

/-- A name that does not begin with the mark is not a marked name. -/
theorem ne_marked {mark name : String} (unmarked : ¬ mark.toList <+: name.toList)
    (other : String) : name ≠ mark ++ other := by
  rintro rfl
  apply unmarked
  rw [String.toList_append]
  exact List.prefix_append _ _

variable [SyntaxTree τ]

namespace Query

theorem selects_kind_iff {g : Grammar} {n : τ} {d : KindDescriptor}
    (known : g.lookup (SyntaxTree.kind n) = some d) (name : String) (path : Path) :
    (kind name).selects g n path = true ↔ SyntaxTree.kind n = name ∨ d.typeName = name := by
  simp [selects, known]

/-- Of a node of known kind it does not matter whether the name of the kind is marked. -/
theorem selects_marked {g : Grammar} {mark : String} (marked : g.TypesMarked mark) {n : τ}
    (known : g.contains (SyntaxTree.kind n) = true) {name : String}
    (unmarked : ¬ mark.toList <+: name.toList) (path : Path) :
    (kind name).selects g n path = (kind (mark ++ name)).selects g n path := by
  obtain ⟨d, found⟩ := Option.isSome_iff_exists.mp known
  obtain ⟨mem, same⟩ := (g.lookup_eq_some_iff _ d).mp found
  obtain ⟨type, unmarkedKind⟩ := marked d mem
  rw [same] at type unmarkedKind
  have plain : (kind name).selects g n path = true ↔ SyntaxTree.kind n = name := by
    rw [selects_kind_iff found, type]
    exact or_iff_left (ne_marked unmarked _).symm
  have withMark : (kind (mark ++ name)).selects g n path = true ↔ SyntaxTree.kind n = name := by
    rw [selects_kind_iff found, type, String.append_right_inj]
    exact or_iff_right (ne_marked unmarkedKind _)
  rw [Bool.eq_iff_iff]
  exact plain.trans withMark.symm

end Query

namespace Walker

/-- In a walk without fault that goes on below every node, every node is of a known kind. -/
theorem contains_of_mem_entered (w : Walker) {v : Visitor σ τ}
    (descends : ∀ s n p, (v.enter s n p).2 = .descend) {s : σ} {root : τ}
    (ok : (w.walk v s root).result = .ok ()) {n : τ} {p : Path}
    (mem : (n, p) ∈ entered (w.log v s root).2) :
    w.grammar.contains (SyntaxTree.kind n) = true := by
  have always : v.DecidedBy fun _ _ => true := descends
  obtain ⟨earlier, later, told⟩ := List.append_of_mem (mem_entered_iff.mp mem)
  obtain ⟨ancestors, y, rfl, rfl, -, -, s', -, okHere⟩ :=
    exists_lineage w v (.root root) 0 s told
  obtain ⟨-, below⟩ := visit_ok_inv w always (okHere ok)
  obtain ⟨⟨d, known, -⟩, -⟩ := below rfl
  rw [Grammar.contains, known]
  rfl

theorem find_kind_eq_find_marked (w : Walker) {mark : String}
    (marked : w.grammar.TypesMarked mark) (root : τ) {name : String}
    (unmarked : ¬ mark.toList <+: name.toList) :
    w.find (.kind name) root = w.find (.kind (mark ++ name)) root := by
  have descends : ∀ s n p, ((Visitor.descending (τ := τ)).enter s n p).2 = .descend :=
    fun _ _ _ => rfl
  rw [find_eq w descends (), find_eq w descends ()]
  cases ends : (w.walk .descending () root).result with
  | error e => rfl
  | ok _ =>
      have same : ∀ e ∈ entered (w.log .descending () root).2,
          (Query.kind name).selects w.grammar e.1 e.2 =
            (Query.kind (mark ++ name)).selects w.grammar e.1 e.2 := by
        intro e visited
        apply Query.selects_marked marked _ unmarked
        exact contains_of_mem_entered w descends ends visited
      simp only [Except.map, Query.select, List.filter_congr same]

/-- In Go syntax, the searches for a kind and for the type of the kind agree: they find the same
nodes in the same order, or fail with the same error. -/
theorem kind_and_type_searches_agree (maxDepth : Nat) (root : τ) (name : String)
    (unmarked : ¬ "*ast.".toList <+: name.toList) :
    (⟨Grammar.go, maxDepth⟩ : Walker).find (.kind name) root =
      (⟨Grammar.go, maxDepth⟩ : Walker).find (.kind ("*ast." ++ name)) root :=
  find_kind_eq_find_marked _ Grammar.go_typesMarked root unmarked

end Walker

/-- An expression whose operand has a type in the place of its kind. -/
def mistypedParen : SlotTree :=
  .node "ParenExpr" [("X", .node (.node "*ast.Ident" []))]

/-- The identifier of the package is found by its kind and by its type. A node whose kind looks like
the type is not found by either name: the walk fails at it. -/
theorem kind_and_type_searches_agree_of_ident :
    ¬ "*ast.".toList <+: "Ident".toList ∧
    (⟨Grammar.go, 2⟩ : Walker).find (.kind "Ident") samplePackage =
      .ok [⟨.ident "main", .ofSegments [.key "Files" "a.go", .field "Name"]⟩] ∧
    (⟨Grammar.go, 2⟩ : Walker).find (.kind "*ast.Ident") samplePackage =
      .ok [⟨.ident "main", .ofSegments [.key "Files" "a.go", .field "Name"]⟩] ∧
    (⟨Grammar.go, 2⟩ : Walker).find (.kind "Ident") mistypedParen =
      .error (.unknownKind "*ast.Ident" (.ofSegments [.field "X"])) ∧
    (⟨Grammar.go, 2⟩ : Walker).find (.kind "*ast.Ident") mistypedParen =
      .error (.unknownKind "*ast.Ident" (.ofSegments [.field "X"])) := by
  have unmarked : ¬ "*ast.".toList <+: "Ident".toList := by decide
  have searches {τ : Type} [SyntaxTree τ] (root : τ) := Walker.find_eq (v := .descending)
    ⟨Grammar.go, 2⟩ (fun _ _ _ => rfl) () (.kind "Ident") root
  have found : (⟨Grammar.go, 2⟩ : Walker).find (.kind "Ident") samplePackage =
      .ok [⟨.ident "main", .ofSegments [.key "Files" "a.go", .field "Name"]⟩] := by
    have ok : ((⟨Grammar.go, 2⟩ : Walker).walk .descending () samplePackage).result = .ok () := by
      cbv
    rw [searches, ok]
    refine congrArg Except.ok ?_
    cbv
  have failed : (⟨Grammar.go, 2⟩ : Walker).find (.kind "Ident") mistypedParen =
      .error (.unknownKind "*ast.Ident" (.ofSegments [.field "X"])) := by
    have error : ((⟨Grammar.go, 2⟩ : Walker).walk .descending () mistypedParen).result =
        .error (.unknownKind "*ast.Ident" (.ofSegments [.field "X"])) := by
      cbv
    rw [searches, error]
    rfl
  have agree {τ : Type} [SyntaxTree τ] (root : τ) :
      (⟨Grammar.go, 2⟩ : Walker).find (.kind "Ident") root =
        (⟨Grammar.go, 2⟩ : Walker).find (.kind "*ast.Ident") root :=
    Walker.kind_and_type_searches_agree 2 root "Ident" unmarked
  exact ⟨unmarked, found, (agree _).symm.trans found, failed, (agree _).symm.trans failed⟩

end TreeSearch
