import TreeSearch.Proofs.Query.Search
import TreeSearch.Proofs.Walk.Descent

/-!
# Exact paths

In a tree of Go syntax in which no key is repeated and none contains a closing bracket, a rendered
path stands for one place, and the places below it are those whose rendered paths go on from it with
a separator (`Walker.rendered_paths_are_faithful`). So a query for an exact path finds the one node
with this path. With a repeated key it finds more than one (`repeated_key_is_found_twice`).
-/

namespace TreeSearch

variable {σ τ : Type}

namespace Path

/-- A text that goes on behind another one is not the other one. -/
theorem ne_append_separator (text rest : String) : text ≠ text ++ "." ++ rest := by
  intro same
  have chars := congrArg String.toList same
  simp [String.toList_append] at chars

end Path

/-- Of values with different keys, the one that is looked for is the only one with its key. -/
theorem filter_eq_singleton {α κ : Type} [BEq κ] [LawfulBEq κ] {key : α → κ} {l : List α}
    (nodup : (l.map key).Nodup) {a : α} (mem : a ∈ l) :
    (l.filter fun b => key b == key a) = [a] := by
  have single : [a].Nodup := List.nodup_singleton a
  rw [← List.perm_singleton, List.perm_ext_iff_of_nodup (nodup.of_map.filter _) single]
  intro b
  rw [List.mem_filter, List.mem_singleton, beq_iff_eq]
  constructor
  · rintro ⟨hb, same⟩
    exact List.inj_on_of_nodup_map nodup hb mem same
  · rintro rfl
    exact ⟨mem, rfl⟩

variable [SyntaxTree τ]

namespace Grammar

variable {g : Grammar} {root : τ} {x y : Place τ}

/-- Only the root has a path without segments. -/
theorem Reaches.segments_ne_nil (reaches : g.Reaches (.root root) x) (below : x ≠ .root root) :
    x.path.segments ≠ [] := by
  rcases reaches.eq_or_descends with rfl | descends
  · exact absurd rfl below
  · obtain ⟨tail, nonempty, path⟩ := descends.path
    rw [path, Path.segments_extend]
    exact List.append_ne_nil_of_right_ne_nil _ nonempty

theorem Reaches.plain_segments (plain : g.Plain) (keys : PlainKeys root)
    (reaches : g.Reaches (.root root) x) : ∀ s ∈ x.path.segments, s.Plain :=
  reaches.plain plain keys nofun

/-- A place below another one is rendered with a separator behind the other's path. -/
theorem Descends.render (descends : g.Descends x y) (nonempty : x.path.segments ≠ []) :
    ∃ rest, y.path.render "." = x.path.render "." ++ "." ++ rest := by
  obtain ⟨tail, further, path⟩ := descends.path
  refine ⟨(Path.ofSegments tail).render ".", ?_⟩
  rw [path, Path.render_extend, if_neg (not_or.mpr ⟨nonempty, further⟩)]

/-- A place whose rendered path begins with the one of another place, before a separator or the
end, is reached from the other place. -/
theorem reaches_of_render (plain : g.Plain) (unique : UniqueKeys root) (keys : PlainKeys root)
    (toX : g.Reaches (.root root) x) (toY : g.Reaches (.root root) y) (below : x ≠ .root root)
    {rest : List Char} (separates : Segment.Separates rest)
    (begins : (x.path.render ".").toList ++ rest = (y.path.render ".").toList) :
    g.Reaches x y := by
  apply reaches_of_prefix plain unique toX toY
  exact Path.prefix_of_render (toX.plain_segments plain keys) (toY.plain_segments plain keys)
    (toX.segments_ne_nil below) separates begins

theorem render_begins_iff (plain : g.Plain) (unique : UniqueKeys root) (keys : PlainKeys root)
    (toX : g.Reaches (.root root) x) (toY : g.Reaches (.root root) y) (below : x ≠ .root root) :
    (∃ rest, y.path.render "." = x.path.render "." ++ "." ++ rest) ↔ g.Descends x y := by
  constructor
  · rintro ⟨rest, begins⟩
    have text : (x.path.render ".").toList ++ '.' :: rest.toList =
        (y.path.render ".").toList := by
      simp [begins, String.toList_append]
    have separates : Segment.Separates ('.' :: rest.toList) := by rintro c ⟨⟩; rfl
    rcases (reaches_of_render plain unique keys toX toY below separates text).eq_or_descends with
      rfl | descends
    · exact absurd begins (Path.ne_append_separator _ rest)
    · exact descends
  · intro descends
    exact descends.render (toX.segments_ne_nil below)

/-- Places whose paths are rendered alike are the same. -/
theorem eq_of_render_eq (plain : g.Plain) (unique : UniqueKeys root) (keys : PlainKeys root)
    (toX : g.Reaches (.root root) x) (toY : g.Reaches (.root root) y)
    (same : x.path.render "." = y.path.render ".") : x = y := by
  by_cases top : x = .root root
  · subst top
    by_contra other
    have empty := Path.segments_eq_nil (toY.plain_segments plain keys)
      (congrArg String.toList same.symm)
    exact toY.segments_ne_nil (Ne.symm other) empty
  · have text : (x.path.render ".").toList ++ [] = (y.path.render ".").toList := by
      rw [same, List.append_nil]
    have separates : Segment.Separates [] := by rintro c ⟨⟩
    rcases (reaches_of_render plain unique keys toX toY top separates text).eq_or_descends with
      rfl | descends
    · rfl
    · obtain ⟨rest, longer⟩ := descends.render (toX.segments_ne_nil top)
      rw [← same] at longer
      exact absurd longer (Path.ne_append_separator _ rest)

end Grammar

namespace Walker

variable {v : Visitor σ τ}

/-- The visits of a walk have different renderings. -/
theorem nodup_renders (w : Walker) (plain : w.grammar.Plain)
    (descends : ∀ s n p, (v.enter s n p).2 = .descend) {s : σ} {root : τ}
    (unique : UniqueKeys root) (keys : PlainKeys root) (ok : (w.walk v s root).result = .ok ())
    {visits : List (Place τ)}
    (told : entered (w.log v s root).2 = visits.map fun x => (x.node, x.path))
    (mem : ∀ x, x ∈ visits ↔ w.grammar.Reaches (.root root) x) :
    (visits.map fun x => x.path.render ".").Nodup := by
  have paths := w.nodup_paths descends s root unique ok
  rw [told, List.map_map] at paths
  refine List.pairwise_map.mpr ((List.pairwise_map.mp paths).imp_of_mem ?_)
  intro x y hx hy different same
  apply different
  rw [Grammar.eq_of_render_eq plain unique keys ((mem x).mp hx) ((mem y).mp hy) same]

/-- A search for an exact path finds the visits with this rendering. -/
theorem find_exact (w : Walker) (descends : ∀ s n p, (v.enter s n p).2 = .descend) {s : σ}
    {root : τ} (ok : (w.walk v s root).result = .ok ()) {visits : List (Place τ)}
    (told : entered (w.log v s root).2 = visits.map fun x => (x.node, x.path)) (text : String) :
    w.find (.exact text) root =
      .ok ((visits.filter fun x => x.path.render "." == text).map fun x => ⟨x.node, x.path⟩) := by
  rw [find_eq w descends s, ok, told, Query.select, List.filter_map, List.map_map]
  rfl

/-- In Go syntax, a walk without fault that goes on below every node visits the root and all places
below it. If no key of the tree is repeated or contains a closing bracket, different visits have
different rendered paths, and a rendered path goes on from the one of another visit, which is not
that of the root, exactly if the place is below the other one. So a search for the exact path of a
visit finds this visit alone, and a search for any other text finds nothing. -/
theorem rendered_paths_are_faithful (maxDepth : Nat)
    (descends : ∀ s n p, (v.enter s n p).2 = .descend) (s : σ) (root : τ)
    (unique : UniqueKeys root) (keys : PlainKeys root)
    (ok : ((⟨Grammar.go, maxDepth⟩ : Walker).walk v s root).result = .ok ()) :
    ∃ visits : List (Place τ),
      entered ((⟨Grammar.go, maxDepth⟩ : Walker).log v s root).2 =
        visits.map (fun x => (x.node, x.path)) ∧
      (∀ x, x ∈ visits ↔ x = .root root ∨ Grammar.go.Descends (.root root) x) ∧
      (visits.map fun x => x.path.render ".").Nodup ∧
      (∀ x ∈ visits, ∀ y ∈ visits, x ≠ .root root →
        ((∃ rest, y.path.render "." = x.path.render "." ++ "." ++ rest) ↔
          Grammar.go.Descends x y)) ∧
      (∀ x ∈ visits, (⟨Grammar.go, maxDepth⟩ : Walker).find (.exact (x.path.render ".")) root =
        .ok [⟨x.node, x.path⟩]) ∧
      ∀ text, (∀ x ∈ visits, x.path.render "." ≠ text) →
        (⟨Grammar.go, maxDepth⟩ : Walker).find (.exact text) root = .ok [] := by
  obtain ⟨visits, told, mem⟩ := exists_visits ⟨Grammar.go, maxDepth⟩ descends s root ok
  have renders := nodup_renders ⟨Grammar.go, maxDepth⟩ Grammar.plain_go descends unique keys ok
    told mem
  refine ⟨visits, told, ?_, renders, ?_, ?_, ?_⟩
  · exact fun x => (mem x).trans Relation.reflTransGen_iff_eq_or_transGen
  · intro x hx y hy below
    exact Grammar.render_begins_iff Grammar.plain_go unique keys ((mem x).mp hx) ((mem y).mp hy)
      below
  · intro x hx
    rw [find_exact _ descends ok told, filter_eq_singleton renders hx]
    rfl
  · intro text other
    have none : (visits.filter fun x => x.path.render "." == text) = [] := by
      rw [List.filter_eq_nil_iff]
      intro x hx
      simpa using other x hx
    rw [find_exact _ descends ok told, none]
    rfl

end Walker

/-- The keys of a node are plain if those in its members are. -/
theorem Node.plainKeys {n : Node} (every : n.EveryMember fun _ m => m.slotValue.PlainKeys) :
    PlainKeys n := by
  intro inner within name
  rcases inner.slot_cases name with absent | ⟨m, member, held⟩
  · rw [show SyntaxTree.slot inner name = .absent from absent]
    trivial
  · rw [show SyntaxTree.slot inner name = m.slotValue from held]
    exact every inner (contains_of_within within) name m member

/-- A package of two files: the name of one looks like the path of a declaration of the other. -/
def crossedPackage : Node :=
  (Node.ofKind "Package").withKeyed "Files"
    [("a", ((Node.ofKind "File").withNode "Name" (Node.ident "main")).withList "Decls"
      [Node.ofKind "BadDecl"]),
     ("a.Decls[0", (Node.ofKind "File").withNode "Name" (Node.ident "main"))]

theorem ordered_crossedPackage : crossedPackage.Ordered := by
  have named := (Node.ordered_ofKind "File").withNode "Name" (Node.ordered_ident "main")
  apply (Node.ordered_ofKind _).withKeyed
  simp only [List.forall_mem_cons]
  refine ⟨named.withList "Decls" ?_, named, nofun⟩
  exact List.forall_mem_singleton.mpr (Node.ordered_ofKind "BadDecl")

theorem plainKeys_crossedPackage : PlainKeys crossedPackage := by
  apply Node.plainKeys
  have ident : (Node.ident "main").EveryMember fun _ m => m.slotValue.PlainKeys :=
    (Node.everyMember_ofKind _).withMember trivial nofun
  have named : ((Node.ofKind "File").withNode "Name" (Node.ident "main")).EveryMember
      fun _ m => m.slotValue.PlainKeys :=
    (Node.everyMember_ofKind _).withMember trivial (List.forall_mem_singleton.mpr ident)
  refine (Node.everyMember_ofKind _).withKeyed ?_ ?_
  · show ∀ entry ∈ Fields.ofList _, ']' ∉ entry.1.toList
    intro entry mem
    have listed := Fields.mem_of_mem_ofList mem
    simp only [List.mem_cons, List.not_mem_nil, or_false] at listed
    rcases listed with rfl | rfl
    · decide
    · decide
  · simp only [List.forall_mem_cons]
    refine ⟨named.withMember trivial ?_, named, nofun⟩
    exact List.forall_mem_singleton.mpr (Node.everyMember_ofKind "BadDecl")

theorem rendered_paths_are_faithful_of_package :
    UniqueKeys crossedPackage ∧ PlainKeys crossedPackage ∧
    ((⟨Grammar.go, 2⟩ : Walker).walk .descending () crossedPackage).result = .ok () ∧
    ∃ visits : List (Place Node),
      entered ((⟨Grammar.go, 2⟩ : Walker).log .descending () crossedPackage).2 =
        visits.map (fun x => (x.node, x.path)) ∧
      (visits.map fun x => x.path.render ".") =
        ["", "Files[a]", "Files[a].Name", "Files[a].Decls[0]", "Files[a.Decls[0]",
          "Files[a.Decls[0].Name"] ∧
      ∀ x ∈ visits, (⟨Grammar.go, 2⟩ : Walker).find (.exact (x.path.render ".")) crossedPackage =
        .ok [⟨x.node, x.path⟩] := by
  have unique := ordered_crossedPackage.uniqueKeys
  have ok : ((⟨Grammar.go, 2⟩ : Walker).walk .descending () crossedPackage).result = .ok () := by
    cbv
  obtain ⟨visits, told, -, -, -, found, -⟩ := Walker.rendered_paths_are_faithful 2
    (fun _ _ _ => rfl) () crossedPackage unique plainKeys_crossedPackage ok
  refine ⟨unique, plainKeys_crossedPackage, ok, visits, told, ?_, found⟩
  have renders : (visits.map fun x => x.path.render ".") =
      (entered ((⟨Grammar.go, 2⟩ : Walker).log .descending () crossedPackage).2).map
        fun e => e.2.render "." := by
    rw [told, List.map_map]
    rfl
  rw [renders]
  cbv

/-- A package with two files of one name. -/
def repeatedPackage : SlotTree :=
  .node "Package" [("Files", .keyed [("a", .node "Comment" []), ("a", .node "Comment" [])])]

theorem slot_repeatedPackage (name : String) :
    SyntaxTree.slot repeatedPackage name = .absent ∨ SyntaxTree.slot repeatedPackage name =
      .keyed [("a", .node "Comment" []), ("a", .node "Comment" [])] := by
  by_cases files : "Files" = name
  · subst files
    exact .inr rfl
  · left
    simp [SyntaxTree.slot, repeatedPackage, SlotTree.slot, files]

theorem plainKeys_repeatedPackage : PlainKeys repeatedPackage := by
  have nodes : ∀ n, Within repeatedPackage n → n = repeatedPackage ∨ n = .node "Comment" [] := by
    intro n within
    induction within with
    | root => exact .inl rfl
    | step _ name mem ih =>
        rcases ih with rfl | rfl
        · rcases slot_repeatedPackage name with slot | slot
          · rw [slot] at mem
            cases mem
          · rw [slot] at mem
            exact .inr (by simpa [SlotValue.nodes] using mem)
        · cases mem
  intro n within name
  rcases nodes n within with rfl | rfl
  · rcases slot_repeatedPackage name with slot | slot
    · rw [slot]
      trivial
    · rw [slot]
      simp [SlotValue.PlainKeys]
  · trivial

/-- Where a key is repeated, two visits have one path, and a search for it finds both. -/
theorem repeated_key_is_found_twice :
    PlainKeys repeatedPackage ∧
    ((⟨Grammar.go, 1⟩ : Walker).walk .descending () repeatedPackage).result = .ok () ∧
    (entered ((⟨Grammar.go, 1⟩ : Walker).log .descending () repeatedPackage).2).map
      (fun e => e.2.render ".") = ["", "Files[a]", "Files[a]"] ∧
    (⟨Grammar.go, 1⟩ : Walker).find (.exact "Files[a]") repeatedPackage =
      .ok [⟨.node "Comment" [], .ofSegments [.key "Files" "a"]⟩,
        ⟨.node "Comment" [], .ofSegments [.key "Files" "a"]⟩] := by
  refine ⟨plainKeys_repeatedPackage, ?_, ?_, ?_⟩
  · cbv
  · cbv
  · cbv

end TreeSearch
