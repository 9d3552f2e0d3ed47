import TreeSearch.Proofs.Node.Nodes
import TreeSearch.Proofs.Path.Segments
import TreeSearch.Proofs.Walk.VisitTree

/-!
# Paths are addresses

A walk that goes on below every node enters a node at a path exactly if the path leads to the node,
and at each such path it enters exactly one node. The tree of visits is compared with
`Grammar.resolve` place by place: for all segments, the visits at the path of a place extended by
these segments are the node that the segments lead to, or none (`Visited.enteredAt_eq`).
-/

namespace TreeSearch

variable {σ τ : Type}

theorem basePath_eq_extend (d : KindDescriptor) (path : Path) (polymorphic : Bool) :
    basePath d path polymorphic = path.extend (Grammar.kindSegments d polymorphic) := by
  cases polymorphic <;> rfl

theorem Place.path_child (x : Place τ) (d : KindDescriptor) (h : Segment × τ × Bool) :
    (x.child d h).path = x.path.extend (Grammar.kindSegments d x.polymorphic ++ [h.1]) := by
  rw [Path.extend_append, ← basePath_eq_extend]
  rfl

section Entered

/-- The nodes that are entered at the path with the given segments. -/
def enteredAt (segments : List Segment) (events : List (Event τ)) : List (τ × Path) :=
  (entered events).filter fun e => e.2.segments = segments

theorem enteredAt_append (segments : List Segment) (first second : List (Event τ)) :
    enteredAt segments (first ++ second) =
      enteredAt segments first ++ enteredAt segments second := by
  rw [enteredAt, entered_append, List.filter_append]
  rfl

theorem enteredAt_eq_nil_iff {segments : List Segment} {events : List (Event τ)} :
    enteredAt segments events = [] ↔ ∀ e ∈ entered events, e.2.segments ≠ segments := by
  simp [enteredAt, List.filter_eq_nil_iff]

theorem entered_events (node : τ) (path : Path) (below : List (VisitTree τ)) :
    entered (VisitTree.mk node path below).events =
      (node, path) :: entered (VisitTree.eventsAll below) := by
  simp [VisitTree.events, entered]

theorem enteredAt_events (segments : List Segment) (node : τ) (path : Path)
    (below : List (VisitTree τ)) :
    enteredAt segments (VisitTree.mk node path below).events =
      (if path.segments = segments then [(node, path)] else []) ++
        enteredAt segments (VisitTree.eventsAll below) := by
  rw [enteredAt, entered_events, List.filter_cons]
  by_cases here : path.segments = segments <;> simp [here, enteredAt]

end Entered

/-- With different keys, the entries under a key are the one value that the key has, or none. -/
theorem filter_fst_eq {κ β : Type} [DecidableEq κ] {l : List (κ × β)}
    (nodup : (l.map Prod.fst).Nodup) (key : κ) {found : Option β}
    (mem : ∀ value, (key, value) ∈ l ↔ found = some value) :
    l.filter (fun entry => entry.1 = key) = found.toList.map (Prod.mk key) := by
  induction l generalizing found with
  | nil =>
      cases found with
      | none => rfl
      | some value => exact absurd ((mem value).mpr rfl) List.not_mem_nil
  | cons entry rest ih =>
      obtain ⟨other, first⟩ := entry
      rw [List.map_cons, List.nodup_cons] at nodup
      by_cases same : other = key
      · subst same
        have absent : ∀ value, (other, value) ∉ rest :=
          fun value h => nodup.1 (List.mem_map.mpr ⟨_, h, rfl⟩)
        rw [(mem first).mp List.mem_cons_self, List.filter_cons_of_pos (by simp),
          ih nodup.2 fun value => (iff_of_false (absent value) (Option.some_ne_none value).symm)]
        rfl
      · rw [List.filter_cons_of_neg (by simpa using same)]
        apply ih nodup.2
        intro value
        rw [← mem value, List.mem_cons]
        simp [Ne.symm same]

variable [SyntaxTree τ] {g : Grammar} {v : Visitor σ τ}

theorem path_of_mem_below {x y : Place τ} (mem : y ∈ g.below x) :
    ∃ d segment, g.lookup (SyntaxTree.kind x.node) = some d ∧
      y.path = x.path.extend (Grammar.kindSegments d x.polymorphic ++ [segment]) := by
  obtain ⟨d, known, h, -, rfl⟩ := Grammar.exists_held_of_mem_below mem
  exact ⟨d, h.1, known, x.path_child d h⟩

theorem segments_of_mem_below {x : Place τ} {d : KindDescriptor}
    (known : g.lookup (SyntaxTree.kind x.node) = some d) :
    ∀ y ∈ g.below x, ∃ segment,
      y.path.segments = x.path.segments ++ Grammar.kindSegments d x.polymorphic ++ [segment] := by
  intro y mem
  obtain ⟨d', segment, known', path⟩ := path_of_mem_below mem
  cases known.symm.trans known'
  exact ⟨segment, by rw [path, Path.segments_extend, List.append_assoc]⟩

theorem UniqueKeys.of_mem_below {x y : Place τ} (unique : UniqueKeys x.node)
    (mem : y ∈ g.below x) : UniqueKeys y.node := by
  obtain ⟨d, -, h, held, rfl⟩ := Grammar.exists_held_of_mem_below mem
  exact KindDescriptor.uniqueKeys_of_mem_held unique held

mutual

/-- Every visit made from a place has a path that extends the path of the place. -/
theorem Visited.entered_extends {s s' : σ} {x : Place τ} {t : VisitTree τ} :
    Visited g v s x t s' → ∀ e ∈ entered t.events, ∃ rest, e.2 = x.path.extend rest
  | .skip _ => by
      intro e mem
      rw [entered_events] at mem
      cases List.mem_singleton.mp mem
      exact ⟨[], rfl⟩
  | .descend _ all => by
      intro e mem
      rw [entered_events, List.mem_cons] at mem
      rcases mem with rfl | mem
      · exact ⟨[], rfl⟩
      · obtain ⟨y, hy, rest, path⟩ := VisitedAll.entered_extends all e mem
        obtain ⟨d, segment, -, below⟩ := path_of_mem_below hy
        exact ⟨_, by rw [path, below, ← Path.extend_append]⟩

theorem VisitedAll.entered_extends {s s' : σ} {xs : List (Place τ)} {ts : List (VisitTree τ)} :
    VisitedAll g v s xs ts s' →
      ∀ e ∈ entered (VisitTree.eventsAll ts), ∃ x ∈ xs, ∃ rest, e.2 = x.path.extend rest
  | .nil => by
      intro e mem
      cases mem
  | .cons first others => by
      intro e mem
      rw [VisitTree.eventsAll, entered_append, List.mem_append] at mem
      rcases mem with mem | mem
      · exact ⟨_, List.mem_cons_self, Visited.entered_extends first e mem⟩
      · obtain ⟨y, hy, rest, path⟩ := VisitedAll.entered_extends others e mem
        exact ⟨y, List.mem_cons_of_mem _ hy, rest, path⟩

end

/-- The visits below a node at its own path: there are none. -/
theorem VisitedAll.enteredAt_self {s s' : σ} {x : Place τ} {ts : List (VisitTree τ)}
    (all : VisitedAll g v s (g.below x) ts s') :
    enteredAt x.path.segments (VisitTree.eventsAll ts) = [] := by
  rw [enteredAt_eq_nil_iff]
  intro e mem same
  obtain ⟨y, hy, rest, path⟩ := all.entered_extends e mem
  obtain ⟨d, segment, -, below⟩ := path_of_mem_below hy
  rw [path, below, Path.segments_extend, Path.segments_extend, List.append_assoc] at same
  simp at same

/-- The visits below a node of kind `d` at a path that does not go on the way the paths of the
places below the node do: there are none. -/
theorem VisitedAll.enteredAt_other {s s' : σ} {x : Place τ} {d : KindDescriptor}
    {ts : List (VisitTree τ)} (all : VisitedAll g v s (g.below x) ts s')
    (known : g.lookup (SyntaxTree.kind x.node) = some d) {rest : List Segment}
    (other : ∀ segment rest', rest ≠ Grammar.kindSegments d x.polymorphic ++ segment :: rest') :
    enteredAt (x.path.segments ++ rest) (VisitTree.eventsAll ts) = [] := by
  rw [enteredAt_eq_nil_iff]
  intro e mem same
  obtain ⟨y, hy, rest', path⟩ := all.entered_extends e mem
  obtain ⟨d', segment, known', below⟩ := path_of_mem_below hy
  cases known.symm.trans known'
  rw [path, below, Path.segments_extend, Path.segments_extend, List.append_assoc,
    List.append_cancel_left_eq, List.append_assoc] at same
  exact other segment rest' same.symm

/-- The place below a node of kind `d` that a segment leads to, as the only one with its path. -/
theorem below_filter_eq {x : Place τ} {d : KindDescriptor}
    (known : g.lookup (SyntaxTree.kind x.node) = some d)
    (unique : ∀ name, (SyntaxTree.slot x.node name).UniqueKeys) (segment : Segment) :
    ((g.below x).filter fun y => y.path.segments =
        x.path.segments ++ Grammar.kindSegments d x.polymorphic ++ [segment]) =
      (d.child? x.node segment).toList.map fun child => x.child d (segment, child) := by
  have nodup := g.nodup_slots_of_lookup known
  have found := filter_fst_eq (KindDescriptor.nodup_held nodup unique) segment
    fun child => KindDescriptor.mem_held_iff nodup unique
  have paths : ((fun y : Place τ => decide (y.path.segments =
      x.path.segments ++ Grammar.kindSegments d x.polymorphic ++ [segment])) ∘ x.child d) =
        fun h => decide (h.1 = segment) := by
    funext h
    simp [Place.path_child]
  rw [Grammar.below_of_lookup known, List.filter_map, paths, found, List.map_map]
  rfl

mutual

/-- For all segments, the visits made from a place at its path extended by the segments are the
node that the segments lead to, or none. -/
theorem Visited.enteredAt_eq (descends : ∀ s n p, (v.enter s n p).2 = .descend) {s s' : σ}
    {x : Place τ} {t : VisitTree τ} (unique : UniqueKeys x.node) (rest : List Segment) :
    Visited g v s x t s' →
      enteredAt (x.path.segments ++ rest) t.events =
        (g.resolve rest x.node x.polymorphic).toList.map fun m => (m, x.path.extend rest)
  | .skip enter => by
      have decision := descends s x.node x.path
      rw [enter] at decision
      cases decision
  | .descend _ all => by
      rw [enteredAt_events]
      cases rest with
      | nil =>
          rw [List.append_nil, if_pos rfl, all.enteredAt_self]
          rfl
      | cons first rest =>
          rw [if_neg (by simp), List.nil_append]
          cases known : g.lookup (SyntaxTree.kind x.node) with
          | none =>
              rw [Grammar.below_of_unknown known] at all
              cases all
              rw [g.resolve_of_unknown known _ (List.cons_ne_nil _ _)]
              rfl
          | some d =>
              by_cases form : ∃ segment rest', first :: rest =
                  Grammar.kindSegments d x.polymorphic ++ segment :: rest'
              · obtain ⟨segment, rest', form⟩ := form
                have visits := VisitedAll.enteredAt_eq descends
                  (fun y hy => unique.of_mem_below hy) (segments_of_mem_below known) segment rest'
                  all
                rw [form, g.resolve_step known, ← List.append_assoc, visits,
                  below_filter_eq known (unique x.node .root)]
                cases d.child? x.node segment with
                | none => rfl
                | some child =>
                    simp [Place.child, basePath_eq_extend, Path.extend_append, Path.extend_cons]
              · push Not at form
                rw [all.enteredAt_other known form,
                  g.resolve_of_ne known _ (List.cons_ne_nil _ _) form]
                rfl

/-- The visits made from places that have paths with one segment more than a base. -/
theorem VisitedAll.enteredAt_eq (descends : ∀ s n p, (v.enter s n p).2 = .descend) {s s' : σ}
    {xs : List (Place τ)} {ts : List (VisitTree τ)} (unique : ∀ x ∈ xs, UniqueKeys x.node)
    {base : List Segment} (addressed : ∀ x ∈ xs, ∃ segment, x.path.segments = base ++ [segment])
    (segment : Segment) (rest : List Segment) :
    VisitedAll g v s xs ts s' →
      enteredAt (base ++ segment :: rest) (VisitTree.eventsAll ts) =
        (xs.filter fun x => x.path.segments = base ++ [segment]).flatMap fun x =>
          (g.resolve rest x.node x.polymorphic).toList.map fun m => (m, x.path.extend rest)
  | .nil => rfl
  | .cons (x := x) (t := t) first others => by
      have later := VisitedAll.enteredAt_eq descends
        (fun y hy => unique y (List.mem_cons_of_mem _ hy))
        (fun y hy => addressed y (List.mem_cons_of_mem _ hy)) segment rest others
      rw [VisitTree.eventsAll, enteredAt_append, later]
      by_cases here : x.path.segments = base ++ [segment]
      · have visits := Visited.enteredAt_eq descends (unique x List.mem_cons_self) rest first
        rw [here, List.append_assoc, List.singleton_append] at visits
        rw [List.filter_cons_of_pos (by simpa using here), List.flatMap_cons, visits]
      · have visits : enteredAt (base ++ segment :: rest) t.events = [] := by
          rw [enteredAt_eq_nil_iff]
          intro e mem same
          obtain ⟨rest', path⟩ := first.entered_extends e mem
          obtain ⟨segment', ends⟩ := addressed x List.mem_cons_self
          rw [path, Path.segments_extend, ends, List.append_assoc, List.append_cancel_left_eq,
            List.singleton_append, List.cons.injEq] at same
          exact here (by rw [ends, same.1])
        rw [List.filter_cons_of_neg (by simpa using here), visits, List.nil_append]

end

/-- In a tree whose keyed slots repeat no key, no two nodes are entered at one path. -/
theorem Walker.nodup_paths (w : Walker) (descends : ∀ s n p, (v.enter s n p).2 = .descend) (s : σ)
    (root : τ) (unique : UniqueKeys root) (ok : (w.walk v s root).result = .ok ()) :
    ((entered (w.log v s root).2).map fun e => e.2.segments).Nodup := by
  obtain ⟨t, visited, told⟩ := w.exists_visited v (.root root) 0 s ok
  have log : (w.log v s root).2 = t.events := told
  rw [log, List.nodup_iff_count_le_one]
  intro segments
  have visits : enteredAt segments t.events =
      (w.grammar.resolve segments root false).toList.map fun m => (m, Path.ofSegments segments) :=
    visited.enteredAt_eq descends unique segments
  calc ((entered t.events).map fun e => e.2.segments).count segments
      _ = (enteredAt segments t.events).length := by
        rw [List.count_eq_countP, List.countP_map, List.countP_eq_length_filter, enteredAt]
        simp only [Function.comp_def, beq_eq_decide]
      _ ≤ 1 := by
        rw [visits, List.length_map]
        cases w.grammar.resolve segments root false <;> simp

/-- In a tree whose keyed slots repeat no key, a walk without fault that goes on below every node
enters each node at a path that leads to it, and at each path that leads to a node it enters that
node and nothing else. Ordered nodes are such trees. -/
theorem Walker.paths_are_addresses (w : Walker) (descends : ∀ s n p, (v.enter s n p).2 = .descend)
    (s : σ) (root : τ) (unique : UniqueKeys root) (ok : (w.walk v s root).result = .ok ()) :
    (∀ n p, .enter n p ∈ (w.log v s root).2 →
      w.grammar.resolve p.segments root false = some n) ∧
    (∀ segments n, w.grammar.resolve segments root false = some n →
      ((entered (w.log v s root).2).filter fun e => e.2.segments = segments) =
        [(n, Path.ofSegments segments)]) ∧
    ∀ n : Node, n.Ordered → UniqueKeys n := by
  obtain ⟨t, visited, told⟩ := w.exists_visited v (.root root) 0 s ok
  have log : (w.log v s root).2 = t.events := told
  have visits : ∀ segments, enteredAt segments t.events =
      (w.grammar.resolve segments root false).toList.map fun m => (m, Path.ofSegments segments) :=
    fun segments => visited.enteredAt_eq descends unique segments
  rw [log]
  refine ⟨?_, ?_, fun n ordered => ordered.uniqueKeys⟩
  · intro n p mem
    have here : (n, p) ∈ enteredAt p.segments t.events :=
      List.mem_filter.mpr ⟨mem_entered_iff.mpr mem, by simp⟩
    rw [visits] at here
    obtain ⟨m, found, same⟩ := List.mem_map.mp here
    rw [← (Prod.mk.inj same).1]
    exact Option.mem_toList.mp found
  · intro segments n leads
    rw [← enteredAt, visits, leads]
    rfl

theorem ordered_samplePackage : samplePackage.Ordered := by
  apply (Node.ordered_ofKind _).withKeyed
  intro entry mem
  cases List.mem_singleton.mp mem
  apply ((Node.ordered_ofKind _).withNode _ (Node.ordered_ident _)).withList
  intro item mem
  cases List.mem_singleton.mp mem
  exact Node.ordered_ofKind _

theorem paths_are_addresses_of_package :
    UniqueKeys samplePackage ∧
    ((⟨Grammar.go, 2⟩ : Walker).walk .descending () samplePackage).result = .ok () ∧
    ((∀ n p, .enter n p ∈ ((⟨Grammar.go, 2⟩ : Walker).log .descending () samplePackage).2 →
      Grammar.go.resolve p.segments samplePackage false = some n) ∧
    (∀ segments n, Grammar.go.resolve segments samplePackage false = some n →
      ((entered ((⟨Grammar.go, 2⟩ : Walker).log .descending () samplePackage).2).filter
        fun e => e.2.segments = segments) = [(n, Path.ofSegments segments)]) ∧
    ∀ n : Node, n.Ordered → UniqueKeys n) := by
  have unique := ordered_samplePackage.uniqueKeys
  have ok : ((⟨Grammar.go, 2⟩ : Walker).walk .descending () samplePackage).result = .ok () := by cbv
  exact ⟨unique, ok, Walker.paths_are_addresses _ (fun _ _ _ => rfl) () samplePackage unique ok⟩

end TreeSearch
