import TreeSearch.Proofs.Walk.Descent
import TreeSearch.Proofs.Walk.Lineage

/-!
# Renderings of ancestors

When a walk enters a node, the visits that have begun and not ended (`openVisits`) are those of its
ancestors. The path of the node goes on from the path of each of them, and the rendering of a path
that goes on from another one begins with the rendering of the other one. This needs nothing of the
separator or the names: the separator may be empty, and so may the renderings of segments.
-/

namespace TreeSearch

variable {σ τ : Type}

/-- The visits that have begun and not ended after the events, the last one first, if the given ones
have before them. -/
def openVisits (before : List (τ × Path)) : List (Event τ) → List (τ × Path)
  | [] => before
  | .enter n p :: rest => openVisits ((n, p) :: before) rest
  | .exit :: rest => openVisits before.tail rest

theorem openVisits_append (before : List (τ × Path)) (first second : List (Event τ)) :
    openVisits before (first ++ second) = openVisits (openVisits before first) second := by
  induction first generalizing before with
  | nil => rfl
  | cons event rest ih =>
      cases event with
      | enter n p => exact ih ((n, p) :: before)
      | exit => exact ih before.tail

mutual

/-- A complete visit begins and ends. -/
theorem openVisits_events (before : List (τ × Path)) (t : VisitTree τ) :
    openVisits before t.events = before := by
  match t with
  | .mk node path below =>
      rw [VisitTree.events, openVisits, openVisits_append, openVisits_eventsAll _ below]
      rfl

theorem openVisits_eventsAll (before : List (τ × Path)) (ts : List (VisitTree τ)) :
    openVisits before (VisitTree.eventsAll ts) = before := by
  match ts with
  | [] => rfl
  | t :: rest =>
      rw [VisitTree.eventsAll, openVisits_append, openVisits_events before t,
        openVisits_eventsAll before rest]

end

variable [SyntaxTree τ]

namespace Grammar

variable {g : Grammar} {x y : Place τ} {ancestors : List (Place τ)} {earlier : List (Event τ)}

namespace Lineage

/-- The visits that have begun and not ended before a node is entered are those of its ancestors. -/
theorem openVisits_eq (lineage : g.Lineage x ancestors y earlier) (before : List (τ × Path)) :
    openVisits before earlier = (ancestors.map fun a => (a.node, a.path)).reverse ++ before := by
  -- For all visits before: below the first ancestor its own visit is one of them.
  induction lineage generalizing before with
  | start x => rfl
  | under held done rest ih =>
      rw [openVisits, openVisits_append, openVisits_eventsAll, ih, List.map_cons,
        List.reverse_cons, List.append_assoc, List.singleton_append]

theorem reaches (lineage : g.Lineage x ancestors y earlier) : g.Reaches x y := by
  induction lineage with
  | start x => exact .refl
  | under held done rest ih => exact .head held ih

theorem descends (lineage : g.Lineage x ancestors y earlier) {a : Place τ} (mem : a ∈ ancestors) :
    g.Descends a y := by
  induction lineage with
  | start x => cases mem
  | under held done rest ih =>
      rcases List.mem_cons.mp mem with rfl | above
      · exact .head' held rest.reaches
      · exact ih above

end Lineage

/-- The rendering of a place begins with the rendering of every place that it is below. -/
theorem Descends.render_begins (descends : g.Descends x y) (separator : String) :
    ∃ rest, y.path.render separator = x.path.render separator ++ rest := by
  obtain ⟨tail, -, path⟩ := descends.path
  rw [path, Path.render_extend, String.append_assoc]
  exact ⟨_, rfl⟩

end Grammar

/-- Renderings of segments are joined like the segments, with the separator between two renderings
exactly if there are segments on both sides, whatever these are rendered as. So in every walk, from
any place, with any visitor and whether or not it fails, the rendering of a node begins with the
renderings of all its ancestors. These are the visits that have begun and not ended when the node is
entered. -/
theorem Walker.renderings_join_segments (w : Walker) (v : Visitor σ τ) (s : σ) (start : Place τ)
    (separator : String) :
    (∀ first second : List Segment,
      (Path.ofSegments (first ++ second)).render separator =
        (Path.ofSegments first).render separator ++
          (if first = [] ∨ second = [] then "" else separator) ++
            (Path.ofSegments second).render separator) ∧
    ∀ earlier n p later,
      (w.logFrom v s start.node start.path start.polymorphic).2 = earlier ++ .enter n p :: later →
      (∃ ancestors b, w.grammar.Lineage start ancestors ⟨n, p, b⟩ earlier ∧
        openVisits [] earlier = (ancestors.map fun a => (a.node, a.path)).reverse) ∧
      ∀ a ∈ openVisits [] earlier,
        ∃ rest, p.render separator = a.2.render separator ++ rest := by
  constructor
  · intro first second
    rw [Path.ofSegments_append, Path.render_extend, Path.segments_ofSegments]
  · intro earlier n p later told
    obtain ⟨ancestors, y, rfl, rfl, lineage, -⟩ := exists_lineage w v start 0 s told
    have opened : openVisits [] earlier = (ancestors.map fun a => (a.node, a.path)).reverse := by
      rw [lineage.openVisits_eq, List.append_nil]
    refine ⟨⟨ancestors, y.polymorphic, lineage, opened⟩, ?_⟩
    intro a mem
    rw [opened, List.mem_reverse] at mem
    obtain ⟨x, above, rfl⟩ := List.mem_map.mp mem
    exact (lineage.descends above).render_begins separator

/-- A grammar of one kind, with a slot whose name has no characters and one with a name. -/
def Grammar.blank : Grammar where
  kinds := [⟨"Link", "", [⟨"", .optional, false⟩, ⟨"Next", .optional, false⟩]⟩]
  nodup_kinds := List.nodup_singleton _
  nodup_slots := by decide

/-- A link to a node of a kind that the grammar does not know. -/
def strayLink : Node := (Node.ofKind "Link").withNode "" (Node.ofKind "Stray")

/-- A link to the link, through the slot with a name. -/
def namedLink : Node := (Node.ofKind "Link").withNode "Next" strayLink

/-- A link to both, through the slot without one. -/
def blankChain : Node := (Node.ofKind "Link").withNode "" namedLink

theorem renderings_join_segments_of_blank :
    ((⟨Grammar.blank, 3⟩ : Walker).walk .descending () blankChain).result =
      .error (.unknownKind "Stray" (.ofSegments [.field "", .field "Next", .field ""])) ∧
    ((⟨Grammar.blank, 3⟩ : Walker).log .descending () blankChain).2 =
      [.enter blankChain .empty, .enter namedLink (.ofSegments [.field ""]),
        .enter strayLink (.ofSegments [.field "", .field "Next"])] ++
        .enter (Node.ofKind "Stray") (.ofSegments [.field "", .field "Next", .field ""]) :: [] ∧
    (Path.ofSegments [.field ""]).render "/" = "" ∧
    (Path.ofSegments [.field "", .field "Next"]).render "/" = "/Next" ∧
    (Path.ofSegments [.field "", .field "Next", .field ""]).render "/" = "/Next/" ∧
    (Path.ofSegments ([.field ""] ++ [.field ""])).render "/" =
      (Path.ofSegments [.field ""]).render "/" ++ "/" ++
        (Path.ofSegments [.field ""]).render "/" ∧
    (Path.ofSegments ([.field "", .field "Next"] ++ [.field ""])).render "/" =
      (Path.ofSegments [.field "", .field "Next"]).render "/" ++ "/" ++
        (Path.ofSegments [.field ""]).render "/" ∧
    openVisits [] [.enter blankChain .empty, .enter namedLink (.ofSegments [.field ""]),
        .enter strayLink (.ofSegments [.field "", .field "Next"])] =
      [(strayLink, .ofSegments [.field "", .field "Next"]),
        (namedLink, .ofSegments [.field ""]), (blankChain, .empty)] ∧
    ∀ a ∈ [(strayLink, Path.ofSegments [.field "", .field "Next"]),
        (namedLink, .ofSegments [.field ""]), (blankChain, .empty)],
      ∃ rest, (Path.ofSegments [.field "", .field "Next", .field ""]).render "/" =
        a.2.render "/" ++ rest := by
  have told : ((⟨Grammar.blank, 3⟩ : Walker).log .descending () blankChain).2 =
      [.enter blankChain .empty, .enter namedLink (.ofSegments [.field ""]),
        .enter strayLink (.ofSegments [.field "", .field "Next"])] ++
        .enter (Node.ofKind "Stray") (.ofSegments [.field "", .field "Next", .field ""]) :: [] := by
    cbv
  obtain ⟨joins, begins⟩ :=
    Walker.renderings_join_segments ⟨Grammar.blank, 3⟩ .descending () (.root blankChain) "/"
  exact ⟨by cbv, told, by cbv, by cbv, by cbv, joins [.field ""] [.field ""],
    joins [.field "", .field "Next"] [.field ""], rfl, (begins _ _ _ _ told).2⟩

end TreeSearch
