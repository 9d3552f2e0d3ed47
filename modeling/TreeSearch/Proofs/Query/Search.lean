import TreeSearch.Proofs.Walk.Conformance
import TreeSearch.Query
import Mathlib.Data.List.Permutation

/-!
# Searching is filtering

The visitor that collects what a query selects decides like any visitor that goes on below every
node, and what it has collected is what the query selects in the log. So a search is a filter of
the visits of such a walk, and it fails like the walk does (`Walker.find_eq`).
-/

namespace TreeSearch

variable {σ τ : Type} [SyntaxTree τ]

namespace Query

/-- The visits that the query selects, in their order. -/
def select (q : Query) (g : Grammar) (visits : List (τ × Path)) : List (Match τ) :=
  (visits.filter fun e => q.selects g e.1 e.2).map fun e => ⟨e.1, e.2⟩

theorem select_reverse (q : Query) (g : Grammar) (visits : List (τ × Path)) :
    q.select g visits.reverse = (q.select g visits).reverse := by
  rw [select, List.filter_reverse, List.map_reverse]
  rfl

/-- While the log of a walk is kept, what has been collected is what the query selects in it. Both
have what came last first. -/
theorem logged_simulates_collector {v : Visitor σ τ}
    (descends : ∀ s n p, (v.enter s n p).2 = .descend) (q : Query) (g : Grammar) :
    v.logged.Simulates (q.collector g) fun s found => found = q.select g (entered s.2) where
  decision := by
    rintro ⟨s, log⟩ _ node path rfl
    exact descends s node path
  enter := by
    rintro ⟨s, log⟩ _ node path rfl
    by_cases chosen : q.selects g node path = true
    · simp [collector, Visitor.logged, select, entered, chosen]
    · simp [collector, Visitor.logged, select, entered, chosen]
  exit := by
    rintro ⟨s, log⟩ _ rfl
    rfl

end Query

namespace Walker

variable {v : Visitor σ τ}

/-- A search fails like a walk that goes on below every node, and otherwise finds what the query
selects among the visits of the walk. -/
theorem find_eq (w : Walker) (descends : ∀ s n p, (v.enter s n p).2 = .descend) (s : σ) (q : Query)
    (root : τ) :
    w.find q root = (w.walk v s root).result.map fun _ =>
      q.select w.grammar (entered (w.log v s root).2) := by
  let agenda : List (Task τ) := [.visit root .empty false 0]
  obtain ⟨result, state⟩ := run_simulation w v.logged
    (q.logged_simulates_collector descends w.grammar) (s := (s, [])) (r := []) rfl agenda
  have logged : (w.run v.logged (s, []) agenda).state.2 = (w.log v s root).2.reverse :=
    (List.reverse_reverse _).symm
  have ends : (w.walk v s root).result = (w.run (q.collector w.grammar) [] agenda).result := by
    rw [← result, run_logged]
    rfl
  have found : (w.run (q.collector w.grammar) [] agenda).state.reverse =
      q.select w.grammar (entered (w.log v s root).2) := by
    rw [state, logged, ← Query.select_reverse, entered, entered, List.filterMap_reverse,
      List.reverse_reverse]
  rw [ends, ← found]
  simp only [find, walk, walkFrom]
  cases (w.run (q.collector w.grammar) [] agenda).result <;> rfl

/-- Searching is filtering. A search fails with an error exactly if a walk that goes on below every
node does. It returns nodes exactly if that walk is without fault, and then those visits of the walk
that the query selects, in their order and with the paths at which the nodes were entered. So
nothing that is found before a fault is returned. -/
theorem search_filters_visits (w : Walker) (descends : ∀ s n p, (v.enter s n p).2 = .descend)
    (s : σ) (q : Query) (root : τ) :
    (∀ e, w.find q root = .error e ↔ (w.walk v s root).result = .error e) ∧
    ∀ found, w.find q root = .ok found ↔
      (w.walk v s root).result = .ok () ∧
      found = ((entered (w.log v s root).2).filter fun e => q.selects w.grammar e.1 e.2).map
        fun e => ⟨e.1, e.2⟩ := by
  rw [find_eq w descends s q root]
  cases (w.walk v s root).result with
  | error e =>
      constructor
      · intro e'
        simp [Except.map]
      · intro found
        simp [Except.map]
  | ok _ =>
      constructor
      · intro e
        simp [Except.map]
      · intro found
        simp [Except.map, Query.select, eq_comm]

end Walker

/-- The search for identifiers finds the name of the file. In the package whose file has no name,
the file is entered and selected before the walk fails, and is not returned. -/
theorem search_filters_visits_of_package :
    ((⟨Grammar.go, 2⟩ : Walker).walk .descending () samplePackage).result = .ok () ∧
    (⟨Grammar.go, 2⟩ : Walker).find (.kind "*ast.Ident") samplePackage =
      .ok [⟨.ident "main", .ofSegments [.key "Files" "a.go", .field "Name"]⟩] ∧
    (entered ((⟨Grammar.go, 2⟩ : Walker).log .descending () brokenPackage).2).map
      (fun e => (Query.kind "*ast.File").selects Grammar.go e.1 e.2) = [false, true] ∧
    (⟨Grammar.go, 2⟩ : Walker).find (.kind "*ast.File") brokenPackage =
      .error (.missingSlot "File" "Name" (.ofSegments [.key "Files" "a.go"])) := by
  have ok : ((⟨Grammar.go, 2⟩ : Walker).walk .descending () samplePackage).result = .ok () := by cbv
  have failed : ((⟨Grammar.go, 2⟩ : Walker).walk .descending () brokenPackage).result =
      .error (.missingSlot "File" "Name" (.ofSegments [.key "Files" "a.go"])) := by
    cbv
  have idents := Walker.search_filters_visits (v := .descending) ⟨Grammar.go, 2⟩
    (fun _ _ _ => rfl) () (.kind "*ast.Ident") samplePackage
  have files := Walker.search_filters_visits (v := .descending) ⟨Grammar.go, 2⟩
    (fun _ _ _ => rfl) () (.kind "*ast.File") brokenPackage
  exact ⟨ok, (idents.2 _).mpr ⟨ok, by cbv⟩, by cbv, (files.1 _).mpr failed⟩

end TreeSearch
