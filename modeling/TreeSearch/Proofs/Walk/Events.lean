import TreeSearch.Proofs.Walk.Runs

/-!
# Events of a run

The log of a run is kept by a visitor that decides like the one it watches, so a logged run is the
run together with its events (`Walker.runLogged_eq`). The events of a concatenation, and of a visit,
are those of the parts; a part behind a fault has none.
-/

namespace TreeSearch

variable {σ τ : Type}

namespace Visitor

theorem simulates_logged (v : Visitor σ τ) : v.Simulates v.logged fun s r => r.1 = s where
  decision := by rintro s ⟨_, log⟩ node path rfl; rfl
  enter := by rintro s ⟨_, log⟩ node path rfl; rfl
  exit := by rintro s ⟨_, log⟩ rfl; rfl

/-- What has been logged before a run stays in place below what the run logs. -/
theorem logged_simulates_logged (v : Visitor σ τ) (old : List (Event τ)) :
    v.logged.Simulates v.logged fun s r => r = (s.1, s.2 ++ old) where
  decision := by rintro ⟨s, log⟩ _ node path rfl; rfl
  enter := by rintro ⟨s, log⟩ _ node path rfl; rfl
  exit := by rintro ⟨s, log⟩ _ rfl; rfl

end Visitor

/-- The nodes that are entered, with their paths, in order. -/
def entered (events : List (Event τ)) : List (τ × Path) :=
  events.filterMap fun
    | .enter node path => some (node, path)
    | .exit => none

@[simp] theorem entered_append (first second : List (Event τ)) :
    entered (first ++ second) = entered first ++ entered second :=
  List.filterMap_append

theorem mem_entered_iff {events : List (Event τ)} {node : τ} {path : Path} :
    (node, path) ∈ entered events ↔ .enter node path ∈ events := by
  simp only [entered, List.mem_filterMap]
  constructor
  · rintro ⟨event, mem, found⟩
    cases event with
    | enter n p => cases found; exact mem
    | exit => cases found
  · intro mem
    exact ⟨_, mem, rfl⟩

namespace Walker

variable [SyntaxTree τ] (w : Walker) (v : Visitor σ τ)

/-- What the visitor is told during a run. -/
def events (s : σ) (agenda : List (Task τ)) : List (Event τ) := (w.runLogged v s agenda).2

theorem runLogged_eq (s : σ) (agenda : List (Task τ)) :
    w.runLogged v s agenda = (w.run v s agenda, w.events v s agenda) := by
  obtain ⟨result, state⟩ := run_simulation w v v.simulates_logged rfl agenda (s := s) (r := (s, []))
  refine Prod.ext ?_ rfl
  simp only [runLogged, ← result, state]

theorem run_logged (s : σ) (log : List (Event τ)) (agenda : List (Task τ)) :
    w.run v.logged (s, log) agenda =
      ⟨((w.run v s agenda).state, (w.events v s agenda).reverse ++ log),
        (w.run v s agenda).result⟩ := by
  obtain ⟨result, state⟩ :=
    run_simulation w v v.simulates_logged rfl agenda (s := s) (r := (s, log))
  obtain ⟨-, kept⟩ := run_simulation w v.logged (v.logged_simulates_logged log) (s := (s, []))
    (r := (s, log)) rfl agenda
  have logged : (w.run v.logged (s, log) agenda).state.2 =
      (w.events v s agenda).reverse ++ log := by
    rw [kept, events, runLogged, List.reverse_reverse]
  rw [← state, result, ← logged]

@[simp] theorem events_nil (s : σ) : w.events v s [] = [] := by
  simp [events, runLogged]

theorem events_fault (s : σ) (e : WalkError) : w.events v s [.fault e] = [] := by
  simp [events, runLogged]

/-- The second part of an agenda adds events if the first part is worked off without fault. -/
theorem events_append_of_ok {s : σ} {first : List (Task τ)}
    (ok : (w.run v s first).result = .ok ()) (second : List (Task τ)) :
    w.events v s (first ++ second) =
      w.events v s first ++ w.events v (w.run v s first).state second := by
  have logged : (w.run v.logged (s, []) first).result = .ok () := by rw [run_logged, ok]
  change (w.run v.logged (s, []) (first ++ second)).state.2.reverse = _
  rw [run_append, Outcome.andThen_of_ok logged, run_logged, run_logged]
  simp

theorem events_cons_of_ok {s : σ} {task : Task τ} (ok : (w.run v s [task]).result = .ok ())
    (rest : List (Task τ)) :
    w.events v s (task :: rest) =
      w.events v s [task] ++ w.events v (w.run v s [task]).state rest :=
  events_append_of_ok w v ok rest

theorem events_append_of_error {s : σ} {first : List (Task τ)} {e : WalkError}
    (error : (w.run v s first).result = .error e) (second : List (Task τ)) :
    w.events v s (first ++ second) = w.events v s first := by
  have logged : (w.run v.logged (s, []) first).result = .error e := by rw [run_logged, error]
  rw [events, runLogged, run_append, Outcome.andThen_of_error logged]
  rfl

theorem events_visit_deep (s : σ) (node : τ) (path : Path) (polymorphic : Bool) {depth : Nat}
    (deep : w.maxDepth < depth) : w.events v s [.visit node path polymorphic depth] = [] := by
  rw [events, runLogged, run_visit_deep w v.logged _ _ _ _ deep]
  rfl

theorem events_visit_skip {s next : σ} {node : τ} {path : Path} (polymorphic : Bool) {depth : Nat}
    (shallow : depth ≤ w.maxDepth) (enter : v.enter s node path = (next, .skip)) :
    w.events v s [.visit node path polymorphic depth] = [.enter node path, .exit] := by
  have logged : v.logged.enter (s, []) node path = ((next, [.enter node path]), .skip) := by
    simp only [Visitor.logged, enter]
  rw [events, runLogged, run_visit_skip w v.logged polymorphic shallow logged]
  rfl

/-- A visit that goes on tells of the node, of what is below it and, if there is no fault below, of
the end of the node. -/
theorem events_visit_descend {s next : σ} {node : τ} {path : Path} (polymorphic : Bool)
    {depth : Nat} (shallow : depth ≤ w.maxDepth)
    (enter : v.enter s node path = (next, .descend)) :
    w.events v s [.visit node path polymorphic depth] =
      .enter node path :: (w.events v next (w.expand node path polymorphic depth) ++
        match (w.run v next (w.expand node path polymorphic depth)).result with
        | .ok () => [.exit]
        | .error _ => []) := by
  have logged : v.logged.enter (s, []) node path = ((next, [.enter node path]), .descend) := by
    simp only [Visitor.logged, enter]
  rw [events, runLogged, run_visit_descend w v.logged polymorphic shallow logged, run_logged]
  cases (w.run v next (w.expand node path polymorphic depth)).result <;>
    simp [Outcome.andThen, Visitor.logged]

theorem entered_visit_descend {s next : σ} {node : τ} {path : Path} (polymorphic : Bool)
    {depth : Nat} (shallow : depth ≤ w.maxDepth)
    (enter : v.enter s node path = (next, .descend)) :
    entered (w.events v s [.visit node path polymorphic depth]) =
      (node, path) :: entered (w.events v next (w.expand node path polymorphic depth)) := by
  rw [events_visit_descend w v polymorphic shallow enter]
  cases (w.run v next (w.expand node path polymorphic depth)).result <;> simp [entered]

end Walker

end TreeSearch
