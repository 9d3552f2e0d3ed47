import TreeSearch.Proofs.Walk.Events
import TreeSearch.Proofs.Walk.Layout

/-!
# Logs of walks in step

A visitor may decide by all that it has been told, or only by a view of it
(`Visitor.DecidesFrom`). If two walks are in step, and two visitors choose in the same way from
views that corresponding places share, then the views of the two logs are equal and the walks end
alike (`Walker.InStep.logs`). That walks are in step is shown slot by slot (`SlotsMatch`).
-/

namespace TreeSearch

variable {σ ρ τ τ' α : Type}

/-- The event with another node and another path in the place of those that are told. -/
def Event.map (f : τ → τ') (g : Path → Path) : Event τ → Event τ'
  | .enter node path => .enter (f node) (g path)
  | .exit => .exit

/-- The error with another path. -/
def WalkError.mapPath (g : Path → Path) : WalkError → WalkError
  | .unknownKind kind path => .unknownKind kind (g path)
  | .missingSlot kind slot path => .missingSlot kind slot (g path)
  | .malformedSlot kind slot expected found path =>
    .malformedSlot kind slot expected found (g path)
  | .depthExceeded maxDepth path => .depthExceeded maxDepth (g path)

namespace Visitor

/-- The state of the visitor after an event. -/
def told (v : Visitor σ τ) (s : σ) : Event τ → σ
  | .enter node path => (v.enter s node path).1
  | .exit => v.exit s

/-- The state of the visitor after events. -/
def after (v : Visitor σ τ) (s : σ) (events : List (Event τ)) : σ := events.foldl v.told s

theorem after_concat (v : Visitor σ τ) (s : σ) (events : List (Event τ)) (event : Event τ) :
    v.after s (events ++ [event]) = v.told (v.after s events) event := by
  simp [after]

/-- What the visitor decides, starting in the state `s`, is chosen from a view of the events so far
and of the entry that it is told of. -/
def DecidesFrom (v : Visitor σ τ) (s : σ) (view : Event τ → α)
    (choose : List α → α → Decision) : Prop :=
  ∀ events node path, (v.enter (v.after s events) node path).2 =
    choose (events.map view) (view (.enter node path))

theorem decidesFrom_of_descends {v : Visitor σ τ}
    (descends : ∀ s n p, (v.enter s n p).2 = .descend) (s : σ) (view : Event τ → α) :
    v.DecidesFrom s view fun _ _ => .descend :=
  fun _ node path => descends _ node path

/-- What is chosen from a view of a view is chosen from the view. -/
theorem DecidesFrom.comp {β : Type} {v : Visitor σ τ} {s : σ} {view : Event τ → α} {coarse : α → β}
    {choose : List β → β → Decision}
    (decides : v.DecidesFrom s (coarse ∘ view) choose) :
    v.DecidesFrom s view fun events event => choose (events.map coarse) (coarse event) := by
  intro events node path
  simp only [List.map_map]
  exact decides events node path

/-- Visitors that choose in the same way from views decide alike while the views of their logs are
equal. -/
theorem logged_follows_logged {v : Visitor σ τ} {u : Visitor ρ τ'} {s : σ} {r : ρ}
    {view : Event τ → α} {view' : Event τ' → α} {choose : List α → α → Decision}
    {P : Place τ → Place τ' → Prop} (decides : v.DecidesFrom s view choose)
    (decides' : u.DecidesFrom r view' choose)
    (enters : ∀ {x y}, P x y → view (.enter x.node x.path) = view' (.enter y.node y.path))
    (exits : view .exit = view' .exit) :
    v.logged.Follows u.logged P fun a b => ∃ log log', a = (v.after s log.reverse, log) ∧
      b = (u.after r log'.reverse, log') ∧ log.map view = log'.map view' where
  decision := by
    rintro _ _ x y ⟨log, log', rfl, rfl, views⟩ places
    have histories : log.reverse.map view = log'.reverse.map view' := by
      rw [List.map_reverse, List.map_reverse, views]
    calc (v.enter (v.after s log.reverse) x.node x.path).2
        _ = choose (log.reverse.map view) (view (.enter x.node x.path)) := decides _ _ _
        _ = choose (log'.reverse.map view') (view' (.enter y.node y.path)) := by
          rw [histories, enters places]
        _ = (u.enter (u.after r log'.reverse) y.node y.path).2 := (decides' _ _ _).symm
  enter := by
    rintro _ _ x y ⟨log, log', rfl, rfl, views⟩ places
    refine ⟨.enter x.node x.path :: log, .enter y.node y.path :: log', ?_, ?_, ?_⟩
    · rw [List.reverse_cons, after_concat]
      rfl
    · rw [List.reverse_cons, after_concat]
      rfl
    · rw [List.map_cons, List.map_cons, views, enters places]
  exit := by
    rintro _ _ ⟨log, log', rfl, rfl, views⟩
    refine ⟨.exit :: log, .exit :: log', ?_, ?_, ?_⟩
    · rw [List.reverse_cons, after_concat]
      rfl
    · rw [List.reverse_cons, after_concat]
      rfl
    · rw [List.map_cons, List.map_cons, views, exits]

end Visitor

variable [SyntaxTree τ] [SyntaxTree τ']

/-- Slots of the nodes at two places, which are of kinds `d` and `d'`, correspond: they have the
same arity and hold something of the same shape, and the faults that this may be and the places in
the slots are related. -/
structure SlotsMatch (P : Place τ → Place τ' → Prop) (E : WalkError → WalkError → Prop)
    (x : Place τ) (y : Place τ') (d d' : KindDescriptor) (s s' : SlotDescriptor) : Prop where
  arities : s.arity = s'.arity
  shapes : (SyntaxTree.slot x.node s.name).shape = (SyntaxTree.slot y.node s'.name).shape
  faults : E (slotFault d s (SyntaxTree.slot x.node s.name) (basePath d x.path x.polymorphic))
    (slotFault d' s' (SyntaxTree.slot y.node s'.name) (basePath d' y.path y.polymorphic))
  held : List.Forall₂
    (fun h h' => P (x.child d (h.1, h.2, s.polymorphic)) (y.child d' (h'.1, h'.2, s'.polymorphic)))
    (s.held (SyntaxTree.slot x.node s.name)) (s'.held (SyntaxTree.slot y.node s'.name))

/-- The tasks for slots that correspond do so. -/
theorem SlotsMatch.tasks {P : Place τ → Place τ' → Prop} {E : WalkError → WalkError → Prop}
    {x : Place τ} {y : Place τ'} {d d' : KindDescriptor} {s s' : SlotDescriptor}
    (slots : SlotsMatch P E x y d d' s s') (depth shift : Nat) :
    List.Forall₂ (Task.Matches P E shift)
      (slotTasks d s (SyntaxTree.slot x.node s.name) (basePath d x.path x.polymorphic)
        (depth + shift))
      (slotTasks d' s' (SyntaxTree.slot y.node s'.name) (basePath d' y.path y.polymorphic)
        depth) := by
  have same : s.Fits (SyntaxTree.slot x.node s.name) ↔
      s'.Fits (SyntaxTree.slot y.node s'.name) := by
    rw [SlotDescriptor.Fits, SlotDescriptor.Fits, slots.arities, slots.shapes]
  by_cases fits : s.Fits (SyntaxTree.slot x.node s.name)
  · rw [slotTasks_of_fits fits, slotTasks_of_fits (same.mp fits), List.forall₂_map_left_iff,
      List.forall₂_map_right_iff]
    exact slots.held.imp fun h h' places => .visit depth places
  · rw [slotTasks_of_not_fits fits, slotTasks_of_not_fits (mt same.mpr fits)]
    exact .cons (.fault slots.faults) .nil

namespace Walker

variable {w w' : Walker} {P : Place τ → Place τ' → Prop} {E : WalkError → WalkError → Prop}
  {shift : Nat}

/-- The tasks below nodes of known kinds correspond, if their slots do one by one. -/
theorem expand_matches {x : Place τ} {y : Place τ'} {d d' : KindDescriptor}
    (known : w.grammar.lookup (SyntaxTree.kind x.node) = some d)
    (known' : w'.grammar.lookup (SyntaxTree.kind y.node) = some d')
    (slots : List.Forall₂ (SlotsMatch P E x y d d') d.slots d'.slots) (depth shift : Nat) :
    List.Forall₂ (Task.Matches P E shift) (w.expand x.node x.path x.polymorphic (depth + shift))
      (w'.expand y.node y.path y.polymorphic depth) := by
  simp only [expand, known, known']
  apply List.rel_flatMap slots
  intro s s' slot
  rw [Nat.add_right_comm]
  exact slot.tasks (depth + 1) shift

theorem expand_matches_of_unknown {x : Place τ} {y : Place τ'}
    (unknown : w.grammar.lookup (SyntaxTree.kind x.node) = none)
    (unknown' : w'.grammar.lookup (SyntaxTree.kind y.node) = none)
    (errors : E (.unknownKind (SyntaxTree.kind x.node) x.path)
      (.unknownKind (SyntaxTree.kind y.node) y.path)) (depth shift : Nat) :
    List.Forall₂ (Task.Matches P E shift) (w.expand x.node x.path x.polymorphic (depth + shift))
      (w'.expand y.node y.path y.polymorphic depth) := by
  simp only [expand, unknown, unknown']
  exact .cons (.fault errors) .nil

/-- Of walks in step with visitors that choose in the same way from views, the views of the logs are
equal, and they end alike. -/
theorem InStep.logs (step : w.InStep w' P E shift) {v : Visitor σ τ} {u : Visitor ρ τ'} {s : σ}
    {r : ρ} {view : Event τ → α} {view' : Event τ' → α} {choose : List α → α → Decision}
    (decides : v.DecidesFrom s view choose) (decides' : u.DecidesFrom r view' choose)
    (enters : ∀ {x y}, P x y → view (.enter x.node x.path) = view' (.enter y.node y.path))
    (exits : view .exit = view' .exit) {x : Place τ} {y : Place τ'} (places : P x y)
    (depth : Nat) :
    (w.events v s [x.visit (depth + shift)]).map view =
        (w'.events u r [y.visit depth]).map view' ∧
      EndsAlike E (w.run v s [x.visit (depth + shift)]).result
        (w'.run u r [y.visit depth]).result := by
  have follows := Visitor.logged_follows_logged decides decides' enters exits
  obtain ⟨ends, log, log', state, state', views⟩ := run_inStep (s := (s, [])) (r := (r, [])) step
    follows ⟨[], [], rfl, rfl, rfl⟩ (.cons (.visit depth places) .nil)
  rw [run_logged, run_logged] at ends
  rw [run_logged, List.append_nil, Prod.mk.injEq] at state state'
  rw [← state.2, ← state'.2, List.map_reverse, List.map_reverse] at views
  exact ⟨List.reverse_inj.mp views, ends⟩

end Walker

end TreeSearch
