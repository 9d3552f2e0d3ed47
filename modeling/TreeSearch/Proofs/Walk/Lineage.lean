import TreeSearch.Proofs.Walk.OpenChain

/-!
# The ancestors of a visit

When a walk enters a node, the nodes that it has entered and not left are the ancestors of the node,
from the start of the walk down, and all other visits so far are complete (`Grammar.Lineage`). What
the walk tells from there on begins with a visit of the node, as deep as it has ancestors
(`Walker.exists_lineage`). This holds for every visitor, and for walks that fail later on.
-/

namespace TreeSearch

variable {σ τ α : Type}

/-- A list with an element in its middle that consists of two parts has the element in one of
them. -/
theorem append_eq_append_cons {first second earlier later : List α} {a : α}
    (same : first ++ second = earlier ++ a :: later) :
    (∃ rest, first = earlier ++ a :: rest ∧ later = rest ++ second) ∨
      ∃ rest, earlier = first ++ rest ∧ second = rest ++ a :: later := by
  rcases List.append_eq_append_iff.mp same with ⟨rest, rfl, second⟩ | ⟨rest, rfl, behind⟩
  · exact .inr ⟨rest, rfl, second⟩
  · cases rest with
    | nil => exact .inr ⟨[], by simp, behind.symm⟩
    | cons b rest =>
        rw [List.cons_append, List.cons.injEq] at behind
        obtain ⟨rfl, rfl⟩ := behind
        exact .inl ⟨rest, rfl, rfl⟩

variable [SyntaxTree τ]

/-- `g.Lineage x ancestors y earlier`: the place `y` is reached from `x` down through the ancestors,
each held by a declared slot of the one before, and before it is entered the visitor has been told
of them and of visits that are complete. -/
inductive Grammar.Lineage (g : Grammar) :
    Place τ → List (Place τ) → Place τ → List (Event τ) → Prop
  | start (x : Place τ) : Lineage g x [] x []
  | under {x y z : Place τ} {ancestors : List (Place τ)} {earlier : List (Event τ)}
      (held : y ∈ g.below x) (done : List (VisitTree τ)) (rest : Lineage g y ancestors z earlier) :
      Lineage g x (x :: ancestors) z
        (.enter x.node x.path :: (VisitTree.eventsAll done ++ earlier))

namespace Walker

variable (w : Walker) (v : Visitor σ τ)

/-- What is told during a run is told by one of its tasks, and the tasks before it are worked off
without fault. -/
theorem exists_telling_task {s : σ} {agenda : List (Task τ)} {earlier later : List (Event τ)}
    {event : Event τ} (told : w.events v s agenda = earlier ++ event :: later) :
    ∃ before task after, agenda = before ++ task :: after ∧
      (w.run v s before).result = .ok () ∧
      ∃ earlier' later', earlier = w.events v s before ++ earlier' ∧ later' <+: later ∧
        w.events v (w.run v s before).state [task] = earlier' ++ event :: later' := by
  induction agenda generalizing s earlier with
  | nil => simp at told
  | cons task others ih =>
      cases ends : (w.run v s [task]).result with
      | error e =>
          have only := events_append_of_error w v ends others
          rw [List.singleton_append, told] at only
          exact ⟨[], task, others, rfl, by simp, earlier, later, by simp, List.prefix_refl _,
            by rw [run_nil, only]⟩
      | ok _ =>
          rw [events_cons_of_ok w v ends] at told
          rcases append_eq_append_cons told with ⟨rest, here, rfl⟩ | ⟨rest, rfl, there⟩
          · exact ⟨[], task, others, rfl, by simp, earlier, rest, by simp, List.prefix_append _ _,
              by rw [run_nil, here]⟩
          · obtain ⟨before, other, after, rfl, ok, earlier', later', rfl, begins, telling⟩ :=
              ih there
            have state : w.run v s (task :: before) = w.run v (w.run v s [task]).state before := by
              rw [run_cons, Outcome.andThen_of_ok ends]
            refine ⟨task :: before, other, after, rfl, by rw [state, ok], earlier', later', ?_,
              begins, by rw [state, telling]⟩
            rw [events_cons_of_ok w v ends before, List.append_assoc]

/-- An entry below a node is told by the visit of a place below it, and the visits before that are
complete. -/
theorem exists_telling_below {x : Place τ} {depth : Nat} {s : σ} {earlier later : List (Event τ)}
    {n : τ} {p : Path}
    (told : w.events v s (w.expand x.node x.path x.polymorphic depth) =
      earlier ++ .enter n p :: later) :
    ∃ y ∈ w.grammar.below x, ∃ done earlier' later' s',
      earlier = VisitTree.eventsAll done ++ earlier' ∧ later' <+: later ∧
      w.events v s' [y.visit (depth + 1)] = earlier' ++ .enter n p :: later' ∧
      ((w.run v s (w.expand x.node x.path x.polymorphic depth)).result = .ok () →
        (w.run v s' [y.visit (depth + 1)]).result = .ok ()) := by
  obtain ⟨before, task, after, tasks, ok, earlier', later', rfl, begins, telling⟩ :=
    exists_telling_task w v told
  obtain ⟨done, complete⟩ := exists_eventsAll_of_expand w v tasks s ok
  have mem : task ∈ w.expand x.node x.path x.polymorphic depth := by rw [tasks]; simp
  rcases mem_expand w mem with ⟨y, below, rfl⟩ | ⟨e, rfl, -⟩
  · refine ⟨y, below, done, earlier', later', _, by rw [complete], begins, telling, ?_⟩
    intro all
    rw [tasks, run_append, Outcome.andThen_ok_iff, run_cons, Outcome.andThen_ok_iff] at all
    exact all.2.1
  · rw [events_fault] at telling
    simp at telling

/-- A visit within the depth limit begins with the entry of its node. -/
theorem events_visit_of_shallow (x : Place τ) {depth : Nat} (shallow : depth ≤ w.maxDepth) (s : σ) :
    ∃ rest, w.events v s [x.visit depth] = .enter x.node x.path :: rest := by
  unfold Place.visit
  rcases enter : v.enter s x.node x.path with ⟨next, decision⟩
  cases decision with
  | skip => exact ⟨_, events_visit_skip w v _ shallow enter⟩
  | descend => exact ⟨_, events_visit_descend w v _ shallow enter⟩

/-- Every entry has a lineage from the start of the walk down, and what is told from there on begins
with a visit of the node, which is without fault if the walk is. -/
theorem exists_lineage (x : Place τ) (depth : Nat) (s : σ) {earlier later : List (Event τ)}
    {n : τ} {p : Path}
    (told : w.events v s [x.visit depth] = earlier ++ .enter n p :: later) :
    ∃ ancestors y, y.node = n ∧ y.path = p ∧ w.grammar.Lineage x ancestors y earlier ∧
      depth + ancestors.length ≤ w.maxDepth ∧
      ∃ s', w.events v s' [y.visit (depth + ancestors.length)] <+: .enter n p :: later ∧
        ((w.run v s [x.visit depth]).result = .ok () →
          (w.run v s' [y.visit (depth + ancestors.length)]).result = .ok ()) := by
  induction depth using w.depth_induction generalizing x s earlier later with
  | deep depth deep => simp [Place.visit, events_visit_deep w v _ _ _ _ deep] at told
  | step depth shallow ih =>
      cases earlier with
      | nil =>
          obtain ⟨rest, first⟩ := events_visit_of_shallow w v x shallow s
          have begins := told
          rw [first, List.nil_append, List.cons.injEq, Event.enter.injEq] at begins
          obtain ⟨⟨rfl, rfl⟩, -⟩ := begins
          refine ⟨[], x, rfl, rfl, .start x, shallow, s, ?_, id⟩
          exact told ▸ List.prefix_refl _
      | cons event earlier =>
          rw [Place.visit] at told
          rcases enter : v.enter s x.node x.path with ⟨next, decision⟩
          cases decision with
          | skip =>
              rw [events_visit_skip w v _ shallow enter, List.cons_append, List.cons.injEq] at told
              have mem : Event.enter n p ∈ [.exit] := by rw [told.2]; simp
              simp at mem
          | descend =>
              rw [events_visit_descend w v _ shallow enter, List.cons_append, List.cons.injEq]
                at told
              obtain ⟨rfl, told⟩ := told
              rcases append_eq_append_cons told with ⟨rest, inside, rfl⟩ | ⟨rest, -, behind⟩
              · obtain ⟨y, below, done, earlier', later', s', rfl, goesOn, telling, okBelow⟩ :=
                  exists_telling_below w v inside
                obtain ⟨ancestors, z, node, path, lineage, within, s'', begins, ok⟩ :=
                  ih y s' telling
                have level : depth + 1 + ancestors.length = depth + (x :: ancestors).length := by
                  rw [List.length_cons]
                  omega
                rw [level] at within begins ok
                refine ⟨x :: ancestors, z, node, path, .under below done lineage, within, s'',
                  begins.trans ?_, ?_⟩
                · exact List.cons_prefix_cons.mpr ⟨rfl, goesOn.trans (List.prefix_append _ _)⟩
                · intro all
                  rw [Place.visit, run_visit_descend w v _ shallow enter,
                    Outcome.andThen_ok_iff] at all
                  exact ok (okBelow all.1)
              · have mem : Event.enter n p ∈ rest ++ .enter n p :: later := by simp
                rw [← behind] at mem
                split at mem <;> simp at mem

end Walker

end TreeSearch
