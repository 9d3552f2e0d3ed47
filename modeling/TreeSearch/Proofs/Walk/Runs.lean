import TreeSearch.Walk.Log
import Mathlib.Data.List.Forall2

/-!
# Runs of an agenda

A run of a concatenation is a run of the first part followed by a run of the second
(`Walker.run_append`), so a run is understood task by task, and a visit through the tasks below its
node (`Walker.run_visit_descend`). Whatever is proved of visits is proved by induction on the levels
that are left (`Walker.depth_induction`).

Two walks are in step (`Walker.InStep`) if places that correspond have tasks below them that do.
Then visitors that decide alike give runs that end alike (`Walker.run_inStep`). Of one walk this
holds for any two visitors that decide alike (`Walker.run_simulation`). The log of a run is kept by
such a visitor, so it composes the way runs do.
-/

namespace TreeSearch

variable {σ τ : Type}

namespace Outcome

/-- Goes on from the final state, unless the walk has failed. -/
def andThen (o : Outcome σ) (next : σ → Outcome σ) : Outcome σ :=
  match o.result with
  | .ok () => next o.state
  | .error _ => o

theorem andThen_of_ok {o : Outcome σ} (h : o.result = .ok ()) (next : σ → Outcome σ) :
    o.andThen next = next o.state := by
  simp only [andThen, h]

theorem andThen_of_error {o : Outcome σ} {e : WalkError} (h : o.result = .error e)
    (next : σ → Outcome σ) : o.andThen next = o := by
  simp only [andThen, h]

theorem andThen_ok_iff (o : Outcome σ) (next : σ → Outcome σ) :
    (o.andThen next).result = .ok () ↔ o.result = .ok () ∧ (next o.state).result = .ok () := by
  cases h : o.result with
  | ok _ => simp [andThen_of_ok h]
  | error e => simp [andThen_of_error h, h]

theorem andThen_error_iff (o : Outcome σ) (next : σ → Outcome σ) (e : WalkError) :
    (o.andThen next).result = .error e ↔
      o.result = .error e ∨ o.result = .ok () ∧ (next o.state).result = .error e := by
  cases h : o.result with
  | ok _ => simp [andThen_of_ok h]
  | error e => simp [andThen_of_error h, h]

end Outcome

namespace Walker

variable [SyntaxTree τ] (w : Walker) (v : Visitor σ τ)

@[simp] theorem run_nil (s : σ) : w.run v s [] = ⟨s, .ok ()⟩ := by rw [run]

@[simp] theorem run_leave_cons (s : σ) (rest : List (Task τ)) :
    w.run v s (.leave :: rest) = w.run v (v.exit s) rest := by rw [run]

@[simp] theorem run_fault_cons (s : σ) (e : WalkError) (rest : List (Task τ)) :
    w.run v s (.fault e :: rest) = ⟨s, .error e⟩ := by rw [run]

theorem run_append (s : σ) (first second : List (Task τ)) :
    w.run v s (first ++ second) = (w.run v s first).andThen fun s => w.run v s second := by
  fun_induction w.run v s first with
  | case1 s => rfl
  | case2 s rest ih => rw [List.cons_append, run_leave_cons, ih]
  | case3 s e rest => rw [List.cons_append, run_fault_cons]; rfl
  | case4 s node path polymorphic depth rest deep =>
      rw [List.cons_append, run, if_pos deep]; rfl
  | case5 s node path polymorphic depth rest shallow next enter ih =>
      rw [List.cons_append, run, if_neg shallow, enter]
      exact ih
  | case6 s node path polymorphic depth rest shallow next enter ih =>
      rw [List.cons_append, run, if_neg shallow, enter, ← ih]
      simp

theorem run_cons (s : σ) (task : Task τ) (rest : List (Task τ)) :
    w.run v s (task :: rest) = (w.run v s [task]).andThen fun s => w.run v s rest :=
  run_append w v s [task] rest

theorem run_visit_deep (s : σ) (node : τ) (path : Path) (polymorphic : Bool) {depth : Nat}
    (deep : w.maxDepth < depth) :
    w.run v s [.visit node path polymorphic depth] =
      ⟨s, .error (.depthExceeded w.maxDepth path)⟩ := by
  rw [run, if_pos deep]

theorem run_visit_skip {s next : σ} {node : τ} {path : Path} (polymorphic : Bool) {depth : Nat}
    (shallow : depth ≤ w.maxDepth) (enter : v.enter s node path = (next, .skip)) :
    w.run v s [.visit node path polymorphic depth] = ⟨v.exit next, .ok ()⟩ := by
  rw [run, if_neg (by omega), enter]
  exact run_nil w v _

/-- A visit that goes on works off the tasks below the node and then leaves it. -/
theorem run_visit_descend {s next : σ} {node : τ} {path : Path} (polymorphic : Bool) {depth : Nat}
    (shallow : depth ≤ w.maxDepth) (enter : v.enter s node path = (next, .descend)) :
    w.run v s [.visit node path polymorphic depth] =
      (w.run v next (w.expand node path polymorphic depth)).andThen fun s =>
        ⟨v.exit s, .ok ()⟩ := by
  rw [run, if_neg (by omega), enter]
  refine (run_append w v next _ _).trans ?_
  simp only [run_leave_cons, run_nil]

omit [SyntaxTree τ] in
/-- Induction on the levels that are left: what holds beyond the depth limit, and at a depth if it
holds one level further down, holds at every depth. -/
theorem depth_induction {P : Nat → Prop} (deep : ∀ depth, w.maxDepth < depth → P depth)
    (step : ∀ depth, depth ≤ w.maxDepth → P (depth + 1) → P depth) (depth : Nat) : P depth := by
  by_cases h : w.maxDepth < depth
  · exact deep depth h
  · exact step depth (by omega) (depth_induction deep step (depth + 1))
termination_by w.maxDepth + 1 - depth

/-- In a run without fault every task has been worked off without fault. -/
theorem run_ok_of_mem {s : σ} {agenda : List (Task τ)} (ok : (w.run v s agenda).result = .ok ())
    {task : Task τ} (mem : task ∈ agenda) : ∃ s', (w.run v s' [task]).result = .ok () := by
  obtain ⟨before, after, rfl⟩ := List.append_of_mem mem
  rw [run_append, Outcome.andThen_ok_iff, run_cons, Outcome.andThen_ok_iff] at ok
  exact ⟨_, ok.2.1⟩

/-- A run that fails has failed at one of its tasks. -/
theorem exists_run_error {s : σ} {agenda : List (Task τ)} {e : WalkError}
    (error : (w.run v s agenda).result = .error e) :
    ∃ task ∈ agenda, ∃ s', (w.run v s' [task]).result = .error e := by
  induction agenda generalizing s with
  | nil => simp at error
  | cons task rest ih =>
      rw [run_cons, Outcome.andThen_error_iff] at error
      rcases error with first | ⟨_, later⟩
      · exact ⟨task, List.mem_cons_self, s, first⟩
      · obtain ⟨task', mem, s', h⟩ := ih later
        exact ⟨task', List.mem_cons_of_mem _ mem, s', h⟩

end Walker

/-- A node with its path, and whether the slot that holds it is polymorphic. -/
structure Place (τ : Type) where
  node : τ
  path : Path
  polymorphic : Bool

/-- The task of visiting the place. -/
def Place.visit (x : Place τ) (depth : Nat) : Task τ := .visit x.node x.path x.polymorphic depth

section InStep

variable {ρ τ' : Type}

/-- The tasks of two walks correspond: they visit places that `P` relates, where the first walk
counts `shift` levels more than the second, or they are faults that `E` relates. -/
inductive Task.Matches (P : Place τ → Place τ' → Prop) (E : WalkError → WalkError → Prop)
    (shift : Nat) : Task τ → Task τ' → Prop
  | visit {x y} (depth : Nat) (places : P x y) :
      Matches P E shift (x.visit (depth + shift)) (y.visit depth)
  | leave : Matches P E shift .leave .leave
  | fault {e e'} (errors : E e e') : Matches P E shift (.fault e) (.fault e')

/-- Tasks correspond to themselves. -/
theorem Task.matches_self (agenda : List (Task τ)) :
    List.Forall₂ (Task.Matches Eq Eq 0) agenda agenda := by
  apply List.forall₂_same.mpr
  intro task _
  cases task with
  | visit node path polymorphic depth => exact .visit (x := ⟨node, path, polymorphic⟩) depth rfl
  | leave => exact .leave
  | fault e => exact .fault rfl

section Inversion

variable {P : Place τ → Place τ' → Prop} {E : WalkError → WalkError → Prop} {shift : Nat}
  {rest : List (Task τ)} {agenda : List (Task τ')}

/-- An agenda that corresponds to one that begins with a visit begins with a visit, too. -/
theorem Task.exists_of_visit_cons {node : τ} {path : Path} {polymorphic : Bool} {depth : Nat}
    (tasks : List.Forall₂ (Task.Matches P E shift) (.visit node path polymorphic depth :: rest)
      agenda) :
    ∃ y depth' rest', depth = depth' + shift ∧ agenda = y.visit depth' :: rest' ∧
      P ⟨node, path, polymorphic⟩ y ∧ List.Forall₂ (Task.Matches P E shift) rest rest' := by
  cases tasks with
  | cons head tail =>
      cases head with
      | @visit x y depth places => exact ⟨y, depth, _, rfl, rfl, places, tail⟩

theorem Task.exists_of_leave_cons
    (tasks : List.Forall₂ (Task.Matches P E shift) (.leave :: rest) agenda) :
    ∃ rest', agenda = .leave :: rest' ∧ List.Forall₂ (Task.Matches P E shift) rest rest' := by
  cases tasks with
  | cons head tail =>
      cases head with
      | leave => exact ⟨_, rfl, tail⟩

theorem Task.exists_of_fault_cons {e : WalkError}
    (tasks : List.Forall₂ (Task.Matches P E shift) (.fault e :: rest) agenda) :
    ∃ e' rest', agenda = .fault e' :: rest' ∧ E e e' := by
  cases tasks with
  | cons head tail =>
      cases head with
      | fault errors => exact ⟨_, _, rfl, errors⟩

end Inversion

/-- Two walks succeed both, or fail both with errors that `E` relates. -/
inductive EndsAlike (E : WalkError → WalkError → Prop) :
    Except WalkError Unit → Except WalkError Unit → Prop
  | ok : EndsAlike E (.ok ()) (.ok ())
  | error {e e'} (errors : E e e') : EndsAlike E (.error e) (.error e')

theorem EndsAlike.eq {r r' : Except WalkError Unit} (ends : EndsAlike Eq r r') : r = r' := by
  cases ends with
  | ok => rfl
  | error errors => rw [errors]

theorem EndsAlike.ok_iff {E : WalkError → WalkError → Prop} {r r' : Except WalkError Unit}
    (ends : EndsAlike E r r') : r = .ok () ↔ r' = .ok () := by
  cases ends <;> simp

/-- The visitors decide alike at places that `P` relates, and keep their states related. -/
structure Visitor.Follows (v : Visitor σ τ) (u : Visitor ρ τ') (P : Place τ → Place τ' → Prop)
    (R : σ → ρ → Prop) : Prop where
  decision : ∀ {s r x y}, R s r → P x y →
    (v.enter s x.node x.path).2 = (u.enter r y.node y.path).2
  enter : ∀ {s r x y}, R s r → P x y →
    R (v.enter s x.node x.path).1 (u.enter r y.node y.path).1
  exit : ∀ {s r}, R s r → R (v.exit s) (u.exit r)

/-- What one visitor decides at a place the other one decides at a related place, and their states
stay related. -/
theorem Visitor.Follows.exists_enter {v : Visitor σ τ} {u : Visitor ρ τ'}
    {P : Place τ → Place τ' → Prop} {R : σ → ρ → Prop} (follows : v.Follows u P R) {s next : σ}
    {r : ρ} {x : Place τ} {y : Place τ'} {decision : Decision} (related : R s r) (places : P x y)
    (enter : v.enter s x.node x.path = (next, decision)) :
    ∃ next', u.enter r y.node y.path = (next', decision) ∧ R next next' := by
  have decisions := follows.decision related places
  have states := follows.enter related places
  rw [enter] at decisions states
  exact ⟨(u.enter r y.node y.path).1, Prod.ext rfl decisions.symm, states⟩

variable [SyntaxTree τ] [SyntaxTree τ']

/-- Two walks are in step: places that `P` relates are beyond the depth limits together, and the
tasks below them correspond. -/
structure Walker.InStep (w w' : Walker) (P : Place τ → Place τ' → Prop)
    (E : WalkError → WalkError → Prop) (shift : Nat) : Prop where
  maxDepth : w.maxDepth = w'.maxDepth + shift
  tooDeep : ∀ {x y}, P x y →
    E (.depthExceeded w.maxDepth x.path) (.depthExceeded w'.maxDepth y.path)
  expand : ∀ {x y} (depth : Nat), P x y → List.Forall₂ (Task.Matches P E shift)
    (w.expand x.node x.path x.polymorphic (depth + shift))
    (w'.expand y.node y.path y.polymorphic depth)

namespace Walker

variable {w w' : Walker} {v : Visitor σ τ} {u : Visitor ρ τ'} {P : Place τ → Place τ' → Prop}
  {E : WalkError → WalkError → Prop} {shift : Nat} {R : σ → ρ → Prop}

/-- Places that correspond are beyond the limits together. -/
theorem InStep.deep_iff (step : w.InStep w' P E shift) (depth : Nat) :
    w.maxDepth < depth + shift ↔ w'.maxDepth < depth := by
  rw [step.maxDepth]
  exact Nat.add_lt_add_iff_right

/-- Walks in step, with visitors that decide alike, end alike and in related states. -/
theorem run_inStep (step : w.InStep w' P E shift) (follows : v.Follows u P R) {s : σ} {r : ρ}
    (related : R s r) {agenda : List (Task τ)} {agenda' : List (Task τ')}
    (tasks : List.Forall₂ (Task.Matches P E shift) agenda agenda') :
    EndsAlike E (w.run v s agenda).result (w'.run u r agenda').result ∧
      R (w.run v s agenda).state (w'.run u r agenda').state := by
  fun_induction w.run v s agenda generalizing r agenda' with
  | case1 s =>
      cases tasks
      rw [run_nil]
      exact ⟨.ok, related⟩
  | case2 s rest ih =>
      obtain ⟨rest', rfl, tail⟩ := Task.exists_of_leave_cons tasks
      rw [run_leave_cons]
      exact ih (follows.exit related) tail
  | case3 s e rest =>
      obtain ⟨e', rest', rfl, errors⟩ := Task.exists_of_fault_cons tasks
      rw [run_fault_cons]
      exact ⟨.error errors, related⟩
  | case4 s node path polymorphic depth rest deep =>
      obtain ⟨y, depth', rest', rfl, rfl, places, tail⟩ := Task.exists_of_visit_cons tasks
      rw [Place.visit, run, if_pos ((step.deep_iff depth').mp deep)]
      exact ⟨.error (step.tooDeep places), related⟩
  | case5 s node path polymorphic depth rest shallow next enter ih =>
      obtain ⟨y, depth', rest', rfl, rfl, places, tail⟩ := Task.exists_of_visit_cons tasks
      obtain ⟨next', enter', after⟩ := follows.exists_enter related places enter
      rw [Place.visit, run, if_neg (mt (step.deep_iff depth').mpr shallow), enter']
      exact ih (follows.exit after) tail
  | case6 s node path polymorphic depth rest shallow next enter ih =>
      obtain ⟨y, depth', rest', rfl, rfl, places, tail⟩ := Task.exists_of_visit_cons tasks
      obtain ⟨next', enter', after⟩ := follows.exists_enter related places enter
      rw [Place.visit, run, if_neg (mt (step.deep_iff depth').mpr shallow), enter']
      apply ih after
      exact List.rel_append (step.expand depth' places) (.cons .leave tail)

end Walker

end InStep

/-- The visitors decide alike and keep their states related. -/
structure Visitor.Simulates {ρ : Type} (v : Visitor σ τ) (u : Visitor ρ τ) (R : σ → ρ → Prop) :
    Prop where
  decision : ∀ {s r} node path, R s r → (v.enter s node path).2 = (u.enter r node path).2
  enter : ∀ {s r} node path, R s r → R (v.enter s node path).1 (u.enter r node path).1
  exit : ∀ {s r}, R s r → R (v.exit s) (u.exit r)

namespace Walker

variable [SyntaxTree τ] (w : Walker) (v : Visitor σ τ)

theorem inStep_self : w.InStep w (Eq (α := Place τ)) Eq 0 where
  maxDepth := rfl
  tooDeep := by rintro x _ rfl; rfl
  expand := by rintro x _ depth rfl; exact Task.matches_self _

/-- Visitors that decide alike see the same run: it ends alike, in related states. -/
theorem run_simulation {ρ : Type} {u : Visitor ρ τ} {R : σ → ρ → Prop} (sim : v.Simulates u R)
    {s : σ} {r : ρ} (related : R s r) (agenda : List (Task τ)) :
    (w.run v s agenda).result = (w.run u r agenda).result ∧
      R (w.run v s agenda).state (w.run u r agenda).state := by
  have follows : v.Follows u Eq R :=
    { decision := by rintro s r x _ related rfl; exact sim.decision x.node x.path related
      enter := by rintro s r x _ related rfl; exact sim.enter x.node x.path related
      exit := sim.exit }
  obtain ⟨ends, states⟩ := run_inStep (inStep_self w) follows related (Task.matches_self agenda)
  exact ⟨ends.eq, states⟩

end Walker

end TreeSearch
