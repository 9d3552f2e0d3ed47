import TreeSearch.Grammar.Go
import TreeSearch.Node.Basic
import TreeSearch.Proofs.Walk.Events
import TreeSearch.Proofs.Walk.Layout
import Mathlib.Data.List.Permutation

/-!
# The visiting order

The entry of every place and every fault of a tree have a moment in the visiting order
(`Walker.Scheduled`). A walk that goes on below every node keeps this schedule: it enters, in order,
exactly the places that are scheduled before the first fault, and it ends with this fault
(`Walker.keeps_visit`). Of faults after it, and of places at or after it, a visitor never hears.
-/

namespace TreeSearch

variable {σ τ α : Type}

/-- A moment of a walk: the numbers of the slots, and of the nodes in them, on the way there.
Moments are ordered like words in a dictionary. So the entry of a node comes before everything below
it, and a slot comes after everything in the slots before it. -/
abbrev Moment := List Nat

/-- What a walk can come to: a place to enter, or a fault. -/
inductive Stop (τ : Type) where
  | enter (x : Place τ)
  | fault (error : WalkError)

/-- What a walk comes to at which moments. -/
abbrev Schedule (τ : Type) := Moment → Stop τ → Prop

namespace Schedule

/-- The fault comes before every other one. -/
def FirstFault (S : Schedule τ) (m : Moment) (e : WalkError) : Prop :=
  S m (.fault e) ∧ ∀ m' e', S m' (.fault e') → m < m' ∨ m' = m ∧ e' = e

theorem FirstFault.unique {S : Schedule τ} {m m' : Moment} {e e' : WalkError}
    (first : S.FirstFault m e) (first' : S.FirstFault m' e') : m' = m ∧ e' = e := by
  rcases first.2 m' e' first'.1 with less | same
  · rcases first'.2 m e first.1 with less' | ⟨same, -⟩
    · exact absurd less' (List.lt_asymm less)
    · rw [same] at less
      exact absurd less (List.lt_irrefl m')
  · exact same

/-- What comes before the first fault comes before every fault. -/
theorem FirstFault.lt_iff {S : Schedule τ} {m : Moment} {e : WalkError} (first : S.FirstFault m e)
    (moment : Moment) : (∀ m' e', S m' (.fault e') → moment < m') ↔ moment < m := by
  constructor
  · intro before
    exact before m e first.1
  · intro less m' e' fault
    rcases first.2 m' e' fault with later | ⟨rfl, -⟩
    · exact List.lt_trans less later
    · exact less

/-- Both schedules. -/
def both (S T : Schedule τ) : Schedule τ := fun m stop => S m stop ∨ T m stop

/-- All of the first schedule comes before all of the second. -/
def Before (S T : Schedule τ) : Prop := ∀ ⦃m stop m' stop'⦄, S m stop → T m' stop' → m < m'

section Both

variable {S T : Schedule τ}

/-- With a fault in the first of two schedules, what comes before all faults is what does in the
first. -/
theorem enters_both_iff_of_fault {m : Moment} {e : WalkError} (fault : S m (.fault e))
    (order : S.Before T) (x : Place τ) (m' : Moment) :
    (S.both T m' (.enter x) ∧ ∀ m'' e', S.both T m'' (.fault e') → m' < m'') ↔
      S m' (.enter x) ∧ ∀ m'' e', S m'' (.fault e') → m' < m'' := by
  constructor
  · rintro ⟨scheduled | late, before⟩
    · exact ⟨scheduled, fun m'' e' fault' => before m'' e' (.inl fault')⟩
    · exact absurd (order fault late) (List.lt_asymm (before m e (.inl fault)))
  · rintro ⟨scheduled, before⟩
    refine ⟨.inl scheduled, ?_⟩
    rintro m'' e' (fault' | fault')
    · exact before m'' e' fault'
    · exact order scheduled fault'

/-- Without a fault in the first of two schedules, what comes before all faults is what does in one
of them. -/
theorem enters_both_iff_of_no_fault (none : ∀ m e, ¬ S m (.fault e)) (order : S.Before T)
    (x : Place τ) (m : Moment) :
    (S.both T m (.enter x) ∧ ∀ m' e, S.both T m' (.fault e) → m < m') ↔
      (S m (.enter x) ∧ ∀ m' e, S m' (.fault e) → m < m') ∨
        T m (.enter x) ∧ ∀ m' e, T m' (.fault e) → m < m' := by
  constructor
  · rintro ⟨scheduled | scheduled, before⟩
    · exact .inl ⟨scheduled, fun m' e fault => absurd fault (none m' e)⟩
    · exact .inr ⟨scheduled, fun m' e fault => before m' e (.inr fault)⟩
  · rintro (⟨scheduled, -⟩ | ⟨scheduled, before⟩)
    · refine ⟨.inl scheduled, ?_⟩
      rintro m' e (fault | fault)
      · exact absurd fault (none m' e)
      · exact order scheduled fault
    · refine ⟨.inr scheduled, ?_⟩
      rintro m' e (fault | fault)
      · exact absurd fault (none m' e)
      · exact before m' e fault

theorem FirstFault.both_left {m : Moment} {e : WalkError} (first : S.FirstFault m e)
    (order : S.Before T) : (S.both T).FirstFault m e := by
  refine ⟨.inl first.1, ?_⟩
  rintro m' e' (fault | fault)
  · exact first.2 m' e' fault
  · exact .inl (order first.1 fault)

theorem FirstFault.both_right {m : Moment} {e : WalkError} (first : T.FirstFault m e)
    (none : ∀ m e, ¬ S m (.fault e)) : (S.both T).FirstFault m e := by
  refine ⟨.inr first.1, ?_⟩
  rintro m' e' (fault | fault)
  · exact absurd fault (none m' e')
  · exact first.2 m' e' fault

end Both

/-- The schedule of what follows a number. -/
def behind (number : Nat) (S : Schedule τ) : Schedule τ := fun m stop =>
  ∃ later, m = number :: later ∧ S later stop

/-- The schedules of parts that are numbered in order. -/
def concat (S : α → Schedule τ) (first : Nat) (parts : List α) : Schedule τ := fun m stop =>
  ∃ i part, parts[i]? = some part ∧ behind (first + i) (S part) m stop

theorem concat_nil (S : α → Schedule τ) (first : Nat) (m : Moment) (stop : Stop τ) :
    ¬ concat S first [] m stop := by
  rintro ⟨i, part, found, -⟩
  cases found

theorem concat_cons (S : α → Schedule τ) (first : Nat) (part : α) (rest : List α) :
    concat S first (part :: rest) =
      (behind first (S part)).both (concat S (first + 1) rest) := by
  funext m stop
  apply propext
  constructor
  · rintro ⟨i, other, found, scheduled⟩
    cases i with
    | zero => cases found; exact .inl scheduled
    | succ i =>
        refine .inr ⟨i, other, found, ?_⟩
        rwa [Nat.add_assoc, Nat.add_comm 1 i]
  · rintro (scheduled | ⟨i, other, found, scheduled⟩)
    · exact ⟨0, part, rfl, scheduled⟩
    · refine ⟨i + 1, other, found, ?_⟩
      rwa [← Nat.add_assoc, Nat.add_right_comm]

/-- What follows a number comes before the parts with greater numbers. -/
theorem behind_before_concat (S : Schedule τ) (T : α → Schedule τ) (number : Nat)
    (parts : List α) : (behind number S).Before (concat T (number + 1) parts) := by
  rintro m stop m' stop' ⟨later, rfl, -⟩ ⟨i, part, -, later', rfl, -⟩
  exact List.cons_lt_cons_iff.mpr (.inl (by omega))

end Schedule

variable [SyntaxTree τ]

/-- `g.Holds x i j y`: the place `y` is number `j` in slot number `i` of the node at `x`. The slot
is declared for the kind of the node and has a shape that its arity admits. -/
inductive Grammar.Holds (g : Grammar) (x : Place τ) : Nat → Nat → Place τ → Prop
  | intro {d s i j h} (known : g.lookup (SyntaxTree.kind x.node) = some d)
      (slot : d.slots[i]? = some s)
      (item : (s.held (SyntaxTree.slot x.node s.name))[j]? = some h) :
      Holds g x i j (x.child d (h.1, h.2, s.polymorphic))

/-- The schedule of a walk from a place at the given depth. A node that is too deep is a fault when
it is due to be entered, an unknown kind is one right after the entry of the node, and a slot of a
shape that is not admitted is one when the slot is due. All other moments are those of places
below. -/
inductive Walker.Scheduled (w : Walker) : Place τ → Nat → Schedule τ
  | enter (x : Place τ) (depth : Nat) : Scheduled w x depth [] (.enter x)
  | tooDeep {x depth} (deep : w.maxDepth < depth) :
      Scheduled w x depth [] (.fault (.depthExceeded w.maxDepth x.path))
  | unknownKind {x depth} (unknown : w.grammar.lookup (SyntaxTree.kind x.node) = none) :
      Scheduled w x depth [0] (.fault (.unknownKind (SyntaxTree.kind x.node) x.path))
  | slot {x depth d s i} (known : w.grammar.lookup (SyntaxTree.kind x.node) = some d)
      (slot : d.slots[i]? = some s) (unfit : ¬ s.Fits (SyntaxTree.slot x.node s.name)) :
      Scheduled w x depth [i] (.fault (slotFault d s (SyntaxTree.slot x.node s.name)
        (basePath d x.path x.polymorphic)))
  | inside {x depth i j y m stop} (held : w.grammar.Holds x i j y)
      (scheduled : Scheduled w y (depth + 1) m stop) : Scheduled w x depth (i :: j :: m) stop

namespace Walker

variable (w : Walker) (v : Visitor σ τ)

/-- A run keeps a schedule: it enters, in order, the places that come before all faults, and if
there are faults it ends with the first. -/
structure Keeps (s : σ) (agenda : List (Task τ)) (S : Schedule τ) : Prop where
  enters : ∃ visits : List (Place τ × Moment),
    visits.Pairwise (fun a b => a.2 < b.2) ∧
    (∀ x m, (x, m) ∈ visits ↔ S m (.enter x) ∧ ∀ m' e, S m' (.fault e) → m < m') ∧
    entered (w.events v s agenda) = visits.map fun visit => (visit.1.node, visit.1.path)
  ok : (w.run v s agenda).result = .ok () → ∀ m e, ¬ S m (.fault e)
  error : ∀ e, (w.run v s agenda).result = .error e → ∃ m, S.FirstFault m e

variable {w v}

theorem Keeps.nil {s : σ} {S : Schedule τ} (empty : ∀ m stop, ¬ S m stop) : w.Keeps v s [] S where
  enters := by
    refine ⟨[], .nil, fun x m => ?_, by rw [events_nil]; rfl⟩
    exact iff_of_false List.not_mem_nil fun h => empty m _ h.1
  ok := fun _ m e => empty m _
  error := fun e failed => by rw [run_nil] at failed; cases failed

theorem Keeps.fault (s : σ) (m : Moment) (e : WalkError) :
    w.Keeps v s [.fault e] (fun m' stop => m' = m ∧ stop = .fault e) where
  enters := by
    refine ⟨[], .nil, fun x m' => ?_, by rw [events_fault]; rfl⟩
    exact iff_of_false List.not_mem_nil (by rintro ⟨⟨-, same⟩, -⟩; cases same)
  ok := fun done => by rw [run_fault_cons] at done; cases done
  error := by
    intro e' failed
    rw [run_fault_cons] at failed
    cases failed
    refine ⟨m, ⟨rfl, rfl⟩, ?_⟩
    rintro m' e' ⟨rfl, same⟩
    cases same
    exact .inr ⟨rfl, rfl⟩

theorem Keeps.behind {s : σ} {agenda : List (Task τ)} {S : Schedule τ}
    (keeps : w.Keeps v s agenda S) (number : Nat) :
    w.Keeps v s agenda (Schedule.behind number S) where
  enters := by
    obtain ⟨visits, sorted, mem, told⟩ := keeps.enters
    refine ⟨visits.map fun visit => (visit.1, number :: visit.2), ?_, ?_, ?_⟩
    · exact List.pairwise_map.mpr
        (sorted.imp fun less => List.cons_lt_cons_iff.mpr (.inr ⟨rfl, less⟩))
    · intro x m
      rw [List.mem_map]
      constructor
      · rintro ⟨⟨y, later⟩, hvisit, same⟩
        cases same
        obtain ⟨scheduled, before⟩ := (mem _ _).mp hvisit
        refine ⟨⟨later, rfl, scheduled⟩, ?_⟩
        rintro _ e ⟨later', rfl, fault⟩
        exact List.cons_lt_cons_iff.mpr (.inr ⟨rfl, before later' e fault⟩)
      · rintro ⟨⟨later, rfl, scheduled⟩, before⟩
        refine ⟨(x, later), (mem _ _).mpr ⟨scheduled, ?_⟩, rfl⟩
        intro m' e fault
        rcases List.cons_lt_cons_iff.mp (before _ e ⟨m', rfl, fault⟩) with less | ⟨-, less⟩
        · omega
        · exact less
    · rw [told, List.map_map]
      rfl
  ok := by
    rintro done m e ⟨later, -, fault⟩
    exact keeps.ok done later e fault
  error := by
    intro e failed
    obtain ⟨m, fault, first⟩ := keeps.error e failed
    refine ⟨number :: m, ⟨m, rfl, fault⟩, ?_⟩
    rintro _ e' ⟨later, rfl, fault'⟩
    rcases first later e' fault' with less | ⟨rfl, rfl⟩
    · exact .inl (List.cons_lt_cons_iff.mpr (.inr ⟨rfl, less⟩))
    · exact .inr ⟨rfl, rfl⟩

section Append

variable {s : σ} {first second : List (Task τ)} {S T : Schedule τ}

/-- A run whose first part fails keeps the schedule of this part; nothing of the second comes before
the fault. -/
theorem Keeps.append_of_error (head : w.Keeps v s first S) {e : WalkError}
    (failed : (w.run v s first).result = .error e) (order : S.Before T) :
    w.Keeps v s (first ++ second) (S.both T) := by
  obtain ⟨m, least⟩ := head.error e failed
  refine ⟨?_, ?_, ?_⟩
  · obtain ⟨visits, sorted, mem, told⟩ := head.enters
    refine ⟨visits, sorted, ?_, ?_⟩
    · intro x m'
      rw [mem, Schedule.enters_both_iff_of_fault least.1 order]
    · rw [events_append_of_error w v failed, told]
  · intro done
    rw [run_append, Outcome.andThen_ok_iff, failed] at done
    cases done.1
  · intro e' failed'
    rw [run_append, Outcome.andThen_of_error failed, failed] at failed'
    cases failed'
    exact ⟨m, least.both_left order⟩

/-- A run whose first part is without fault keeps the schedules of both parts, one after the
other. -/
theorem Keeps.append_of_ok (head : w.Keeps v s first S)
    (done : (w.run v s first).result = .ok ())
    (tail : w.Keeps v (w.run v s first).state second T) (order : S.Before T) :
    w.Keeps v s (first ++ second) (S.both T) := by
  have none := head.ok done
  refine ⟨?_, ?_, ?_⟩
  · obtain ⟨visits, sorted, mem, told⟩ := head.enters
    obtain ⟨visits', sorted', mem', told'⟩ := tail.enters
    refine ⟨visits ++ visits', ?_, ?_, ?_⟩
    · refine List.pairwise_append.mpr ⟨sorted, sorted', ?_⟩
      rintro ⟨x, m⟩ hvisit ⟨x', m'⟩ hvisit'
      exact order ((mem x m).mp hvisit).1 ((mem' x' m').mp hvisit').1
    · intro x m
      rw [List.mem_append, mem, mem', Schedule.enters_both_iff_of_no_fault none order]
    · rw [events_append_of_ok w v done, entered_append, told, told', List.map_append]
  · intro done' m e
    rw [run_append, Outcome.andThen_of_ok done] at done'
    rintro (fault | fault)
    · exact none m e fault
    · exact tail.ok done' m e fault
  · intro e failed
    rw [run_append, Outcome.andThen_of_ok done] at failed
    obtain ⟨m, least⟩ := tail.error e failed
    exact ⟨m, least.both_right none⟩

/-- A run of two parts keeps both schedules, if all of the first comes before all of the second. -/
theorem Keeps.append (head : w.Keeps v s first S)
    (tail : w.Keeps v (w.run v s first).state second T) (order : S.Before T) :
    w.Keeps v s (first ++ second) (S.both T) := by
  cases result : (w.run v s first).result with
  | error e => exact head.append_of_error result order
  | ok _ => exact head.append_of_ok result tail order

end Append

/-- A run of parts that keep schedules of their own keeps these schedules in order. -/
theorem Keeps.flatMap {tasks : α → List (Task τ)} {S : α → Schedule τ} {parts : List α}
    (keeps : ∀ part ∈ parts, ∀ s, w.Keeps v s (tasks part) (S part)) (number : Nat) (s : σ) :
    w.Keeps v s (parts.flatMap tasks) (Schedule.concat S number parts) := by
  induction parts generalizing number s with
  | nil => exact .nil (Schedule.concat_nil S number)
  | cons part rest ih =>
      rw [List.flatMap_cons, Schedule.concat_cons]
      apply ((keeps part List.mem_cons_self s).behind number).append
      · exact ih (fun other mem => keeps other (List.mem_cons_of_mem _ mem)) (number + 1) _
      · exact Schedule.behind_before_concat _ _ _ _

variable (w)

/-- The schedule of a slot of the node at `x`, which is of kind `d`. -/
def slotSchedule (x : Place τ) (depth : Nat) (d : KindDescriptor) (s : SlotDescriptor) :
    Schedule τ := fun m stop =>
  ¬ s.Fits (SyntaxTree.slot x.node s.name) ∧ m = [] ∧
      stop = .fault (slotFault d s (SyntaxTree.slot x.node s.name)
        (basePath d x.path x.polymorphic)) ∨
    Schedule.concat (fun h => w.Scheduled (x.child d (h.1, h.2, s.polymorphic)) (depth + 1)) 0
      (s.held (SyntaxTree.slot x.node s.name)) m stop

/-- The schedule of what comes after the entry of a place. -/
def scheduleBelow (x : Place τ) (depth : Nat) : Schedule τ := fun m stop =>
  m ≠ [] ∧ w.Scheduled x depth m stop

variable {w}

theorem scheduleBelow_of_unknown {x : Place τ}
    (unknown : w.grammar.lookup (SyntaxTree.kind x.node) = none) (depth : Nat) :
    w.scheduleBelow x depth =
      fun m stop => m = [0] ∧ stop = .fault (.unknownKind (SyntaxTree.kind x.node) x.path) := by
  funext m stop
  apply propext
  constructor
  · rintro ⟨later, scheduled⟩
    cases scheduled with
    | enter | tooDeep => exact absurd rfl later
    | unknownKind => exact ⟨rfl, rfl⟩
    | slot known => cases unknown.symm.trans known
    | inside held =>
        obtain ⟨known, -, -⟩ := held
        cases unknown.symm.trans known
  · rintro ⟨rfl, rfl⟩
    exact ⟨List.cons_ne_nil _ _, .unknownKind unknown⟩

theorem scheduleBelow_of_known {x : Place τ} {d : KindDescriptor}
    (known : w.grammar.lookup (SyntaxTree.kind x.node) = some d) (depth : Nat) :
    w.scheduleBelow x depth = Schedule.concat (w.slotSchedule x depth d) 0 d.slots := by
  funext m stop
  apply propext
  constructor
  · rintro ⟨later, scheduled⟩
    cases scheduled with
    | enter | tooDeep => exact absurd rfl later
    | unknownKind unknown => cases known.symm.trans unknown
    | @slot _ _ d' s i known' slot unfit =>
        cases known.symm.trans known'
        exact ⟨i, s, slot, [], by rw [Nat.zero_add], .inl ⟨unfit, rfl, rfl⟩⟩
    | @inside _ _ i j y m _ held scheduled =>
        obtain ⟨known', slot, item⟩ := held
        cases known.symm.trans known'
        refine ⟨i, _, slot, j :: m, by rw [Nat.zero_add], .inr ⟨j, _, item, m, ?_, scheduled⟩⟩
        rw [Nat.zero_add]
  · rintro ⟨i, s, slot, later, rfl, ⟨unfit, rfl, rfl⟩ | ⟨j, h, item, later', rfl, scheduled⟩⟩
    · rw [Nat.zero_add]
      exact ⟨List.cons_ne_nil _ _, .slot known slot unfit⟩
    · rw [Nat.zero_add, Nat.zero_add]
      exact ⟨List.cons_ne_nil _ _, .inside (.intro known slot item) scheduled⟩

/-- A run of the tasks for a slot keeps the schedule of the slot, if runs of visits one level
further down keep theirs. -/
theorem keeps_slotTasks {depth : Nat}
    (visits : ∀ (y : Place τ) s, w.Keeps v s [y.visit (depth + 1)] (w.Scheduled y (depth + 1)))
    (x : Place τ) (d : KindDescriptor) (slot : SlotDescriptor) (s : σ) :
    w.Keeps v s (slotTasks d slot (SyntaxTree.slot x.node slot.name)
      (basePath d x.path x.polymorphic) (depth + 1)) (w.slotSchedule x depth d slot) := by
  by_cases fits : slot.Fits (SyntaxTree.slot x.node slot.name)
  · have schedule : w.slotSchedule x depth d slot = Schedule.concat
        (fun h => w.Scheduled (x.child d (h.1, h.2, slot.polymorphic)) (depth + 1)) 0
        (slot.held (SyntaxTree.slot x.node slot.name)) := by
      funext m stop
      exact propext (or_iff_right fun unfit => unfit.1 fits)
    rw [slotTasks_of_fits fits, schedule, List.map_eq_flatMap]
    exact Keeps.flatMap (fun h _ s => visits (x.child d (h.1, h.2, slot.polymorphic)) s) 0 s
  · have none := SlotDescriptor.held_of_not_fits fits
    have schedule : w.slotSchedule x depth d slot = fun m stop => m = [] ∧
        stop = .fault (slotFault d slot (SyntaxTree.slot x.node slot.name)
          (basePath d x.path x.polymorphic)) := by
      funext m stop
      rw [slotSchedule, none]
      exact propext ((or_iff_left (Schedule.concat_nil _ _ _ _)).trans (and_iff_right fits))
    rw [slotTasks_of_not_fits fits, schedule]
    exact .fault s [] _

theorem keeps_expand {depth : Nat}
    (visits : ∀ (y : Place τ) s, w.Keeps v s [y.visit (depth + 1)] (w.Scheduled y (depth + 1)))
    (x : Place τ) (s : σ) :
    w.Keeps v s (w.expand x.node x.path x.polymorphic depth) (w.scheduleBelow x depth) := by
  cases known : w.grammar.lookup (SyntaxTree.kind x.node) with
  | none =>
      rw [scheduleBelow_of_unknown known]
      simp only [expand, known]
      exact .fault s [0] _
  | some d =>
      rw [scheduleBelow_of_known known]
      simp only [expand, known]
      exact Keeps.flatMap (fun slot _ s => keeps_slotTasks visits x d slot s) 0 s

/-- The entry of a place within the depth limit comes before everything below it. -/
theorem Keeps.enter {s next : σ} {x : Place τ} {depth : Nat} (shallow : depth ≤ w.maxDepth)
    (enter : v.enter s x.node x.path = (next, .descend))
    (keeps : w.Keeps v next (w.expand x.node x.path x.polymorphic depth)
      (w.scheduleBelow x depth)) :
    w.Keeps v s [x.visit depth] (w.Scheduled x depth) := by
  have later : ∀ m e, w.Scheduled x depth m (.fault e) → m ≠ [] := by
    rintro _ e scheduled rfl
    cases scheduled
    omega
  refine ⟨?_, ?_, ?_⟩
  · obtain ⟨visits, sorted, mem, told⟩ := keeps.enters
    refine ⟨(x, []) :: visits, ?_, ?_, ?_⟩
    · refine List.pairwise_cons.mpr ⟨?_, sorted⟩
      rintro ⟨y, m⟩ hvisit
      obtain ⟨i, rest, rfl⟩ := List.exists_cons_of_ne_nil ((mem y m).mp hvisit).1.1
      exact List.nil_lt_cons i rest
    · intro y m
      rw [List.mem_cons, mem]
      constructor
      · rintro (same | ⟨⟨-, scheduled⟩, before⟩)
        · cases same
          refine ⟨.enter x depth, fun m' e fault => ?_⟩
          obtain ⟨i, rest, rfl⟩ := List.exists_cons_of_ne_nil (later m' e fault)
          exact List.nil_lt_cons i rest
        · exact ⟨scheduled, fun m' e fault => before m' e ⟨later m' e fault, fault⟩⟩
      · rintro ⟨scheduled, before⟩
        by_cases here : m = []
        · subst here
          cases scheduled
          exact .inl rfl
        · exact .inr ⟨⟨here, scheduled⟩, fun m' e fault => before m' e fault.2⟩
    · rw [Place.visit, entered_visit_descend w v _ shallow enter, told]
      rfl
  · intro done m e fault
    rw [Place.visit, run_visit_descend w v _ shallow enter, Outcome.andThen_ok_iff] at done
    exact keeps.ok done.1 m e ⟨later m e fault, fault⟩
  · intro e failed
    rw [Place.visit, run_visit_descend w v _ shallow enter, Outcome.andThen_error_iff] at failed
    rcases failed with failed | ⟨-, failed⟩
    · obtain ⟨m, fault, least⟩ := keeps.error e failed
      exact ⟨m, fault.2, fun m' e' fault' => least m' e' ⟨later m' e' fault', fault'⟩⟩
    · cases failed

/-- A visit that goes on below every node keeps the schedule. -/
theorem keeps_visit (descends : ∀ s n p, (v.enter s n p).2 = .descend) (x : Place τ) (depth : Nat)
    (s : σ) : w.Keeps v s [x.visit depth] (w.Scheduled x depth) := by
  induction depth using w.depth_induction generalizing x s with
  | deep depth deep =>
      have first : ∀ m e, w.Scheduled x depth m (.fault e) → [] < m ∨ m = [] ∧
          e = .depthExceeded w.maxDepth x.path := by
        intro m e fault
        cases m with
        | nil => cases fault; exact .inr ⟨rfl, rfl⟩
        | cons i rest => exact .inl (List.nil_lt_cons i rest)
      refine ⟨⟨[], .nil, fun y m => ?_, ?_⟩, ?_, ?_⟩
      · refine iff_of_false List.not_mem_nil ?_
        rintro ⟨-, before⟩
        exact List.not_lt_nil m (before [] _ (.tooDeep deep))
      · rw [Place.visit, events_visit_deep w v s _ _ _ deep]
        rfl
      · intro done
        rw [Place.visit, run_visit_deep w v s _ _ _ deep] at done
        cases done
      · intro e failed
        rw [Place.visit, run_visit_deep w v s _ _ _ deep] at failed
        cases failed
        exact ⟨[], .tooDeep deep, first⟩
  | step depth shallow ih =>
      have enter : v.enter s x.node x.path = ((v.enter s x.node x.path).1, .descend) :=
        Prod.ext rfl (descends s x.node x.path)
      exact .enter shallow enter (keeps_expand ih x _)

/-- A walk that goes on below every node fails exactly if there is a first fault in the visiting
order, and with this fault. It has then entered, in order, the places that come before the fault. -/
theorem first_fault_ends_walk (w : Walker) (descends : ∀ s n p, (v.enter s n p).2 = .descend)
    (s : σ) (root : τ) :
    (∀ e, (w.walk v s root).result = .error e ↔
      ∃ m, (w.Scheduled (.root root) 0).FirstFault m e) ∧
    ∀ m e, (w.Scheduled (.root root) 0).FirstFault m e →
      ∃ visits : List (Place τ × Moment),
        visits.Pairwise (fun a b => a.2 < b.2) ∧
        (∀ x m', (x, m') ∈ visits ↔ w.Scheduled (.root root) 0 m' (.enter x) ∧ m' < m) ∧
        entered (w.log v s root).2 = visits.map fun visit => (visit.1.node, visit.1.path) := by
  have keeps : w.Keeps v s [(Place.root root).visit 0] (w.Scheduled (.root root) 0) :=
    keeps_visit descends (.root root) 0 s
  constructor
  · intro e
    refine ⟨keeps.error e, ?_⟩
    rintro ⟨m, first⟩
    cases result : (w.walk v s root).result with
    | ok _ => exact absurd first.1 (keeps.ok result m e)
    | error e' =>
        obtain ⟨m', first'⟩ := keeps.error e' result
        rw [(first.unique first').2]
  · intro m e first
    obtain ⟨visits, sorted, mem, told⟩ := keeps.enters
    refine ⟨visits, sorted, fun x m' => ?_, told⟩
    rw [mem, first.lt_iff]

end Walker

/-- A package of two files: a declaration of the first is of no known kind, and the second has no
name. -/
def faultyPackage : Node :=
  (Node.ofKind "Package").withKeyed "Files"
    [("b.go", Node.ofKind "File"),
     ("a.go", ((Node.ofKind "File").withNode "Name" (Node.ident "main")).withList "Decls"
      [Node.ofKind "BadDecl", Node.ofKind "Mystery"])]

theorem first_fault_ends_walk_of_package :
    ((⟨Grammar.go, 2⟩ : Walker).walk .descending () faultyPackage).result =
      .error (.unknownKind "Mystery" (.ofSegments [.key "Files" "a.go", .index "Decls" 1])) ∧
    ∃ m, ((⟨Grammar.go, 2⟩ : Walker).Scheduled (.root faultyPackage) 0).FirstFault m
        (.unknownKind "Mystery" (.ofSegments [.key "Files" "a.go", .index "Decls" 1])) ∧
      ∃ visits : List (Place Node × Moment),
        visits.Pairwise (fun a b => a.2 < b.2) ∧
        (∀ x m', (x, m') ∈ visits ↔
          (⟨Grammar.go, 2⟩ : Walker).Scheduled (.root faultyPackage) 0 m' (.enter x) ∧ m' < m) ∧
        entered ((⟨Grammar.go, 2⟩ : Walker).log .descending () faultyPackage).2 =
          visits.map fun visit => (visit.1.node, visit.1.path) := by
  have failed : ((⟨Grammar.go, 2⟩ : Walker).walk .descending () faultyPackage).result =
      .error (.unknownKind "Mystery" (.ofSegments [.key "Files" "a.go", .index "Decls" 1])) := by
    cbv
  obtain ⟨faults, enters⟩ := Walker.first_fault_ends_walk ⟨Grammar.go, 2⟩
    (v := .descending) (fun _ _ _ => rfl) () faultyPackage
  obtain ⟨m, first⟩ := (faults _).mp failed
  exact ⟨failed, m, first, enters m _ first⟩

end TreeSearch
