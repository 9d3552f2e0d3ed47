import TreeSearch.Proofs.Text.ByteOrder
import TreeSearch.Proofs.Walk.Conformance
import TreeSearch.Proofs.Walk.DeclaredSlots
import TreeSearch.Proofs.Walk.Lineage
import TreeSearch.Proofs.Walk.Resolution
import Mathlib.Data.List.Permutation

/-!
# Keyed slots and the order in which they are presented

A tree presents the entries of a keyed slot in some order, and a walk visits them by key. The sort
is stable, so two presentations that differ only in the order of entries with different keys
(`Reorders`) are sorted into the same list (`Reorders.mergeSort_eq`). Trees whose keyed slots are
presented in different orders, at any nodes, are therefore alike to every walk
(`Rearranges.seesAlike`), and walks of them tell of the same visits. Which visits these are for one
keyed slot is read off the tree that a walk visits (`Walker.enteredBelow_eq`).
-/

namespace TreeSearch

open Json (utf8)

variable {σ ρ τ τ' α : Type}

section Entries

/-- The entries of a keyed slot in another order, in which those with one key follow each other as
before. -/
structure Reorders (first second : List (String × α)) : Prop where
  perm : first.Perm second
  stable : ∀ key, first.filter (·.1 = key) = second.filter (·.1 = key)

/-- Sorting keeps the order of entries with one key. -/
theorem filter_mergeSort (entries : List (String × α)) (key : String) :
    (entries.mergeSort fun a b => a.1 ≤ b.1).filter (·.1 = key) =
      entries.filter (·.1 = key) := by
  have equal : (entries.filter (·.1 = key)).Pairwise fun a b => decide (a.1 ≤ b.1) = true := by
    apply List.pairwise_of_forall_mem_list
    intro a mem b mem'
    have first := of_decide_eq_true (List.mem_filter.mp mem).2
    have second := of_decide_eq_true (List.mem_filter.mp mem').2
    exact decide_eq_true (first.trans second.symm).le
  have kept := (List.sublist_mergeSort Text.key_le_trans Text.key_le_total equal
    List.filter_sublist).filter (·.1 = key)
  rw [List.filter_filter] at kept
  simp only [Bool.and_self] at kept
  have count := ((List.mergeSort_perm entries fun a b => a.1 ≤ b.1).filter (·.1 = key)).length_eq
  exact (kept.eq_of_length count.symm).symm

theorem reorders_mergeSort (entries : List (String × α)) :
    Reorders entries (entries.mergeSort fun a b => a.1 ≤ b.1) where
  perm := (List.mergeSort_perm entries _).symm
  stable key := (filter_mergeSort entries key).symm

/-- The first of entries in the order of their keys has no greater key than the first of others, if
the entries with each key are the same. -/
theorem head_key_le {a b : String × α} {rest rest' : List (String × α)}
    (sorted : (b :: rest').Pairwise fun a b => a.1 ≤ b.1)
    (stable : ∀ key, (a :: rest).filter (·.1 = key) = (b :: rest').filter (·.1 = key)) :
    b.1 ≤ a.1 := by
  have here : a ∈ (a :: rest).filter (·.1 = a.1) := by simp
  rw [stable] at here
  rcases List.mem_cons.mp (List.mem_of_mem_filter here) with rfl | there
  · exact le_refl _
  · exact List.rel_of_pairwise_cons sorted there

/-- Entries in the order of their keys are given by the entries with each key. -/
theorem eq_of_filter_eq {first second : List (String × α)}
    (sorted : first.Pairwise fun a b => a.1 ≤ b.1) (sorted' : second.Pairwise fun a b => a.1 ≤ b.1)
    (stable : ∀ key, first.filter (·.1 = key) = second.filter (·.1 = key)) : first = second := by
  induction first generalizing second with
  | nil =>
      cases second with
      | nil => rfl
      | cons b rest' => simpa using stable b.1
  | cons a rest ih =>
      cases second with
      | nil => simpa using stable a.1
      | cons b rest' =>
          have key : a.1 = b.1 :=
            le_antisymm (head_key_le sorted fun key => (stable key).symm)
              (head_key_le sorted' stable)
          have heads : a = b := by
            have entries := stable a.1
            simp only [List.filter_cons, key, decide_true, if_true, List.cons.injEq] at entries
            exact entries.1
          subst heads
          rw [ih sorted.of_cons sorted'.of_cons]
          intro key
          have entries := stable key
          by_cases same : a.1 = key <;> simpa [List.filter_cons, same] using entries

/-- Presentations that differ only in the order of entries with different keys are sorted into the
same list. -/
theorem Reorders.mergeSort_eq {first second : List (String × α)}
    (reorders : Reorders first second) :
    (first.mergeSort fun a b => a.1 ≤ b.1) = second.mergeSort fun a b => a.1 ≤ b.1 := by
  apply eq_of_filter_eq (Text.pairwise_key_mergeSort first) (Text.pairwise_key_mergeSort second)
  intro key
  calc (first.mergeSort fun a b => a.1 ≤ b.1).filter (·.1 = key)
      _ = first.filter (·.1 = key) := filter_mergeSort first key
      _ = second.filter (·.1 = key) := reorders.stable key
      _ = (second.mergeSort fun a b => a.1 ≤ b.1).filter (·.1 = key) :=
        (filter_mergeSort second key).symm

end Entries

namespace SlotValue

/-- The slot is presented in another order, if it is keyed. -/
inductive Reordered : SlotValue τ → SlotValue τ → Prop
  | same (value : SlotValue τ) : Reordered value value
  | keyed {first second} (reorders : Reorders first second) :
      Reordered (.keyed first) (.keyed second)

theorem Reordered.shape_eq {a b : SlotValue τ} (reordered : a.Reordered b) : a.shape = b.shape := by
  cases reordered <;> rfl

theorem Reordered.held_eq {a b : SlotValue τ} (reordered : a.Reordered b) (s : SlotDescriptor) :
    s.held a = s.held b := by
  cases reordered with
  | same => rfl
  | keyed reorders =>
      cases arity : s.arity with
      | keyed => simp only [SlotDescriptor.held, arity, reorders.mergeSort_eq]
      | required | optional | list => simp only [SlotDescriptor.held, arity]

/-- The entries that a slot presents. -/
def entries : SlotValue τ → List (String × τ)
  | .keyed entries => entries
  | _ => []

end SlotValue

/-- The two types of tree present the same nodes, with the keyed slots in different orders. -/
def SyntaxTree.Reorders (first second : SyntaxTree τ) : Prop :=
  ∀ n, first.kind n = second.kind n ∧ ∀ name, (first.slot n name).Reordered (second.slot n name)

/-- Trees that `R` relates are of one kind, and their slots hold related nodes, up to the order in
which keyed slots are presented. -/
def Rearranges [SyntaxTree τ] [SyntaxTree τ'] (R : τ → τ' → Prop) : Prop :=
  ∀ a b, R a b → SyntaxTree.kind a = SyntaxTree.kind b ∧
    ∀ name, ∃ value, (SyntaxTree.slot a name).Reordered value ∧
      value.Matches R (SyntaxTree.slot b name)

theorem Rearranges.seesAlike [SyntaxTree τ] [SyntaxTree τ'] {R : τ → τ' → Prop}
    (rearranges : Rearranges R) (g : Grammar) : g.SeesAlike R := by
  intro a b related
  obtain ⟨kinds, slots⟩ := rearranges a b related
  refine ⟨kinds, fun d _ s _ => ?_⟩
  obtain ⟨value, reordered, values⟩ := slots s.name
  constructor
  · exact reordered.shape_eq.trans values.shape_eq
  · rw [reordered.held_eq]
    exact values.held s

/-- Two visitors are told of nodes that `R` relates with one path, or of an exit. -/
inductive Event.Alike (R : τ → τ' → Prop) : Event τ → Event τ' → Prop
  | enter {a b} (path : Path) (related : R a b) : Alike R (.enter a path) (.enter b path)
  | exit : Alike R .exit .exit

/-- Visitors that decide alike are told alike. -/
theorem Visitor.Follows.logged {v : Visitor σ τ} {u : Visitor ρ τ'} {R : τ → τ' → Prop}
    {S : σ → ρ → Prop} (follows : v.Follows u (Place.Alike R) S) :
    v.logged.Follows u.logged (Place.Alike R) fun a b =>
      S a.1 b.1 ∧ List.Forall₂ (Event.Alike R) a.2 b.2 where
  decision states places := follows.decision states.1 places
  enter := by
    rintro s r ⟨a, path, _⟩ ⟨b, _, _⟩ states places
    obtain ⟨related, rfl, rfl⟩ := places
    exact ⟨follows.enter states.1 ⟨related, rfl, rfl⟩, .cons (.enter path related) states.2⟩
  exit states := ⟨follows.exit states.1, .cons .exit states.2⟩

namespace Walker

/-- Walks of trees whose keyed slots are presented in different orders tell of the same visits and
have the same result, if the visitors decide alike. -/
theorem logs_alike [SyntaxTree τ] [SyntaxTree τ'] (w : Walker) {R : τ → τ' → Prop}
    (rearranges : Rearranges R) {v : Visitor σ τ} {u : Visitor ρ τ'} {S : σ → ρ → Prop}
    (follows : v.Follows u (Place.Alike R) S) {a : τ} {b : τ'} (related : R a b) {s : σ} {r : ρ}
    (states : S s r) (path : Path) (polymorphic : Bool) :
    List.Forall₂ (Event.Alike R) (w.logFrom v s a path polymorphic).2
        (w.logFrom u r b path polymorphic).2 ∧
      (w.walkFrom v s a path polymorphic).result = (w.walkFrom u r b path polymorphic).result ∧
      S (w.walkFrom v s a path polymorphic).state (w.walkFrom u r b path polymorphic).state := by
  have step := inStep_of_seesAlike (rearranges.seesAlike w.grammar)
  have start : Place.Alike R ⟨a, path, polymorphic⟩ ⟨b, path, polymorphic⟩ := ⟨related, rfl, rfl⟩
  obtain ⟨ends, told⟩ := run_inStep (s := (s, [])) (r := (r, [])) step follows.logged
    ⟨states, .nil⟩ (.cons (.visit 0 start) .nil)
  rw [run_logged, run_logged] at ends told
  simp only [List.append_nil] at told
  exact ⟨List.forall₂_reverse_iff.mp told.2, ends.eq, told.1⟩

/-- A type of tree that presents keyed slots in another order has the same walks. -/
theorem walks_eq_of_reorders (w : Walker) {first second : SyntaxTree τ}
    (reorders : first.Reorders second) (v : Visitor σ τ) (s : σ) (node : τ) (path : Path)
    (polymorphic : Bool) :
    @logFrom σ τ first w v s node path polymorphic =
      @logFrom σ τ second w v s node path polymorphic ∧
    @walkFrom σ τ first w v s node path polymorphic =
      @walkFrom σ τ second w v s node path polymorphic := by
  have rearranges : @Rearranges τ τ first second Eq := by
    rintro n _ rfl
    refine ⟨(reorders n).1, fun name => ?_⟩
    exact ⟨_, (reorders n).2 name, .refl (fun _ => rfl) _⟩
  have follows : v.Follows v (Place.Alike Eq) Eq := by
    constructor
    · rintro s _ ⟨n, path, _⟩ ⟨_, _, _⟩ rfl ⟨rfl, rfl, -⟩
      rfl
    · rintro s _ ⟨n, path, _⟩ ⟨_, _, _⟩ rfl ⟨rfl, rfl, -⟩
      rfl
    · rintro s _ rfl
      rfl
  obtain ⟨told, results, states⟩ := @logs_alike σ σ τ τ first second w Eq rearranges v v Eq follows
    node node rfl s s rfl path polymorphic
  have logs : (@logFrom σ τ first w v s node path polymorphic).2 =
      (@logFrom σ τ second w v s node path polymorphic).2 := by
    rw [← List.forall₂_eq_eq_eq]
    refine told.imp ?_
    rintro _ _ (⟨path, rfl⟩ | _) <;> rfl
  have outcomes : @walkFrom σ τ first w v s node path polymorphic =
      @walkFrom σ τ second w v s node path polymorphic :=
    congrArg₂ Outcome.mk states results
  have outcome : ∀ tree : SyntaxTree τ, (@logFrom σ τ tree w v s node path polymorphic).1 =
      @walkFrom σ τ tree w v s node path polymorphic := by
    intro tree
    rw [logFrom, runLogged_eq]
    rfl
  refine ⟨Prod.ext ?_ logs, outcomes⟩
  rw [outcome, outcome, outcomes]

end Walker

section Visits

/-- The nodes that are entered directly below a node that was entered last, with their paths, if
`opened` more nodes have been entered since and not left. -/
def enteredBelow (opened : Nat) : List (Event τ) → List (τ × Path)
  | [] => []
  | .enter node path :: rest =>
    if opened = 0 then (node, path) :: enteredBelow (opened + 1) rest
    else enteredBelow (opened + 1) rest
  | .exit :: rest => if opened = 0 then [] else enteredBelow (opened - 1) rest

/-- The node that is visited first, with its path. -/
def VisitTree.entry : VisitTree τ → τ × Path
  | .mk node path _ => (node, path)

mutual

/-- Visits below an entry that is open contribute nothing. -/
theorem enteredBelow_events (opened : Nat) (t : VisitTree τ) (rest : List (Event τ)) :
    enteredBelow (opened + 1) (t.events ++ rest) = enteredBelow (opened + 1) rest := by
  match t with
  | .mk node path below =>
      rw [VisitTree.events, List.cons_append, enteredBelow, if_neg (Nat.succ_ne_zero opened),
        List.append_assoc, enteredBelow_eventsAll (opened + 1) below]
      simp [enteredBelow]

theorem enteredBelow_eventsAll (opened : Nat) (ts : List (VisitTree τ)) (rest : List (Event τ)) :
    enteredBelow (opened + 1) (VisitTree.eventsAll ts ++ rest) =
      enteredBelow (opened + 1) rest := by
  match ts with
  | [] => simp [VisitTree.eventsAll]
  | t :: others =>
      rw [VisitTree.eventsAll, List.append_assoc, enteredBelow_events opened t,
        enteredBelow_eventsAll opened others]

end

/-- Of visits one after the other, up to an exit, the first entries are direct. -/
theorem enteredBelow_zero (ts : List (VisitTree τ)) (rest : List (Event τ)) :
    enteredBelow 0 (VisitTree.eventsAll ts ++ .exit :: rest) = ts.map VisitTree.entry := by
  induction ts with
  | nil => simp [VisitTree.eventsAll, enteredBelow]
  | cons t others ih =>
      obtain ⟨node, path, below⟩ := t
      rw [VisitTree.eventsAll, VisitTree.events, List.append_assoc, List.cons_append, enteredBelow,
        if_pos rfl, List.append_assoc, enteredBelow_eventsAll 0 below, List.map_cons, ← ih]
      simp [enteredBelow, VisitTree.entry]

variable [SyntaxTree τ] {g : Grammar} {v : Visitor σ τ}

theorem Visited.entry_eq {s s' : σ} {x : Place τ} {t : VisitTree τ}
    (visited : Visited g v s x t s') : t.entry = (x.node, x.path) := by
  cases visited <;> rfl

theorem VisitedAll.entries_eq {s s' : σ} {places : List (Place τ)} {ts : List (VisitTree τ)}
    (all : VisitedAll g v s places ts s') :
    ts.map VisitTree.entry = places.map fun x => (x.node, x.path) := by
  induction places generalizing s ts with
  | nil => cases all; rfl
  | cons x rest ih =>
      cases all with
      | cons first others => rw [List.map_cons, List.map_cons, first.entry_eq, ih others]

end Visits

/-- The slot that the last segment of a path goes through. -/
def Path.slotName? (p : Path) : Option String := p.links.head?.bind Segment.slotName?

/-- The nodes that a slot holds are all found by its name, and none by another one. -/
theorem SlotDescriptor.filter_held (s : SlotDescriptor) (value : SlotValue τ) (name : String) :
    (s.held value).filter (fun h => h.1.slotName? = some name) =
      if s.name = name then s.held value else [] := by
  split
  case isTrue same =>
    rw [List.filter_eq_self]
    intro h mem
    exact decide_eq_true (same ▸ slotName?_of_mem_held mem)
  case isFalse different =>
    rw [List.filter_eq_nil_iff]
    intro h mem found
    rw [slotName?_of_mem_held mem] at found
    exact different (Option.some.inj (of_decide_eq_true found))

/-- A keyed slot holds the entries that it presents, sorted. -/
theorem SlotDescriptor.held_of_keyed {s : SlotDescriptor} (keyed : s.arity = .keyed)
    (value : SlotValue τ) :
    s.held value = (value.entries.mergeSort fun a b => a.1 ≤ b.1).map fun entry =>
      (.key s.name entry.1, entry.2) := by
  cases value <;> simp [held, keyed, SlotValue.entries]

variable [SyntaxTree τ]

/-- Of the nodes that the slots of a node hold, those of one slot are found by its name. -/
theorem KindDescriptor.filter_held {d : KindDescriptor}
    (nodup : (d.slots.map SlotDescriptor.name).Nodup) {s : SlotDescriptor} (mem : s ∈ d.slots)
    (n : τ) :
    (d.held n).filter (fun h => h.1.slotName? = some s.name) =
      (s.held (SyntaxTree.slot n s.name)).map fun h => (h.1, h.2, s.polymorphic) := by
  have part : ∀ s' : SlotDescriptor,
      ((s'.held (SyntaxTree.slot n s'.name)).map fun h => (h.1, h.2, s'.polymorphic)).filter
          (fun h => h.1.slotName? = some s.name) =
        if s'.name = s.name then
          (s'.held (SyntaxTree.slot n s'.name)).map fun h => (h.1, h.2, s'.polymorphic)
        else [] := by
    intro s'
    rw [List.filter_map]
    refine (congrArg _ (s'.filter_held _ s.name)).trans ?_
    split <;> rfl
  obtain ⟨before, after, slots⟩ := List.append_of_mem mem
  rw [slots, List.map_append, List.map_cons, List.nodup_middle, List.nodup_cons, ← List.map_append]
    at nodup
  have others : ∀ s' ∈ before ++ after, s'.name ≠ s.name :=
    fun s' mem same => nodup.1 (same ▸ List.mem_map_of_mem mem)
  have none : ∀ rest, rest ⊆ before ++ after → (rest.flatMap fun s' : SlotDescriptor =>
      if s'.name = s.name then
        (s'.held (SyntaxTree.slot n s'.name)).map fun h => (h.1, h.2, s'.polymorphic)
      else []) = [] := by
    intro rest among
    rw [List.flatMap_eq_nil_iff]
    exact fun s' mem => if_neg (others s' (among mem))
  simp only [held, List.filter_flatMap, part]
  rw [slots, List.flatMap_append, List.flatMap_cons, if_pos rfl,
    none before (List.subset_append_left _ _), none after (List.subset_append_right _ _),
    List.nil_append, List.append_nil]

/-- The places below a node that are held by one of its slots. -/
theorem Grammar.filter_below {g : Grammar} {x : Place τ} {d : KindDescriptor}
    (known : g.lookup (SyntaxTree.kind x.node) = some d) {s : SlotDescriptor} (mem : s ∈ d.slots) :
    ((g.below x).map fun y => (y.node, y.path)).filter (fun e => e.2.slotName? = some s.name) =
      (s.held (SyntaxTree.slot x.node s.name)).map fun h =>
        (h.2, (basePath d x.path x.polymorphic).append h.1) := by
  have held := KindDescriptor.filter_held (g.nodup_slots_of_lookup known) mem x.node
  rw [below_of_lookup known, List.map_map, List.filter_map]
  refine (congrArg _ held).trans ?_
  rw [List.map_map]
  rfl

namespace Walker

/-- Below a node that is entered in a walk without fault, the nodes entered directly are those that
its slots hold. -/
theorem enteredBelow_eq (w : Walker) {v : Visitor σ τ}
    (descends : ∀ s n p, (v.enter s n p).2 = .descend) {s : σ} {x : Place τ}
    (ok : (w.walkFrom v s x.node x.path x.polymorphic).result = .ok ())
    {earlier later : List (Event τ)} {n : τ} {p : Path}
    (told : (w.logFrom v s x.node x.path x.polymorphic).2 = earlier ++ .enter n p :: later) :
    ∃ ancestors y, y.node = n ∧ y.path = p ∧ w.grammar.Lineage x ancestors y earlier ∧
      w.grammar.Conforms n ∧
      enteredBelow 0 later = (w.grammar.below y).map fun z => (z.node, z.path) := by
  obtain ⟨ancestors, y, rfl, rfl, lineage, -, s', begins, okHere⟩ := w.exists_lineage v x 0 s told
  obtain ⟨t, visited, events⟩ := w.exists_visited v y _ s' (okHere ok)
  have decided : v.DecidedBy fun _ _ => true := descends
  have conforms := ((w.visit_ok_inv decided (okHere ok)).2 rfl).1
  refine ⟨ancestors, y, rfl, rfl, lineage, conforms, ?_⟩
  rw [events] at begins
  generalize (w.run v s' [y.visit (0 + ancestors.length)]).state = last at visited
  cases visited with
  | skip enter => simpa [enter] using descends s' y.node y.path
  | @descend _ _ _ _ below _ all =>
      obtain ⟨rest, whole⟩ := begins
      rw [VisitTree.events, List.cons_append, List.append_assoc, List.cons.injEq] at whole
      rw [← whole.2, List.singleton_append, enteredBelow_zero, all.entries_eq]

/-- The order in which keyed slots are presented does not matter to a walk. If the same nodes are
presented with the entries of keyed slots in another order, where entries with one key keep theirs,
every visitor is told the same and the walks end alike; and so it is for two trees that hold
corresponding nodes up to such orders, if the visitors do not tell corresponding nodes apart. Where
a walk goes on below every node and succeeds, the nodes of a keyed slot are entered in the order of
the bytes of their keys, one for each entry that is presented, with the entries of one key in the
order in which they are, and each with the path that its key gives it. -/
theorem visits_keyed_slots_by_key [SyntaxTree τ'] (w : Walker) :
    (∀ first second : SyntaxTree τ, first.Reorders second →
      ∀ (v : Visitor σ τ) (s : σ) (node : τ) (path : Path) (polymorphic : Bool),
        @logFrom σ τ first w v s node path polymorphic =
          @logFrom σ τ second w v s node path polymorphic ∧
        @walkFrom σ τ first w v s node path polymorphic =
          @walkFrom σ τ second w v s node path polymorphic) ∧
    (∀ R : τ → τ' → Prop, Rearranges R →
      ∀ (v : Visitor σ τ) (u : Visitor ρ τ') (S : σ → ρ → Prop),
        v.Follows u (Place.Alike R) S → ∀ a b, R a b → ∀ s r, S s r →
        ∀ (path : Path) (polymorphic : Bool),
          List.Forall₂ (Event.Alike R) (w.logFrom v s a path polymorphic).2
            (w.logFrom u r b path polymorphic).2 ∧
          (w.walkFrom v s a path polymorphic).result =
            (w.walkFrom u r b path polymorphic).result ∧
          S (w.walkFrom v s a path polymorphic).state
            (w.walkFrom u r b path polymorphic).state) ∧
    ∀ v : Visitor σ τ, (∀ s n p, (v.enter s n p).2 = .descend) → ∀ (s : σ) (x : Place τ),
      (w.walkFrom v s x.node x.path x.polymorphic).result = .ok () →
      ∀ earlier n p later,
        (w.logFrom v s x.node x.path x.polymorphic).2 = earlier ++ .enter n p :: later →
        ∃ ancestors y, y.node = n ∧ y.path = p ∧ w.grammar.Lineage x ancestors y earlier ∧
          ∃ d, w.grammar.lookup (SyntaxTree.kind n) = some d ∧
            ∀ slot ∈ d.slots, slot.arity = .keyed →
              ∃ sorted, Reorders (SyntaxTree.slot n slot.name).entries sorted ∧
                sorted.Pairwise (fun a b => utf8 a.1 ≤ utf8 b.1) ∧
                (enteredBelow 0 later).filter (fun e => e.2.slotName? = some slot.name) =
                  sorted.map fun entry =>
                    (entry.2, (basePath d p y.polymorphic).appendKeyed slot.name entry.1) := by
  refine ⟨?_, ?_, ?_⟩
  · intro first second reorders v s node path polymorphic
    exact w.walks_eq_of_reorders reorders v s node path polymorphic
  · intro R rearranges v u S follows a b related s r states path polymorphic
    exact w.logs_alike rearranges follows related states path polymorphic
  · intro v descends s x ok earlier n p later told
    obtain ⟨ancestors, y, rfl, rfl, lineage, ⟨d, known, -⟩, entered⟩ :=
      w.enteredBelow_eq descends ok told
    refine ⟨ancestors, y, rfl, rfl, lineage, d, known, fun slot mem keyed => ?_⟩
    refine ⟨_, reorders_mergeSort _, ?_, ?_⟩
    · exact (Text.pairwise_key_mergeSort _).imp Text.utf8_le_iff.mpr
    · rw [entered, Grammar.filter_below known mem, SlotDescriptor.held_of_keyed keyed, List.map_map]
      rfl

end Walker

/-- Neighbours with different keys may change places. -/
theorem reorders_swap {a b : String × α} (different : a.1 ≠ b.1)
    (before after : List (String × α)) :
    Reorders (before ++ a :: b :: after) (before ++ b :: a :: after) where
  perm := (List.Perm.swap b a after).append_left before
  stable := by
    intro key
    rw [List.filter_append, List.filter_append]
    congr 1
    by_cases first : a.1 = key
    · have second : b.1 ≠ key := fun same => different (first.trans same.symm)
      simp [first, second]
    · simp [List.filter_cons, first]

/-- The slot with its entries sorted, if it is keyed. -/
def SlotValue.sorted : SlotValue τ → SlotValue τ
  | .keyed entries => .keyed (entries.mergeSort fun a b => a.1 ≤ b.1)
  | value => value

/-- The same trees, which present their keyed slots sorted. -/
@[reducible] def sortedSlots : SyntaxTree SlotTree where
  kind := SlotTree.kind
  slot n name := (n.slot name).sorted

theorem reorders_sortedSlots : (inferInstance : SyntaxTree SlotTree).Reorders sortedSlots := by
  refine fun n => ⟨rfl, fun name => ?_⟩
  change (n.slot name).Reordered (n.slot name).sorted
  cases n.slot name with
  | keyed entries => exact .keyed (reorders_mergeSort entries)
  | absent | node | list | scalar => exact .same _

/-- A file with a name, and with slots that are not declared. -/
def unnamedFile (slots : List (String × SlotValue SlotTree)) : SlotTree :=
  .node "File" (("Name", .node (.node "Ident" [])) :: slots)

/-- A package with the given files. -/
def packageOf (files : List (String × SlotTree)) : SlotTree :=
  .node "Package" [("Files", .keyed files)]

/-- Files under keys of which one occurs twice. The first key is the smaller one in units of 16
bits, and the greater one in bytes. -/
def presentedFiles : List (String × SlotTree) :=
  [("😀", unnamedFile []), ("｡", unnamedFile []), ("😀", unnamedFile [("Size", .scalar)])]

/-- The files in the order of the bytes of their keys. -/
def orderedFiles : List (String × SlotTree) :=
  [("｡", unnamedFile []), ("😀", unnamedFile []), ("😀", unnamedFile [("Size", .scalar)])]

/-- The trees are equal, or the two packages. -/
def SamePackage (a b : SlotTree) : Prop :=
  a = b ∨ a = packageOf presentedFiles ∧ b = packageOf orderedFiles

theorem reorders_presentedFiles : Reorders presentedFiles orderedFiles :=
  reorders_swap (by decide) [] _

theorem rearranges_samePackage : Rearranges SamePackage := by
  rintro a b (rfl | ⟨rfl, rfl⟩)
  · exact ⟨rfl, fun name => ⟨_, .same _, .refl (fun _ => .inl rfl) _⟩⟩
  · refine ⟨rfl, fun name => ⟨(packageOf orderedFiles).slot name, ?_, .refl (fun _ => .inl rfl) _⟩⟩
    change SlotValue.Reordered ((packageOf presentedFiles).slot name) _
    by_cases files : name = "Files"
    · subst files
      exact .keyed reorders_presentedFiles
    · have none : ∀ entries, (packageOf entries).slot name = .absent := by
        intro entries
        simp [packageOf, SlotTree.slot, Ne.symm files]
      rw [none, none]
      exact .same _

theorem walk_presentedFiles :
    ((⟨Grammar.go, 2⟩ : Walker).walk .descending () (packageOf presentedFiles)).result =
      .ok () := by
  cbv

theorem visits_keyed_slots_by_key_of_package :
    (inferInstance : SyntaxTree SlotTree).Reorders sortedSlots ∧
    (⟨Grammar.go, 2⟩ : Walker).log .descending () (packageOf presentedFiles) =
      @Walker.log Unit SlotTree sortedSlots ⟨Grammar.go, 2⟩ .descending ()
        (packageOf presentedFiles) ∧
    List.Forall₂ (Event.Alike SamePackage)
      ((⟨Grammar.go, 2⟩ : Walker).log .descending () (packageOf presentedFiles)).2
      ((⟨Grammar.go, 2⟩ : Walker).log .descending () (packageOf orderedFiles)).2 ∧
    ∃ later, ((⟨Grammar.go, 2⟩ : Walker).log .descending () (packageOf presentedFiles)).2 =
        .enter (packageOf presentedFiles) .empty :: later ∧
      (enteredBelow 0 later).filter (fun e => e.2.slotName? = some "Files") =
        orderedFiles.map fun file => (file.2, Path.empty.appendKeyed "Files" file.1) := by
  obtain ⟨same, alike, visits⟩ := @Walker.visits_keyed_slots_by_key Unit Unit SlotTree SlotTree _ _
    ⟨Grammar.go, 2⟩
  have follows : (Visitor.descending : Visitor Unit SlotTree).Follows .descending
      (Place.Alike SamePackage) Eq := ⟨fun _ _ => rfl, fun _ _ => rfl, fun _ => rfl⟩
  refine ⟨reorders_sortedSlots, (same _ _ reorders_sortedSlots _ _ _ _ _).1,
    (alike _ rearranges_samePackage _ _ _ follows _ _ (.inr ⟨rfl, rfl⟩) _ _ rfl _ _).1, ?_⟩
  obtain ⟨later, told⟩ := Walker.events_visit_of_shallow ⟨Grammar.go, 2⟩ .descending
    (.root (packageOf presentedFiles)) (Nat.zero_le 2) ()
  refine ⟨later, told, ?_⟩
  obtain ⟨_, y, -, -, lineage, d, known, slots⟩ :=
    visits .descending (fun _ _ _ => rfl) () (.root (packageOf presentedFiles))
      walk_presentedFiles [] _ _ later told
  cases lineage
  cases known
  obtain ⟨sorted, reorders, pairwise, entered⟩ := slots _ List.mem_cons_self rfl
  have order : sorted = orderedFiles := by
    apply eq_of_filter_eq (pairwise.imp Text.utf8_le_iff.mp) (by decide)
    intro key
    exact (reorders.stable key).symm.trans (reorders_presentedFiles.stable key)
  exact entered.trans (by rw [order]; rfl)

end TreeSearch
