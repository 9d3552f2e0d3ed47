/-!
# Grammars

A grammar lists the kinds of nodes and, for each kind, the slots of its nodes in visiting order. In
a grammar no kind is described twice and no kind declares a slot twice, so a kind has one
description. `Grammar.ofKinds` checks a table, and `fault?_eq_none_iff` says which tables pass.
-/

namespace TreeSearch

/-- How many nodes a slot holds. -/
inductive Arity where
  | required
  | optional
  | list
  | keyed
deriving DecidableEq, Repr

/-- The name of an arity in messages. -/
def Arity.name : Arity → String
  | .required => "required node"
  | .optional => "optional node"
  | .list => "list"
  | .keyed => "keyed map"

/-- A slot of a kind. It is polymorphic if the nodes in it can have several types. -/
structure SlotDescriptor where
  name : String
  arity : Arity
  polymorphic : Bool
deriving DecidableEq, Repr

/-- A kind of nodes, the type that its nodes have in paths, and its slots in visiting order. -/
structure KindDescriptor where
  kind : String
  typeName : String
  slots : List SlotDescriptor
deriving DecidableEq, Repr

/-- The slot with the given name. -/
def KindDescriptor.slot? (d : KindDescriptor) (name : String) : Option SlotDescriptor :=
  d.slots.find? fun s => s.name = name

/-- What is wrong with a table of kinds. -/
inductive GrammarError where
  | repeatedKind (kind : String)
  | repeatedSlot (kind slot : String)
deriving DecidableEq, Repr

/-- The wording of an error. -/
def GrammarError.message : GrammarError → String
  | .repeatedKind kind => "kind `" ++ kind ++ "` is described more than once"
  | .repeatedSlot kind slot => "kind `" ++ kind ++ "` declares slot `" ++ slot ++ "` more than once"

namespace Grammar

/-- The first slot name that has occurred before, in the list or among the names seen. -/
def repeatedSlot? (seen : List String) : List SlotDescriptor → Option String
  | [] => none
  | s :: rest => if s.name ∈ seen then some s.name else repeatedSlot? (s.name :: seen) rest

/-- The first fault of a table. A kind's slots are looked at before the kind itself. -/
def fault? (seen : List String) : List KindDescriptor → Option GrammarError
  | [] => none
  | d :: rest =>
    match repeatedSlot? [] d.slots with
    | some slot => some (.repeatedSlot d.kind slot)
    | none => if d.kind ∈ seen then some (.repeatedKind d.kind) else fault? (d.kind :: seen) rest

theorem repeatedSlot?_eq_none_iff (seen : List String) (slots : List SlotDescriptor) :
    repeatedSlot? seen slots = none ↔
      (slots.map SlotDescriptor.name).Nodup ∧ ∀ s ∈ slots, s.name ∉ seen := by
  induction slots generalizing seen with
  | nil => simp [repeatedSlot?]
  | cons s rest ih =>
    by_cases hs : s.name ∈ seen
    · simp [repeatedSlot?, hs]
    · simp only [repeatedSlot?, hs, if_false, ih, List.map_cons, List.nodup_cons, List.mem_cons,
        List.mem_map]
      grind

theorem fault?_eq_none_iff (seen : List String) (kinds : List KindDescriptor) :
    fault? seen kinds = none ↔
      (kinds.map KindDescriptor.kind).Nodup ∧ (∀ d ∈ kinds, d.kind ∉ seen) ∧
        ∀ d ∈ kinds, (d.slots.map SlotDescriptor.name).Nodup := by
  induction kinds generalizing seen with
  | nil => simp [fault?]
  | cons d rest ih =>
    have slots := repeatedSlot?_eq_none_iff [] d.slots
    cases h : repeatedSlot? [] d.slots with
    | some slot => grind [fault?]
    | none =>
      by_cases hd : d.kind ∈ seen
      · simp [fault?, h, hd]
      · simp only [fault?, h, hd, if_false, ih, List.map_cons, List.nodup_cons, List.mem_cons,
          List.mem_map]
        grind

end Grammar

/-- A table of kinds in which no kind is described twice and no kind declares a slot twice. -/
structure Grammar where
  kinds : List KindDescriptor
  nodup_kinds : (kinds.map KindDescriptor.kind).Nodup
  nodup_slots : ∀ d ∈ kinds, (d.slots.map SlotDescriptor.name).Nodup

namespace Grammar

/-- The grammar of a table, or the first fault of the table. -/
def ofKinds (kinds : List KindDescriptor) : Except GrammarError Grammar :=
  match h : fault? [] kinds with
  | some error => .error error
  | none =>
    have unambiguous := (fault?_eq_none_iff [] kinds).mp h
    .ok ⟨kinds, unambiguous.1, unambiguous.2.2⟩

/-- The description of a kind. -/
def lookup (g : Grammar) (kind : String) : Option KindDescriptor :=
  g.kinds.find? fun d => d.kind = kind

/-- Whether a kind is described. -/
def contains (g : Grammar) (kind : String) : Bool := (g.lookup kind).isSome

/-- The number of kinds. -/
def size (g : Grammar) : Nat := g.kinds.length

end Grammar

end TreeSearch
