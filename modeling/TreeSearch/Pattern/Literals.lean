import TreeSearch.Pattern.Automaton
import TreeSearch.Pattern.Form

/-!
# Patterns that stand for literals

A pattern without captures and tests of places may stand for a few short literals and nothing else.
Such a pattern is searched for literal by literal, without an automaton, so the limit on the memory
of automata does not bear on it. `Form.literals?` lists the literals in bytes, and gives up where
they become many or long.
-/

namespace TreeSearch.Pattern

/-- The most characters of a class that are listed. -/
def listedClassSize : Nat := 10

/-- The most rounds of a repetition that are listed. -/
def listedRounds : Nat := 10

/-- The most bytes of a literal. -/
def literalLength : Nat := 100

/-- The most literals. -/
def literalCount : Nat := 250

/-- Every literal of one list followed by every literal of another. -/
def crossLiterals (heads tails : List (List Nat)) : Option (List (List Nat)) :=
  if literalCount < heads.length * tails.length then none
  else
    let literals := heads.flatMap fun head => tails.map fun tail => head ++ tail
    if literals.all fun literal => literal.length ≤ literalLength then some literals else none

/-- The literals of both lists. -/
def joinLiterals (literals others : List (List Nat)) : Option (List (List Nat)) :=
  if literalCount < literals.length + others.length then none else some (literals ++ others)

/-- The literals of a body that is repeated exactly `rounds` times. -/
def powerLiterals (literals : List (List Nat)) : Nat → Option (List (List Nat))
  | 0 => some [[]]
  | rounds + 1 => do crossLiterals (← powerLiterals literals rounds) literals

/-- The literals of a repetition. Rounds beyond the listed ones matter only if there are any. -/
def repeatLiterals (literals : List (List Nat)) (min : Nat) (max : Option Nat) :
    Option (List (List Nat)) := do
  if min = 0 then
    if max = some 1 ∨ literals.isEmpty then joinLiterals literals [[]] else none
  else
    let listed ← powerLiterals literals (Nat.min min listedRounds)
    if listed.isEmpty ∨ max = some min ∧ min ≤ listedRounds then some listed else none

namespace Form

mutual

/-- The literals that a form stands for, if they are few and short. -/
def literals? : Form → Option (List (List Nat))
  | .empty => some [[]]
  | .look _ | .capture _ => none
  | .literal chars => crossLiterals [[]] [chars.flatMap fun c => encode c.toNat]
  | .oneOf codes _ =>
    let members := codes.ranges.toList.flatMap fun r =>
      (List.range (Nat.min (r.last + 1 - r.first) (listedClassSize + 1))).map (r.first + ·)
    if members.length ≤ listedClassSize then some (members.map encode) else none
  | .repetition body min max _ => do repeatLiterals (← body.literals?) min max
  | .sequence items => literalsInTurn [[]] items
  | .choice branches => literalsOfAny [] branches

/-- The given literals, followed by those of each form in turn. -/
def literalsInTurn (literals : List (List Nat)) : List Form → Option (List (List Nat))
  | [] => some literals
  | form :: forms =>
    if literals.isEmpty then some []
    else do literalsInTurn (← crossLiterals literals (← form.literals?)) forms

/-- The given literals, and those of each form. -/
def literalsOfAny (literals : List (List Nat)) : List Form → Option (List (List Nat))
  | [] => some literals
  | form :: forms => do literalsOfAny (← joinLiterals literals (← form.literals?)) forms

end

/-- Whether the form is searched for literal by literal: it stands for one literal, or for a few
that do not all begin alike. -/
def isLiteralSearch (form : Form) : Bool :=
  match form.literals? with
  | some (first :: rest) =>
    first ≠ [] && rest.all (· ≠ []) &&
      (rest.isEmpty || (rest.length < 10 && rest.any (·.head? ≠ first.head?)))
  | _ => false

end Form

end TreeSearch.Pattern
