import TreeSearch.Pattern.Expr
import TreeSearch.Pattern.Look

/-!
# Normal forms of patterns

A form is what is left of a written pattern when flags and names are resolved. Forms are made by
`Form.ofClass`, `Form.repeated`, `Form.concat` and `Form.alternation`, which bring them into normal
form: neighbouring characters are one literal, sequences and choices are flat, a choice of
characters is a class, and branches share what all of them begin with. The memory that a pattern
takes is measured on its form, and `Form.expr` is what is searched for.
-/

namespace TreeSearch.Pattern

open Unicode (CodeSet CodeRange)

/-- A pattern in normal form. A class is one of characters or of bytes. -/
inductive Form where
  | empty
  | literal (chars : List Char)
  | oneOf (codes : CodeSet) (ofBytes : Bool)
  | look (test : Look)
  | repetition (body : Form) (min : Nat) (max : Option Nat) (greedy : Bool)
  | capture (body : Form)
  | sequence (items : List Form)
  | choice (branches : List Form)

namespace Form

mutual

/-- Whether two forms are interchangeable. No capture is: each one records a place of its own. -/
def same : Form → Form → Bool
  | .empty, .empty => true
  | .literal chars, .literal chars' => chars == chars'
  | .oneOf codes ofBytes, .oneOf codes' ofBytes' => codes == codes' && ofBytes == ofBytes'
  | .look test, .look test' => test == test'
  | .repetition body min max greedy, .repetition body' min' max' greedy' =>
    min == min' && max == max' && greedy == greedy' && same body body'
  | .sequence items, .sequence items' => sameAll items items'
  | .choice branches, .choice branches' => sameAll branches branches'
  | _, _ => false

/-- Whether the forms of two lists are interchangeable one by one. -/
def sameAll : List Form → List Form → Bool
  | [], [] => true
  | form :: forms, form' :: forms' => same form form' && sameAll forms forms'
  | _, _ => false

end

mutual

/-- Whether the form matches nothing but empty texts. -/
def isBlank : Form → Bool
  | .empty | .look _ => true
  | .literal _ | .oneOf _ _ => false
  | .repetition body _ _ _ | .capture body => body.isBlank
  | .sequence items => areBlank items
  | .choice branches => areBlank branches

/-- Whether all of the forms match nothing but empty texts. -/
def areBlank : List Form → Bool
  | [] => true
  | form :: forms => form.isBlank && areBlank forms

end

mutual

/-- The number of characters of the shortest text that matches, unless a part matches no text. -/
def leastLength : Form → Option Nat
  | .empty | .look _ => some 0
  | .literal chars => some chars.length
  | .oneOf codes _ => if codes.isEmpty then none else some 1
  | .repetition body min _ _ => body.leastLength.map (· * min)
  | .capture body => body.leastLength
  | .sequence items => leastLengths (· + ·) 0 items
  | .choice [] => none
  | .choice (branch :: branches) => do leastLengths min (← branch.leastLength) branches

/-- Combines the least lengths of forms, from `start` on. -/
def leastLengths (combine : Nat → Nat → Nat) (start : Nat) : List Form → Option Nat
  | [] => some start
  | form :: forms => do leastLengths combine (combine start (← form.leastLength)) forms

end

mutual

/-- Whether every match starts at the start of the text or, read backwards, ends at its end. -/
def isAnchored (backward : Bool) : Form → Bool
  | .empty | .literal _ | .oneOf _ _ => false
  | .look test => test = if backward then .textEnd else .textStart
  | .repetition body min _ _ => 0 < min && body.isAnchored backward
  | .capture body => body.isAnchored backward
  | .sequence items => if backward then anchorsLast items else anchorsFirst items
  | .choice branches => areAnchored backward branches

/-- Whether all of the branches are anchored. -/
def areAnchored (backward : Bool) : List Form → Bool
  | [] => true
  | form :: forms => form.isAnchored backward && areAnchored backward forms

/-- Whether one of the items is anchored at the start and none before it matches a character. -/
def anchorsFirst : List Form → Bool
  | [] => false
  | form :: forms => form.isAnchored false || form.isBlank && anchorsFirst forms

/-- Whether one of the items is anchored at the end and none behind it matches a character. -/
def anchorsLast : List Form → Bool
  | [] => false
  | form :: forms => anchorsLast forms || areBlank forms && form.isAnchored true

end

/-! ## Making forms -/

/-- A form that matches no text. -/
def fail : Form := .oneOf .empty true

/-- A class. A class of one character is a literal. -/
def ofClass (codes : CodeSet) (ofBytes : Bool) : Form :=
  let codes := codes.diff (.range 0xD800 0xDFFF)
  match codes.ranges.toList with
  | [] => fail
  | [r] => if r.first = r.last then .literal [Char.ofNat r.first] else .oneOf codes ofBytes
  | _ => .oneOf codes ofBytes

/-- The repetition of a form. A blank form is repeated at most once, for repeating it further
changes nothing; none is empty, and exactly one is the form itself. -/
def repeated (body : Form) (min : Nat) (max : Option Nat) (greedy : Bool) : Form :=
  let (min, max) :=
    if body.isBlank then (Nat.min min 1, some ((max.map (Nat.min · 1)).getD 1)) else (min, max)
  if max = some 0 then .empty
  else if min = 1 ∧ max = some 1 then body
  else .repetition body min max greedy

/-- The items that a form adds to a sequence. -/
def items : Form → List Form
  | .empty => []
  | .sequence items => items
  | form => [form]

/-- Puts a form in front of a sequence, in which literals that meet become one. -/
def prepend (form : Form) (forms : List Form) : List Form :=
  match form, forms with
  | .literal chars, .literal chars' :: rest => .literal (chars ++ chars') :: rest
  | form, forms => form :: forms

/-- The sequence of forms. -/
def concat (forms : List Form) : Form :=
  match (forms.flatMap items).foldr prepend [] with
  | [] => .empty
  | [form] => form
  | forms => .sequence forms

/-- The branches that a form adds to a choice. -/
def branches : Form → List Form
  | .choice branches => branches
  | form => [form]

/-- The character that a form stands for. -/
def char? : Form → Option Char
  | .literal [c] => some c
  | _ => none

/-- The members of a class. -/
def codes? : Form → Option CodeSet
  | .oneOf codes _ => some codes
  | _ => none

/-- The choice between branches that share no beginning: a class if all are characters or all are
classes. -/
def choose (forms : List Form) : Form :=
  match forms.flatMap branches with
  | [] => fail
  | [form] => form
  | forms =>
    match forms.mapM char?, forms.mapM codes? with
    | some chars, _ => ofClass (.unions (chars.map CodeSet.singleton)) false
    | none, some codes => ofClass (.unions codes) false
    | none, none => .choice forms

/-- The number of leading items that two sequences share. -/
def sharedItems : List Form → List Form → Nat
  | form :: forms, form' :: forms' => if same form form' then sharedItems forms forms' + 1 else 0
  | _, _ => 0

/-- The items of a sequence. -/
def sequence? : Form → Option (List Form)
  | .sequence items => some items
  | _ => none

/-- The choice between branches. What all branches begin with is put in front of the choice, if all
are sequences. -/
def alternation (forms : List Form) : Form :=
  match choose forms with
  | .choice forms =>
    match forms.mapM sequence? with
    | some (first :: rest) =>
      let shared := rest.foldl (fun n items => min n (sharedItems first items)) first.length
      if shared = 0 then .choice forms
      else
        concat (first.take shared ++
          [choose ((first :: rest).map fun items => concat (items.drop shared))])
    | _ => .choice forms
  | form => form

/-! ## Running forms -/

mutual

/-- The expression to search for. -/
def expr : Form → Expr CodeSet Look
  | .empty => .empty
  | .literal chars => chars.foldr (fun c rest => .seq (.char (.singleton c)) rest) .empty
  | .oneOf codes _ => .char codes
  | .look test => .look test
  | .repetition body min max _ => .repetition body.expr min max
  | .capture body => body.expr
  | .sequence items => exprInTurn items
  | .choice branches => exprOfAny branches

/-- The expression for all forms, one after the other. -/
def exprInTurn : List Form → Expr CodeSet Look
  | [] => .empty
  | form :: forms => .seq form.expr (exprInTurn forms)

/-- The expression for any of the forms. -/
def exprOfAny : List Form → Expr CodeSet Look
  | [] => .char .empty
  | form :: forms => .alt form.expr (exprOfAny forms)

end

end Form

end TreeSearch.Pattern
