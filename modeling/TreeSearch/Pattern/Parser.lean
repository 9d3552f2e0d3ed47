import TreeSearch.Pattern.Syntax
import TreeSearch.Unicode.Later

/-!
# Reading patterns

`Written.parse` reads the text of a pattern. The reader keeps the characters still to be read,
whether blanks and comments are skipped, and the group names used so far. Groups and classes that
are still open are kept as levels on a stack, so each round of the two main loops reads at least one
character, and the length of the text bounds the number of rounds.
-/

namespace TreeSearch.Pattern

/-- What is left to read, and what has been settled by what was read. -/
structure Cursor where
  rest : List Char
  verbose : Bool := false
  groupNames : List String := []

/-- A step of reading. -/
abbrev Parse := StateT Cursor (Except Fault)

namespace Parse

/-- Whether a character is a blank or a line end. -/
def isBlank (c : Char) : Bool := Unicode.Property.whiteSpace.contains c.toNat

/-- Whether a character may start a group name. -/
def startsName (c : Char) : Bool := c = '_' || Unicode.Later.alphabetic.contains c.toNat

/-- Whether a character may stand in a group name. -/
def continuesName (c : Char) : Bool :=
  startsName c || c = '.' || c = '[' || c = ']' || Unicode.Later.numeric.contains c.toNat

/-- Drops blanks, and comments from `#` to the end of the line. -/
def dropBlanks (inComment : Bool) : List Char → List Char
  | [] => []
  | c :: cs =>
    if inComment then dropBlanks (c ≠ '\n') cs
    else if isBlank c then dropBlanks false cs
    else if c = '#' then dropBlanks true cs
    else c :: cs

/-- The next character. -/
def peek : Parse (Option Char) := do return (← get).rest.head?

/-- Steps over the next character. -/
def advance : Parse Unit := modify fun s => { s with rest := s.rest.tail }

/-- Skips blanks and comments if they do not count. -/
def skipBlanks : Parse Unit :=
  modify fun s => if s.verbose then { s with rest := dropBlanks false s.rest } else s

/-- Steps over the next character and the blanks behind it. -/
def advanceBlanks : Parse Unit := do advance; skipBlanks

/-- Steps over the given text if it comes next. -/
def accept (text : String) : Parse Bool := do
  let s ← get
  if text.toList.isPrefixOf s.rest then
    set { s with rest := s.rest.drop text.length }
    return true
  else return false

/-- Steps over characters that satisfy `p`, at most `bound` of them, and the blanks behind each. -/
def collectUpTo (p : Char → Bool) : Nat → Parse (List Char)
  | 0 => return []
  | bound + 1 => do
    match ← peek with
    | some c =>
      if p c then
        advanceBlanks
        return c :: (← collectUpTo p bound)
      else return []
    | none => return []

/-- Steps over all characters that satisfy `p`, and the blanks behind each. -/
def collect (p : Char → Bool) : Parse (List Char) := do
  collectUpTo p (← get).rest.length

/-- The value of a hexadecimal digit. -/
def hexValue? (c : Char) : Option Nat :=
  if c.isDigit then some (c.toNat - 48)
  else if 'a' ≤ c ∧ c ≤ 'f' then some (c.toNat - 87)
  else if 'A' ≤ c ∧ c ≤ 'F' then some (c.toNat - 55)
  else none

/-- The number that hexadecimal digits write. -/
def hexNumber? (digits : List Char) : Option Nat :=
  digits.foldlM (fun value c => (hexValue? c).map fun d => value * 16 + d) 0

/-- The character with the given code point; surrogates are no characters. -/
def charOfCode? (code : Nat) : Option Char :=
  if h : code.isValidChar then some (Char.ofNatAux code h) else none

/-- Reads `count` hexadecimal digits. -/
def hexDigits (value : Nat) : Nat → Parse Nat
  | 0 => return value
  | count + 1 => do
    match (← peek).bind hexValue? with
    | some d =>
      advanceBlanks
      hexDigits (value * 16 + d) count
    | none => throw .badHexadecimal

/-- Reads what follows an opening brace, and the closing brace. -/
def bracedText : Parse (List Char) := do
  advanceBlanks
  let text ← collect (· ≠ '}')
  match ← peek with
  | some _ => return text
  | none => throw .badEscape

/-- Reads the character that stands behind the letter of a hexadecimal escape, which takes `count`
digits or any number of digits in braces. -/
def hexEscape (count : Nat) : Parse Literal := do
  advanceBlanks
  if (← peek) = some '{' then
    let digits ← bracedText
    advanceBlanks
    if digits.isEmpty then throw .badHexadecimal
    match (hexNumber? digits).bind charOfCode? with
    | some c => return ⟨c, false⟩
    | none => throw .badHexadecimal
  else
    match charOfCode? (← hexDigits 0 count) with
    | some c => return ⟨c, count = 2⟩
    | none => throw .badHexadecimal

/-- The text before and after the first occurrence of `mark`. -/
def splitAtFirst? (mark : List Char) : List Char → Option (String × String)
  | [] => none
  | c :: cs =>
    if mark.isPrefixOf (c :: cs) then some ("", String.ofList ((c :: cs).drop mark.length))
    else
      (splitAtFirst? mark cs).map fun (before, after) => (String.ofList (c :: before.toList), after)

/-- The question that the text between the braces of a property escape asks, and whether it asks for
the complement. -/
def propertyQuery (text : List Char) : PropertyQuery × Bool :=
  match splitAtFirst? ['!', '='] text with
  | some (name, value) => (.valued name value, true)
  | none =>
    match splitAtFirst? [':'] text <|> splitAtFirst? ['='] text with
    | some (name, value) => (.valued name value, false)
    | none => (.named (String.ofList text), false)

/-- Reads the property behind `\p` or `\P`. -/
def propertyEscape : Parse (PropertyQuery × Bool) := do
  advanceBlanks
  match ← peek with
  | none => throw .badEscape
  | some '{' =>
    let text ← bracedText
    advance
    return propertyQuery text
  | some '\\' => throw .badEscape
  | some c =>
    advanceBlanks
    return (.named c.toString, false)

/-- Characters with a meaning of their own, which an escape takes away. -/
def isMeta (c : Char) : Bool := "\\.+*?()|[]\x7b\x7d^$#&-~".toList.contains c

/-- Whether a backslash in front of the character leaves it as it is. -/
def isEscapable (c : Char) : Bool :=
  isMeta c || (c.toNat < 0x80 && !c.isAlphanum && c ≠ '<' && c ≠ '>')

/-- Something that stands for itself inside and outside of classes. -/
inductive Primitive where
  | literal (l : Literal)
  | boundary (b : Boundary)
  | property (q : PropertyQuery) (negated : Bool)
  | escape (c : EscapeClass) (negated : Bool)
  | dot

/-- The pattern of a primitive. -/
def Primitive.toWritten : Primitive → Written
  | .literal l => .literal l
  | .boundary b => .boundary b
  | .property q negated => .property q negated
  | .escape c negated => .escape c negated
  | .dot => .dot

/-- The boundary with the given name in braces. -/
def namedBoundary? (name : String) : Option Boundary :=
  if name = "start" then some .wordStart
  else if name = "end" then some .wordEnd
  else if name = "start-half" then some .wordStartHalf
  else if name = "end-half" then some .wordEndHalf
  else none

/-- Reads the name in braces that may follow `\b`. If the brace is not followed by a letter or a
hyphen, it belongs to a repetition and is left alone. -/
def boundaryName : Parse Boundary := do
  let start ← get
  advanceBlanks
  let isNameChar := fun c : Char => c.isAlpha || c = '-'
  match ← peek with
  | none => throw .badBoundary
  | some c =>
    if isNameChar c then
      let name ← collect isNameChar
      if (← peek) ≠ some '}' then throw .badBoundary
      advance
      match namedBoundary? (String.ofList name) with
      | some b => return b
      | none => throw .badBoundary
    else
      set start
      return .word

/-- Reads an escape. The cursor stands at the backslash. -/
def escape : Parse Primitive := do
  advance
  match ← peek with
  | none => throw .badEscape
  | some c =>
    if c.isDigit then throw .backreference
    match c with
    | 'x' => return .literal (← hexEscape 2)
    | 'u' => return .literal (← hexEscape 4)
    | 'U' => return .literal (← hexEscape 8)
    | 'p' =>
      let (query, negated) ← propertyEscape
      return .property query negated
    | 'P' =>
      let (query, negated) ← propertyEscape
      return .property query (!negated)
    | _ =>
      advance
      if isEscapable c then return .literal ⟨c, false⟩
      match c with
      | 'd' => return .escape .digit false
      | 'D' => return .escape .digit true
      | 's' => return .escape .space false
      | 'S' => return .escape .space true
      | 'w' => return .escape .word false
      | 'W' => return .escape .word true
      | 'a' => return .literal ⟨'\x07', false⟩
      | 'f' => return .literal ⟨'\x0c', false⟩
      | 't' => return .literal ⟨'\t', false⟩
      | 'n' => return .literal ⟨'\n', false⟩
      | 'r' => return .literal ⟨'\r', false⟩
      | 'v' => return .literal ⟨'\x0b', false⟩
      | 'A' => return .boundary .textStart
      | 'z' => return .boundary .textEnd
      | 'b' =>
        if (← peek) = some '{' then return .boundary (← boundaryName)
        else return .boundary .word
      | 'B' => return .boundary .notWord
      | '<' => return .boundary .wordStart
      | '>' => return .boundary .wordEnd
      | _ => throw .badEscape

/-- Reads a character, a dot, an anchor or an escape. -/
def primitive (c : Char) : Parse Primitive := do
  if c = '\\' then escape
  else
    advance
    match c with
    | '.' => return .dot
    | '^' => return .boundary .lineStart
    | '$' => return .boundary .lineEnd
    | _ => return .literal ⟨c, false⟩

/-! ## Classes -/

/-- A class that has been opened: whether it is negated, the operation that waits for its right
side, and the items read so far, the last one first. -/
structure ClassLevel where
  negated : Bool
  pending : Option (SetOp × ClassBody)
  items : List ClassBody

/-- The contents of a level, with the waiting operation applied. -/
def ClassLevel.body (l : ClassLevel) : ClassBody :=
  let items := ClassBody.ofItems l.items.reverse
  match l.pending with
  | some (op, left) => .op op left items
  | none => items

/-- Adds an item to a level. -/
def ClassLevel.push (l : ClassLevel) (item : ClassBody) : ClassLevel :=
  { l with items := item :: l.items }

/-- The classes that can be named between colons. -/
def asciiClass? (name : String) : Option AsciiClass :=
  match name with
  | "alnum" => some .alnum
  | "alpha" => some .alpha
  | "ascii" => some .ascii
  | "blank" => some .blank
  | "cntrl" => some .cntrl
  | "digit" => some .digit
  | "graph" => some .graph
  | "lower" => some .lower
  | "print" => some .print
  | "punct" => some .punct
  | "space" => some .space
  | "upper" => some .upper
  | "word" => some .word
  | "xdigit" => some .xdigit
  | _ => none

/-- Reads a class named between colons, such as `[:alpha:]`. Anything else is left alone. -/
def asciiClass : Parse (Option ClassBody) := do
  let s ← get
  match s.rest with
  | '[' :: ':' :: rest =>
    let negated := rest.head? = some '^'
    let rest := if negated then rest.tail else rest
    let name := rest.takeWhile (· ≠ ':')
    match rest.dropWhile (· ≠ ':'), asciiClass? (String.ofList name) with
    | ':' :: ']' :: rest, some c =>
      set { s with rest }
      return some (.ascii c negated)
    | _, _ => return none
  | _ => return none

/-- Reads hyphens at the start of a class as items, at most `bound` of them. -/
def leadingHyphens : Nat → Parse (List ClassBody)
  | 0 => return []
  | bound + 1 => do
    if (← peek) = some '-' then
      advanceBlanks
      return .literal ⟨'-', false⟩ :: (← leadingHyphens bound)
    else return []

/-- Reads an opening bracket, a negation, and the hyphens or the bracket that count as items because
they stand at the start. -/
def openClass : Parse ClassLevel := do
  advanceBlanks
  let negated := (← peek) = some '^'
  if negated then advanceBlanks
  let hyphens ← leadingHyphens (← get).rest.length
  if hyphens.isEmpty && (← peek) = some ']' then
    advanceBlanks
    return ⟨negated, none, [.literal ⟨']', false⟩]⟩
  else return ⟨negated, none, hyphens⟩

/-- Reads one side of a range, or an item that is no range. -/
def classPrimitive : Parse Primitive := do
  match ← peek with
  | none => throw .badClass
  | some '\\' => escape
  | some c =>
    advance
    return .literal ⟨c, false⟩

/-- The item of a class that a primitive stands for. -/
def Primitive.toItem : Primitive → Except Fault ClassBody
  | .literal l => .ok (.literal l)
  | .property q negated => .ok (.property q negated)
  | .escape c negated => .ok (.escape c negated)
  | .boundary _ | .dot => .error .badClass

/-- The literal that a primitive stands for. -/
def Primitive.toLiteral : Primitive → Except Fault Literal
  | .literal l => .ok l
  | _ => .error .badRange

/-- The character behind the blanks that follow; one `#` counts as a blank. If nothing but blanks
follows, the first of them. -/
def peekBehindBlanks (rest : List Char) : Option Char :=
  let afterBlanks := rest.dropWhile isBlank
  let visible :=
    match afterBlanks with
    | '#' :: cs => cs.dropWhile isBlank
    | cs => cs
  visible.head? <|> rest.head?

/-- Reads an item of a class or a range. A hyphen before a closing bracket or another hyphen makes
no range. -/
def classRange : Parse ClassBody := do
  let first ← classPrimitive
  skipBlanks
  let s ← get
  match s.rest with
  | [] => throw .badClass
  | c :: rest =>
    let behind := if s.verbose then peekBehindBlanks rest else rest.head?
    if c ≠ '-' || behind = some ']' || behind = some '-' then first.toItem
    else
      advanceBlanks
      let last ← classPrimitive
      let first ← first.toLiteral
      let last ← last.toLiteral
      if first.char ≤ last.char then return .range first last else throw .badRange

/-- Reads the rest of a class whose levels are given, the innermost first. -/
def classLoop : Nat → ClassLevel → List ClassLevel → Parse Written
  | 0, _, _ => throw .badClass
  | bound + 1, level, outer => do
    skipBlanks
    let operation := fun (op : SetOp) => do
      advance
      advance
      classLoop bound ⟨level.negated, some (op, level.body), []⟩ outer
    match (← get).rest with
    | [] => throw .badClass
    | '[' :: _ =>
      match ← asciiClass with
      | some item => classLoop bound (level.push item) outer
      | none => classLoop bound (← openClass) (level :: outer)
    | ']' :: _ =>
      advance
      match outer with
      | [] => return .bracketed level.negated level.body
      | parent :: outer =>
        classLoop bound (parent.push (.bracketed level.negated level.body)) outer
    | '&' :: '&' :: _ => operation .inter
    | '-' :: '-' :: _ => operation .diff
    | '~' :: '~' :: _ => operation .symmDiff
    | _ => classLoop bound (level.push (← classRange)) outer

/-- Reads a bracketed class. The cursor stands at the bracket. -/
def bracketed : Parse Written := do
  let bound := (← get).rest.length
  classLoop bound (← openClass) []

/-! ## Groups and repetitions -/

/-- The flag with the given letter. -/
def flag? : Char → Option Flag
  | 'i' => some .caseInsensitive
  | 'm' => some .multiLine
  | 's' => some .dotMatchesNewLine
  | 'U' => some .swapGreed
  | 'u' => some .unicode
  | 'R' => some .crlf
  | 'x' => some .verbose
  | _ => none

/-- Reads flags up to the colon or parenthesis that ends them. `negated` is set behind a hyphen and
`dangling` right behind it; no flag and no hyphen may come twice. -/
def readFlags (change : FlagChange) (negated dangling : Bool) :
    List Char → Except Fault (FlagChange × Char × List Char)
  | [] => .error .badFlags
  | c :: rest =>
    if c = ':' ∨ c = ')' then
      if dangling then .error .badFlags else .ok (change, c, rest)
    else if c = '-' then
      if negated then .error .badFlags else readFlags change true true rest
    else
      match flag? c with
      | none => .error .badFlags
      | some f =>
        if change.on.contains f || change.off.contains f then .error .badFlags
        else if negated then readFlags { change with off := change.off ++ [f] } true false rest
        else readFlags { change with on := change.on ++ [f] } false false rest

/-- Reads the name of a group up to the angle bracket that ends it. -/
def readGroupName : Parse Unit := do
  let s ← get
  let name := s.rest.takeWhile (· ≠ '>')
  match s.rest.dropWhile (· ≠ '>'), name with
  | _ :: rest, c :: cs =>
    if startsName c && cs.all continuesName then
      let name := String.ofList name
      if s.groupNames.contains name then throw .repeatedGroupName
      set { s with rest, groupNames := name :: s.groupNames }
    else throw .badGroupName
  | _, _ => throw .badGroupName

/-- What an opening parenthesis turns out to be. -/
inductive GroupStart where
  | flags (change : FlagChange)
  | group (captures : Bool) (change : FlagChange)

/-- Reads an opening parenthesis and what tells its kind. -/
def groupStart : Parse GroupStart := do
  advanceBlanks
  if ← accept "?=" then throw .lookAround
  if ← accept "?!" then throw .lookAround
  if ← accept "?<=" then throw .lookAround
  if ← accept "?<!" then throw .lookAround
  let named ← (do if ← accept "?P<" then return true else accept "?<")
  if named then
    readGroupName
    return .group true ⟨[], []⟩
  else if ← accept "?" then
    let s ← get
    let (change, closing, rest) ← readFlags ⟨[], []⟩ false false s.rest
    set { s with rest }
    if closing = ')' then
      if change = ⟨[], []⟩ then throw .nothingToRepeat
      return .flags change
    else return .group false change
  else return .group true ⟨[], []⟩

/-- Reads a decimal number, with blanks on both sides. -/
def decimal? : Parse (Option Nat) := do
  modify fun s => { s with rest := s.rest.dropWhile isBlank }
  let digits ← collect Char.isDigit
  modify fun s => { s with rest := s.rest.dropWhile isBlank }
  if digits.isEmpty then return none
  let value := digits.foldl (fun value c => value * 10 + (c.toNat - 48)) 0
  if value < UInt32.size then return some value else throw .badCount

/-- Reads a number that must be there. -/
def decimal : Parse Nat := do
  match ← decimal? with
  | some n => return n
  | none => throw .badCount

/-- Reads the question mark that makes a repetition prefer fewer rounds, and tells whether there is
none. -/
def greedy : Parse Bool := do
  if (← peek) = some '?' then
    advance
    return false
  else return true

/-- Reads the bounds of a counted repetition, in braces. -/
def counts : Parse (Nat × Option Nat) := do
  advanceBlanks
  let min ← decimal
  let bounds ← (do
    if (← peek) = some ',' then
      advanceBlanks
      if (← peek) = some '}' then return (min, none)
      let max ← decimal
      return (min, some max)
    else return (min, some min))
  if (← peek) ≠ some '}' then throw .badCount
  advanceBlanks
  match bounds with
  | (min, some max) => if min ≤ max then return bounds else throw .badCount
  | _ => return bounds

/-- A group that has been opened: its kind, whether blanks were skipped around it, and its branches
and the items of its last branch, each list with its last element first. -/
structure GroupLevel where
  captures : Bool
  change : FlagChange
  verboseOutside : Bool
  branches : List Written
  items : List Written

/-- Adds an item to the last branch. -/
def GroupLevel.push (l : GroupLevel) (item : Written) : GroupLevel :=
  { l with items := item :: l.items }

/-- The contents of a level. -/
def GroupLevel.body (l : GroupLevel) : Written :=
  Written.ofBranches (Written.ofItems l.items.reverse :: l.branches).reverse

/-- Takes the item that a repetition applies to off the last branch. -/
def GroupLevel.pop? (l : GroupLevel) : Option (Written × GroupLevel) :=
  match l.items with
  | [] => none
  | .empty :: _ => none
  | .flags _ :: _ => none
  | item :: items => some (item, { l with items })

/-- Whether blanks are skipped once the flags have changed. -/
def verboseAfter (change : FlagChange) (verbose : Bool) : Bool :=
  if change.on.contains .verbose then true
  else if change.off.contains .verbose then false
  else verbose

/-- Reads the rest of a pattern whose open groups are given, the innermost first. -/
def patternLoop : Nat → GroupLevel → List GroupLevel → Parse Written
  | 0, _, _ => throw .unclosedGroup
  | bound + 1, level, outer => do
    skipBlanks
    let repetition := fun (min : Nat) (max : Option Nat) => do
      match level.pop? with
      | none => throw .nothingToRepeat
      | some (item, level) =>
        advance
        patternLoop bound (level.push (.repetition item min max (← greedy))) outer
    match ← peek with
    | none =>
      match outer with
      | [] => return level.body
      | _ => throw .unclosedGroup
    | some '(' =>
      match ← groupStart with
      | .flags change =>
        modify fun s => { s with verbose := verboseAfter change s.verbose }
        patternLoop bound (level.push (.flags change)) outer
      | .group captures change =>
        let verbose := (← get).verbose
        modify fun s => { s with verbose := verboseAfter change s.verbose }
        patternLoop bound ⟨captures, change, verbose, [], []⟩ (level :: outer)
    | some ')' =>
      match outer with
      | [] => throw .unopenedGroup
      | parent :: outer =>
        modify fun s => { s with verbose := level.verboseOutside }
        advance
        patternLoop bound (parent.push (.group level.captures level.change level.body)) outer
    | some '|' =>
      advance
      let branches := Written.ofItems level.items.reverse :: level.branches
      patternLoop bound { level with branches, items := [] } outer
    | some '[' => patternLoop bound (level.push (← bracketed)) outer
    | some '?' => repetition 0 (some 1)
    | some '*' => repetition 0 none
    | some '+' => repetition 1 none
    | some '{' =>
      match level.pop? with
      | none => throw .nothingToRepeat
      | some (item, level) =>
        let (min, max) ← counts
        patternLoop bound (level.push (.repetition item min max (← greedy))) outer
    | some c => patternLoop bound (level.push (← primitive c).toWritten) outer

end Parse

/-- Reads the text of a pattern, and rejects one that is nested too deep. -/
def Written.parse (text : String) : Except Fault Written := do
  let chars := text.toList
  let level : Parse.GroupLevel := ⟨false, ⟨[], []⟩, false, [], []⟩
  let (written, _) ← (Parse.patternLoop (chars.length + 1) level []).run { rest := chars }
  if written.depth ≤ Written.depthLimit then .ok written else .error .tooNested

end TreeSearch.Pattern
