import TreeSearch.Pattern.Syntax
import TreeSearch.Pattern.Form
import TreeSearch.Unicode.CaseFolding
import TreeSearch.Unicode.Lookup

/-!
# Resolving flags and names

`Written.resolve` turns a written pattern into its form. Flags hold from the place where they
are set to the end of the group around it, also across the bars of an alternation. Under the Unicode
flag classes are sets of characters; without it they are sets of bytes, and a class with a byte that
is no ASCII character is refused, because it could match a part of a character.
-/

namespace TreeSearch.Pattern

open Unicode (CodeSet)

/-- The flags in force at a place of a pattern. -/
structure Flags where
  caseInsensitive : Bool := false
  multiLine : Bool := false
  dotMatchesNewLine : Bool := false
  swapGreed : Bool := false
  crlf : Bool := false
  unicode : Bool := true
deriving DecidableEq, Repr

namespace Flags

/-- Sets one flag. Whether blanks are skipped has been settled when the pattern was read. -/
def put (flags : Flags) (value : Bool) : Flag → Flags
  | .caseInsensitive => { flags with caseInsensitive := value }
  | .multiLine => { flags with multiLine := value }
  | .dotMatchesNewLine => { flags with dotMatchesNewLine := value }
  | .crlf => { flags with crlf := value }
  | .unicode => { flags with unicode := value }
  | .swapGreed => { flags with swapGreed := value }
  | .verbose => flags

/-- The flags after a change. -/
def apply (flags : Flags) (change : FlagChange) : Flags :=
  change.off.foldl (fun flags f => flags.put false f)
    (change.on.foldl (fun flags f => flags.put true f) flags)

end Flags

/-- The members of a class named between colons. -/
def AsciiClass.codes : AsciiClass → CodeSet
  | .alnum => .read "30-39 41-5A 61-7A"
  | .alpha => .read "41-5A 61-7A"
  | .ascii => .read "0-7F"
  | .blank => .read "9 20"
  | .cntrl => .read "0-1F 7F"
  | .digit => .read "30-39"
  | .graph => .read "21-7E"
  | .lower => .read "61-7A"
  | .print => .read "20-7E"
  | .punct => .read "21-2F 3A-40 5B-60 7B-7E"
  | .space => .read "9-D 20"
  | .upper => .read "41-5A"
  | .word => .read "30-39 41-5A 5F 61-7A"
  | .xdigit => .read "30-39 41-46 61-66"

/-- The members of a class with a one-letter escape. -/
def EscapeClass.codes (unicode : Bool) : EscapeClass → CodeSet
  | .digit => if unicode then Unicode.Property.digit else AsciiClass.digit.codes
  | .space => if unicode then Unicode.Property.whiteSpace else AsciiClass.space.codes
  | .word => if unicode then Unicode.Property.word else AsciiClass.word.codes

/-- The characters that a question about a property asks for. -/
def PropertyQuery.codes? : PropertyQuery → Option CodeSet
  | .named name => Unicode.named? name
  | .valued name value => Unicode.valued? name value

/-- Adds the characters that differ only in case, among ASCII letters. -/
def closeAsciiCase (s : CodeSet) : CodeSet :=
  .ofRanges <| s.ranges.toList.flatMap fun r =>
    let shift (first last other : Nat) : Unicode.CodeRange :=
      let lo := max r.first first
      let hi := min r.last last
      ⟨lo - first + other, hi + other - first⟩
    let lower := if max r.first 0x41 ≤ min r.last 0x5A then [shift 0x41 0x5A 0x61] else []
    let upper := if max r.first 0x61 ≤ min r.last 0x7A then [shift 0x61 0x7A 0x41] else []
    r :: lower ++ upper

namespace Flags

/-- The code points that a class can range over: all of them, or the bytes. -/
def complement (flags : Flags) (s : CodeSet) : CodeSet :=
  if flags.unicode then s.compl else (CodeSet.range 0 0xFF).diff s

/-- Closes a class under case if case does not count. -/
def foldCase (flags : Flags) (s : CodeSet) : CodeSet :=
  if flags.caseInsensitive then
    if flags.unicode then Unicode.CaseFolding.close s else closeAsciiCase s
  else s

/-- Refuses a class of bytes that are no characters. -/
def checkBytes (flags : Flags) (s : CodeSet) : Except Fault CodeSet :=
  if flags.unicode || s.isAscii then .ok s else .error .notUtf8

/-- Closes a class under case and then negates it. -/
def foldAndNegate (flags : Flags) (negated : Bool) (s : CodeSet) : Except Fault CodeSet :=
  let folded := flags.foldCase s
  flags.checkBytes (if negated then flags.complement folded else folded)

/-- The members of a class with a one-letter escape. -/
def escapeCodes (flags : Flags) (c : EscapeClass) (negated : Bool) : Except Fault CodeSet :=
  let codes := c.codes flags.unicode
  flags.checkBytes (if negated then flags.complement codes else codes)

/-- The members of a class given by a property. -/
def propertyCodes (flags : Flags) (q : PropertyQuery) (negated : Bool) : Except Fault CodeSet :=
  if flags.unicode then
    match q.codes? with
    | some codes => flags.foldAndNegate negated codes
    | none => .error .unknownProperty
  else .error .unicodeDisabled

/-- The character of a literal outside of classes. A byte that is no character is refused. -/
def literalChar (flags : Flags) (l : Literal) : Except Fault Char :=
  if !flags.unicode && l.asByte && 0x7F < l.char.toNat then .error .notUtf8 else .ok l.char

/-- The code point of a literal in a class. A class of bytes has no place for other characters. -/
def literalCode (flags : Flags) (l : Literal) : Except Fault Nat := do
  let c ← flags.literalChar l
  if !flags.unicode && 0x7F < c.toNat then .error .unicodeDisabled else .ok c.toNat

end Flags

/-- The operation on sets. -/
def SetOp.apply : SetOp → CodeSet → CodeSet → CodeSet
  | .inter => CodeSet.inter
  | .diff => CodeSet.diff
  | .symmDiff => CodeSet.symmDiff

mutual

/-- The members that the contents of a class stand for. -/
def ClassBody.codes (flags : Flags) : ClassBody → Except Fault CodeSet
  | .literal l => do
    let code ← flags.literalCode l
    return .range code code
  | .range first last => do return .range (← flags.literalCode first) (← flags.literalCode last)
  | .ascii c negated => flags.foldAndNegate negated c.codes
  | .property q negated => flags.propertyCodes q negated
  | .escape c negated => flags.escapeCodes c negated
  | .bracketed negated body => do flags.foldAndNegate negated (← body.codes flags)
  | .union items => do return .unions (← ClassBody.codesAll flags items)
  | .op o left right => do
    let left ← left.codes flags
    let right ← right.codes flags
    return o.apply (flags.foldCase left) (flags.foldCase right)

/-- The members of each item of a list. -/
def ClassBody.codesAll (flags : Flags) : List ClassBody → Except Fault (List CodeSet)
  | [] => .ok []
  | item :: items => do return (← item.codes flags) :: (← ClassBody.codesAll flags items)

end

/-- The place test that a boundary stands for. -/
def Boundary.look (flags : Flags) : Boundary → Look
  | .lineStart =>
    if flags.multiLine then if flags.crlf then .lineStartCrlf else .lineStart else .textStart
  | .lineEnd =>
    if flags.multiLine then if flags.crlf then .lineEndCrlf else .lineEnd else .textEnd
  | .textStart => .textStart
  | .textEnd => .textEnd
  | .word => .word flags.unicode
  | .notWord => .notWord flags.unicode
  | .wordStart => .wordStart flags.unicode
  | .wordEnd => .wordEnd flags.unicode
  | .wordStartHalf => .wordStartHalf flags.unicode
  | .wordEndHalf => .wordEndHalf flags.unicode

/-- The characters that a dot stands for. -/
def Flags.dotCodes (flags : Flags) : Except Fault CodeSet :=
  if flags.unicode then
    .ok (if flags.dotMatchesNewLine then .all
      else if flags.crlf then (CodeSet.read "A D").compl
      else (CodeSet.read "A").compl)
  else .error .notUtf8

/-- The form of a literal. Where case does not count, it stands for all characters that differ from
it only in case; without the Unicode flag only ASCII letters have such. -/
def Flags.literalForm (flags : Flags) (c : Char) : Form :=
  if flags.unicode || c.toNat < 0x80 then
    .ofClass (flags.foldCase (.singleton c)) !flags.unicode
  else .literal [c]

mutual

/-- The form of a written pattern, and the flags in force behind it. -/
def Written.resolve (flags : Flags) : Written → Except Fault (Form × Flags)
  | .empty => .ok (.empty, flags)
  | .flags change => .ok (.empty, flags.apply change)
  | .literal l => do return (flags.literalForm (← flags.literalChar l), flags)
  | .dot => do return (.ofClass (← flags.dotCodes) false, flags)
  | .boundary b => .ok (.look (b.look flags), flags)
  | .property q negated => do return (.ofClass (← flags.propertyCodes q negated) false, flags)
  | .escape c negated => do return (.ofClass (← flags.escapeCodes c negated) !flags.unicode, flags)
  | .bracketed negated body => do
    let codes ← body.codes flags
    return (.ofClass (← flags.foldAndNegate negated codes) !flags.unicode, flags)
  | .repetition body min max greedy => do
    let (form, after) ← body.resolve flags
    return (form.repeated min max (greedy != flags.swapGreed), after)
  | .group captures change body => do
    let (form, _) ← body.resolve (flags.apply change)
    return (if captures then .capture form else form, flags)
  | .concat items => do
    let (forms, flags) ← Written.resolveAll flags items
    return (.concat forms, flags)
  | .alternation branches => do
    let (forms, flags) ← Written.resolveAll flags branches
    return (.alternation forms, flags)

/-- The forms of a list. Flags set in one element are in force in the next. -/
def Written.resolveAll (flags : Flags) : List Written → Except Fault (List Form × Flags)
  | [] => .ok ([], flags)
  | written :: rest => do
    let (form, flags) ← written.resolve flags
    let (forms, flags) ← Written.resolveAll flags rest
    return (form :: forms, flags)

end

end TreeSearch.Pattern
