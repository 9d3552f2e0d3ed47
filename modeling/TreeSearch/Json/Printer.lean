import TreeSearch.Json.Basic

/-!
# Writing JSON

A value is written without blanks, or over several lines with two blanks of indentation for each
level. Both forms are written by appending to the text so far.
-/

namespace TreeSearch.Json

/-- How the parts of a value are laid out. -/
inductive Layout where
  | compact
  | indented
deriving DecidableEq, Repr

/-- How a character is written inside of a string. -/
def escapeChar (c : Char) : String :=
  match c with
  | '"' => "\\\""
  | '\\' => "\\\\"
  | '\x08' => "\\b"
  | '\x0c' => "\\f"
  | '\n' => "\\n"
  | '\r' => "\\r"
  | '\t' => "\\t"
  | c =>
    if c.toNat < 0x10 then "\\u000" ++ String.ofList (Nat.toDigits 16 c.toNat)
    else if c.toNat < 0x20 then "\\u00" ++ String.ofList (Nat.toDigits 16 c.toNat)
    else c.toString

/-- Appends a string in quotation marks. -/
def writeString (text : String) (out : String) : String :=
  (text.toList.foldl (fun out c => out ++ escapeChar c) (out.push '"')).push '"'

namespace Layout

/-- Appends the break in front of an item at the given level. -/
def writeBreak (layout : Layout) (level : Nat) (out : String) : String :=
  match layout with
  | .compact => out
  | .indented => (out.push '\n').pushn ' ' (2 * level)

/-- Appends what stands between the name of a field and its value. -/
def writeColon (layout : Layout) (out : String) : String :=
  match layout with
  | .compact => out.push ':'
  | .indented => out ++ ": "

/-- Appends a comma behind an item if there is one. -/
def writeComma (first : Bool) (out : String) : String := if first then out else out.push ','

end Layout

mutual

/-- Appends a value at the given level. -/
def write (layout : Layout) (level : Nat) (v : Json) (out : String) : String :=
  match v with
  | .null => out ++ "null"
  | .bool true => out ++ "true"
  | .bool false => out ++ "false"
  | .num n => out ++ n.text
  | .str s => writeString s out
  | .arr [] => out ++ "[]"
  | .arr (item :: items) =>
    (layout.writeBreak level
      (writeItems layout (level + 1) true (item :: items) (out.push '['))).push ']'
  | .obj [] => out ++ "\x7b\x7d"
  | .obj (field :: fields) =>
    (layout.writeBreak level
      (writeFields layout (level + 1) true (field :: fields) (out.push '{'))).push '}'

/-- Appends the items of an array. -/
def writeItems (layout : Layout) (level : Nat) (first : Bool) (items : List Json) (out : String) :
    String :=
  match items with
  | [] => out
  | item :: items =>
    writeItems layout level false items
      (write layout level item (layout.writeBreak level (Layout.writeComma first out)))

/-- Appends the fields of an object. -/
def writeFields (layout : Layout) (level : Nat) (first : Bool) (fields : List (String × Json))
    (out : String) : String :=
  match fields with
  | [] => out
  | (name, value) :: fields =>
    writeFields layout level false fields
      (write layout level value
        (layout.writeColon
          (writeString name (layout.writeBreak level (Layout.writeComma first out)))))

end

/-- The value on one line without blanks. -/
def compact (v : Json) : String := write .compact 0 v ""

/-- The value over several lines. -/
def pretty (v : Json) : String := write .indented 0 v ""

end TreeSearch.Json
