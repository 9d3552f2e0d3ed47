import TreeSearch.Json.Basic
import TreeSearch.Json.Fault
import TreeSearch.Json.Numeral
import TreeSearch.Json.Quotation

/-!
# Reading JSON

A machine that reads a JSON text byte by byte. What it is in the middle of is its `Mode`, and the
lists and objects around that wait on a stack, so a text may be nested to any depth. `Document.read`
runs the machine over a source. The value of a document is known before its end is, and what follows
the value is judged apart.
-/

namespace TreeSearch.Json

/-- A list or an object that waits for the value of one of its items. The items of a list are kept
with the last one first. -/
inductive Frame where
  | list (items : List Json)
  | entry (fields : Fields Json) (key : String)

/-- What the machine is in the middle of. -/
inductive Mode where
  /-- Before a value. -/
  | value
  /-- In a list, before its first item or behind a comma. -/
  | item (items : List Json) (first : Bool)
  /-- In a list, behind an item. -/
  | afterItem (items : List Json)
  /-- In an object, before its first key or behind a comma. -/
  | key (fields : Fields Json) (first : Bool)
  /-- In an object, in a key. -/
  | keyText (fields : Fields Json) (bytes : ByteArray) (place : Quotation)
  /-- In an object, behind a key. -/
  | colon (fields : Fields Json) (key : String)
  /-- In an object, behind a value. -/
  | afterEntry (fields : Fields Json)
  /-- In one of the words that stand for a value. -/
  | word (rest : List UInt8) (value : Json)
  /-- In a string. -/
  | text (bytes : ByteArray) (place : Quotation)
  /-- In a number. -/
  | number (numeral : Numeral)
  /-- Behind the value of the document. -/
  | done (value : Json)
  /-- Behind something that follows the value of the document. -/
  | trailing (value : Json)

/-- The state of the machine. -/
structure State where
  mode : Mode
  stack : List Frame

/-- Why a byte is refused, and whether the fault lies before the byte. -/
structure Refusal where
  reason : Reason
  beforeByte : Bool := false

namespace State

/-- Before the value of a document. -/
def start : State := ⟨.value, []⟩

/-- Hands a finished value to the list or object that waits for it. -/
def finish (value : Json) : List Frame → State
  | [] => ⟨.done value, []⟩
  | .list items :: rest => ⟨.afterItem (value :: items), rest⟩
  | .entry fields key :: rest => ⟨.afterEntry (fields.insert key value), rest⟩

/-- Whether a byte is a blank. -/
def isBlank (byte : UInt8) : Bool := byte = 32 || byte = 9 || byte = 10 || byte = 13

/-- Refuses a byte. -/
def refuse (reason : Reason) : Except Refusal State := .error { reason }

/-- Starts a value with its first byte. -/
def beginValue (stack : List Frame) (byte : UInt8) : Except Refusal State :=
  match Char.ofUInt8 byte with
  | '"' => .ok ⟨.text .empty .plain, stack⟩
  | '[' => .ok ⟨.item [] true, stack⟩
  | '{' => .ok ⟨.key [] true, stack⟩
  | 'n' => .ok ⟨.word "ull".toUTF8.data.toList .null, stack⟩
  | 't' => .ok ⟨.word "rue".toUTF8.data.toList (.bool true), stack⟩
  | 'f' => .ok ⟨.word "alse".toUTF8.data.toList (.bool false), stack⟩
  | _ =>
    match Numeral.start? byte with
    | some numeral => .ok ⟨.number numeral, stack⟩
    | none => refuse .expectedValue

/-- Steps over a byte behind an item of a list. -/
def afterItem (items : List Json) (stack : List Frame) (byte : UInt8) : Except Refusal State :=
  if isBlank byte then .ok ⟨.afterItem items, stack⟩
  else if byte = 44 then .ok ⟨.item items false, stack⟩
  else if byte = 93 then .ok (finish (.arr items.reverse) stack)
  else refuse .expectedListEnd

/-- Steps over a byte behind a value of an object. -/
def afterEntry (fields : Fields Json) (stack : List Frame) (byte : UInt8) : Except Refusal State :=
  if isBlank byte then .ok ⟨.afterEntry fields, stack⟩
  else if byte = 44 then .ok ⟨.key fields false, stack⟩
  else if byte = 125 then .ok (finish (.obj fields) stack)
  else refuse .expectedObjectEnd

/-- Steps over a byte behind the value of the document. -/
def afterDocument (value : Json) (stack : List Frame) (byte : UInt8) : State :=
  if isBlank byte then ⟨.done value, stack⟩ else ⟨.trailing value, stack⟩

/-- Steps over a byte right behind a number. -/
def afterNumber (value : Json) (stack : List Frame) (byte : UInt8) : Except Refusal State :=
  match stack with
  | [] => .ok (afterDocument value [] byte)
  | .list items :: rest => afterItem (value :: items) rest byte
  | .entry fields key :: rest => afterEntry (fields.insert key value) rest byte

/-- Steps over one byte. -/
def step (s : State) (byte : UInt8) : Except Refusal State :=
  match s.mode with
  | .value => if isBlank byte then .ok s else beginValue s.stack byte
  | .item items first =>
    if isBlank byte then .ok s
    else if byte = 93 then
      if first then .ok (finish (.arr items.reverse) s.stack) else refuse .trailingComma
    else beginValue (.list items :: s.stack) byte
  | .afterItem items => afterItem items s.stack byte
  | .key fields first =>
    if isBlank byte then .ok s
    else if byte = 34 then .ok ⟨.keyText fields .empty .plain, s.stack⟩
    else if byte = 125 then
      if first then .ok (finish (.obj fields) s.stack) else refuse .trailingComma
    else refuse .expectedKey
  | .keyText fields bytes place =>
    match place.step bytes byte with
    | .more bytes place => .ok ⟨.keyText fields bytes place, s.stack⟩
    | .refused reason => refuse reason
    | .closed =>
      match Quotation.decode bytes with
      | .ok key => .ok ⟨.colon fields key, s.stack⟩
      | .error reason => refuse reason
  | .colon fields key =>
    if isBlank byte then .ok s
    else if byte = 58 then .ok ⟨.value, .entry fields key :: s.stack⟩
    else refuse .expectedColon
  | .afterEntry fields => afterEntry fields s.stack byte
  | .word [] value => .ok (finish value s.stack)
  | .word (expected :: rest) value =>
    if byte = expected then
      if rest.isEmpty then .ok (finish value s.stack) else .ok ⟨.word rest value, s.stack⟩
    else refuse .expectedWord
  | .text bytes place =>
    match place.step bytes byte with
    | .more bytes place => .ok ⟨.text bytes place, s.stack⟩
    | .refused reason => refuse reason
    | .closed =>
      match Quotation.decode bytes with
      | .ok text => .ok (finish (.str text) s.stack)
      | .error reason => refuse reason
  | .number numeral =>
    match numeral.step byte with
    | .more next => .ok ⟨.number next, s.stack⟩
    | .invalid => refuse .invalidNumber
    | .outOfRange => refuse .numberOutOfRange
    | .ended =>
      match numeral.value? with
      | some number => afterNumber (.num number) s.stack byte
      | none => .error ⟨.numberOutOfRange, true⟩
  | .done value => .ok (afterDocument value s.stack byte)
  | .trailing value => .ok ⟨.trailing value, s.stack⟩

/-- Whether the machine is inside of a list or an object. -/
def isInside (s : State) : Bool :=
  match s.mode with
  | .item .. | .afterItem .. | .key .. | .keyText .. | .colon .. | .afterEntry .. => true
  | _ => !s.stack.isEmpty

/-- Ends a number at the end of the text, where nothing follows to show that it has ended. -/
def settle (s : State) : Except Reason State :=
  match s.mode with
  | .number numeral =>
    if numeral.isComplete then
      match numeral.value? with
      | some number => .ok (finish (.num number) s.stack)
      | none => .error .numberOutOfRange
    else .error .endInValue
  | _ => .ok s

/-- The value at the end of the text, or what is missing. -/
def atEnd (s : State) : Except Reason Json := do
  match (← s.settle).mode with
  | .value | .item _ false | .key _ false | .word .. | .number _ => .error .endInValue
  | .item _ true | .afterItem _ => .error .endInList
  | .key _ true | .colon .. | .afterEntry _ => .error .endInObject
  | .keyText .. | .text .. => .error .endInString
  | .done value | .trailing value => .ok value

end State

/-- Where the bytes of a document come from. A text is there as a whole. The bytes of a stream are
fetched one by one, and a fault is placed behind the last byte that was fetched; after its bytes the
stream ends, or fails for the given cause. -/
inductive Source where
  | text (content : String)
  | stream (bytes : ByteArray) (failure : Option String)

namespace Source

/-- The bytes of a source. -/
def bytes : Source → List UInt8
  | .text content => content.toUTF8.data.toList
  | .stream bytes _ => bytes.data.toList

/-- The cause for which the source fails behind its bytes. -/
def failure? : Source → Option String
  | .text _ => none
  | .stream _ failure => failure

/-- The position of a fault that the byte behind `before` brought to light. -/
def refusalPosition (source : Source) (refusal : Refusal) (before : Position) (byte : UInt8) :
    Position :=
  match source with
  | .text _ => if refusal.beforeByte then before else before.advance byte
  | .stream .. => before.advance byte

end Source

/-- The value of a document, and what is wrong behind it. -/
structure Document where
  value : Json
  ending : Option Fault

namespace Document

/-- Ends the reading at the given position. -/
def atEnd (source : Source) (s : State) (here : Position) : Except Fault Document :=
  match source.failure? with
  | none =>
    match s.atEnd with
    | .ok value => .ok ⟨value, none⟩
    | .error reason => .error (.located reason here)
  | some cause =>
    match s.mode with
    | .done value => .ok ⟨value, some ⟨.readFailure cause, none⟩⟩
    | _ => .error ⟨.readFailure cause, if s.isInside then some here else none⟩

/-- Reads the rest of a document. -/
def readFrom (source : Source) (s : State) (here : Position) :
    List UInt8 → Except Fault Document
  | [] => atEnd source s here
  | byte :: rest =>
    match s.step byte with
    | .error refusal =>
      .error (.located refusal.reason (source.refusalPosition refusal here byte))
    | .ok next =>
      match next.mode with
      | .trailing value => .ok ⟨value, some (.located .trailingCharacters (here.advance byte))⟩
      | _ => readFrom source next (here.advance byte) rest

/-- Reads a document. -/
def read (source : Source) : Except Fault Document :=
  readFrom source .start .start source.bytes

end Document

/-- Reads a text that holds one value. -/
def parse (text : String) : Except Fault Json := do
  let document ← Document.read (.text text)
  match document.ending with
  | none => .ok document.value
  | some fault => .error fault

end TreeSearch.Json
