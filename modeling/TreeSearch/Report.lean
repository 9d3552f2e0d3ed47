import TreeSearch.Node.Basic
import TreeSearch.Query

/-!
# Reports

The results of a search are written to a sink, which may stop taking bytes. Before the first result
stands a banner, and at the end it is said if there was none.
-/

namespace TreeSearch

/-- What takes the bytes of a report: the bytes taken so far, the number of bytes it takes in all,
if there is a limit, and whether it fails to pass them on. -/
structure Sink where
  written : ByteArray := .empty
  limit : Option Nat := none
  failsToFlush : Bool := false

namespace Sink

/-- The number of bytes that the sink still takes, up to `wanted`. -/
def room (s : Sink) (wanted : Nat) : Nat :=
  match s.limit with
  | none => wanted
  | some limit => min wanted (limit - s.written.size)

/-- Writes a text, and tells whether all of it was taken. The bytes that fit are kept. -/
def write (s : Sink) (text : String) : Sink × Bool :=
  let bytes := text.toUTF8
  let taken := s.room bytes.size
  ({ s with written := s.written ++ bytes.extract 0 taken }, taken = bytes.size)

/-- Writes lines up to the first one that is not taken as a whole. -/
def writeLines (s : Sink) : List String → Sink × Bool
  | [] => (s, true)
  | line :: rest =>
    match s.write (line ++ "\n") with
    | (s, true) => s.writeLines rest
    | (s, false) => (s, false)

end Sink

/-- Why a report fails. -/
inductive ReportError where
  | writeFailure
deriving DecidableEq, Repr

/-- The wording of an error. -/
def ReportError.message : ReportError → String
  | .writeFailure => "failed to write output"

/-- A report that is being written. -/
structure Report where
  sink : Sink
  separator : String
  found : Bool := false

namespace Report

/-- The lines in front of the first result. -/
def banner : List String := ["Found!", ""]

/-- The lines of a result. -/
def entry (separator : String) (node : Node) (path : Path) : List String :=
  ["COMMAND: ", "    " ++ path.render separator, "AST_PRINT: ", node.pretty, ""]

/-- Writes lines. -/
def writeLines (r : Report) (lines : List String) : Report × Except ReportError Unit :=
  let (sink, complete) := r.sink.writeLines lines
  ({ r with sink }, if complete then .ok () else .error .writeFailure)

/-- Writes a result, behind the banner if it is the first. -/
def result (r : Report) (node : Node) (path : Path) : Report × Except ReportError Unit :=
  let lines := entry r.separator node path
  { r with found := true }.writeLines (if r.found then lines else banner ++ lines)

/-- Writes a whole tree. -/
def tree (r : Report) (root : Node) : Report × Except ReportError Unit :=
  r.writeLines [root.pretty]

/-- Ends the report, and says so if there was no result. -/
def finish (r : Report) : Report × Except ReportError Unit :=
  match r.writeLines (if r.found then [] else ["Not found."]) with
  | (r, .ok ()) => (r, if r.sink.failsToFlush then .error .writeFailure else .ok ())
  | failed => failed

/-- Writes results up to the first one that fails. -/
def results (r : Report) : List (Match Node) → Report × Except ReportError Unit
  | [] => (r, .ok ())
  | m :: rest =>
    match r.result m.node m.path with
    | (r, .ok ()) => r.results rest
    | failed => failed

end Report

end TreeSearch
