import TreeSearch.Command.Arguments
import TreeSearch.Grammar.Go
import TreeSearch.Node.Load
import TreeSearch.Report

/-!
# Running the command

The outcome of the command is decided in a fixed order: the arguments, the pattern, the file, the
walk of the tree and the report. `run` is given what opening the file leads to.
-/

namespace TreeSearch.Command

/-- What opening a file leads to: it fails, or there are bytes to read, behind which reading ends or
fails. -/
inductive File where
  | unopened (cause : String)
  | opened (bytes : ByteArray) (failure : Option String)

/-- Why the command fails after its arguments were understood. -/
inductive Failure where
  | pattern (error : QueryError)
  | load (file : String) (cause : LoadError)
  | walk (error : WalkError)
  | report (error : ReportError)

namespace Failure

/-- The wording of a failure. -/
def message : Failure → String
  | .pattern error => error.message
  | .load file _ => "cannot load `" ++ file ++ "`"
  | .walk error => error.message
  | .report error => error.message

/-- The code by which a failure is known. -/
def code : Failure → String
  | .pattern _ => "ast_walker::pattern"
  | .load _ _ => "ast_walker::load"
  | .walk _ => "ast_walker::walk"
  | .report _ => "ast_walker::output"

/-- Advice on a failure. -/
def help : Failure → Option String
  | .pattern _ => some "the pattern uses Rust `regex` syntax"
  | .walk _ => some "the dump does not fit the Go syntax tree layout"
  | .load _ _ | .report _ => none

end Failure

/-- The query that a selection asks for. -/
def Selection.query : Selection → Except QueryError Query
  | .path text => .ok (.exact text)
  | .pattern text => Query.ofPattern text
  | .kind name => .ok (.kind name)

/-- Loads the tree of a file. -/
def File.load : File → Except LoadError Node
  | .unopened cause => .error (.unreadable cause)
  | .opened bytes failure => Node.load (.stream bytes failure)

/-- What the command has written, and how it ended. -/
structure Outcome where
  sink : Sink
  result : Except Failure Unit

/-- The query of a request, if there is one. -/
def Request.query (r : Request) : Except Failure (Option Query) :=
  match r.selection with
  | none => .ok none
  | some selection => (selection.query.map some).mapError .pattern

/-- Ends with a report, or with its failure. -/
def Outcome.ofReport (written : Report × Except ReportError Unit) : Outcome :=
  ⟨written.1.sink, written.2.mapError .report⟩

/-- Writes the results of a search. -/
def reportResults (r : Report) (found : List (Match Node)) : Report × Except ReportError Unit :=
  match r.results found with
  | (r, .ok ()) => r.finish
  | failed => failed

/-- Answers a request. -/
def run (request : Request) (file : File) (sink : Sink) : Outcome :=
  match request.query with
  | .error failure => ⟨sink, .error failure⟩
  | .ok query =>
    match file.load with
    | .error cause => ⟨sink, .error (.load request.file cause)⟩
    | .ok root =>
      let report : Report := { sink, separator := request.separator }
      match query with
      | none => .ofReport (report.tree root)
      | some query =>
        match Walker.find { grammar := .go } query root with
        | .error error => ⟨sink, .error (.walk error)⟩
        | .ok found => .ofReport (reportResults report found)

/-- What the command says when it is asked for help. -/
def helpText : String :=
  "\n".intercalate
    ["Search a JSON syntax tree dump by path, path pattern or node type",
     "",
     "Usage: ast-walker [OPTIONS] <FILE>",
     "",
     "Arguments:",
     "  <FILE>  JSON dump of the syntax tree (without a query, the whole tree is printed)",
     "",
     "Options:",
     "      --command <PATH>         Print the node at exactly this path",
     "      --regex <REGEX>          Print every node whose path matches this regular expression",
     "      --type <NAME>            Print every node of this kind, e.g. `TypeSpec` or " ++
       "`*ast.TypeSpec`",
     "      --separator <SEPARATOR>  Separator placed between path segments in printed paths " ++
       "[default: .]",
     "  -h, --help                   Print help",
     "",
     "Hint:",
     "    Search first struct declaration by command:",
     "        ast-walker --command 'Decls[0].(*ast.GenDecl).Specs[0]' FILENAME",
     "    Search struct declaration by type:",
     "        ast-walker --type '*ast.TypeSpec' FILENAME",
     "    Search struct field declaration by regex:",
     "        ast-walker --regex 'Fields.List\\[\\d+\\]$' FILENAME",
     ""]

end TreeSearch.Command
