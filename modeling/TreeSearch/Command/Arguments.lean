/-!
# The arguments of the command

The arguments are read from left to right. An option takes the argument behind it as its value, or
what stands behind an equals sign. What has been read last is settled only when the next argument is
known: only then is an option without a value, an option given twice, or an empty file name refused,
and an unknown argument is refused first.
-/

namespace TreeSearch.Command

/-- How to select nodes. -/
inductive Selection where
  | path (text : String)
  | pattern (text : String)
  | kind (name : String)
deriving DecidableEq, Repr

/-- What the command is asked to do. Without a selection the whole tree is shown. -/
structure Request where
  selection : Option Selection
  separator : String
  file : String
deriving DecidableEq, Repr

/-- Why arguments make no request. Asking for help is one of the reasons. -/
inductive UsageError where
  | help
  | tooManyValues
  | invalidValue
  | unknownArgument
  | conflict
  | missingFile
deriving DecidableEq, Repr

/-- The wording of a usage error. -/
def UsageError.message : UsageError → String
  | .help => "help was asked for"
  | .tooManyValues => "error: an option was given a value it does not take"
  | .invalidValue => "error: a value is missing or empty"
  | .unknownArgument => "error: unexpected argument"
  | .conflict => "error: arguments cannot be used together"
  | .missingFile => "error: the argument <FILE> is missing"

/-- The options with a value. -/
inductive Opt where
  | command
  | regex
  | type
  | separator
deriving DecidableEq, Repr

/-- The option with the given name. -/
def Opt.find? (name : String) : Option Opt :=
  match name with
  | "command" => some .command
  | "regex" => some .regex
  | "type" => some .type
  | "separator" => some .separator
  | _ => none

/-- What has been read last and is not settled. -/
inductive Pending where
  | nothing
  | option (o : Opt) (value : Option String)
  | file (name : String)
deriving DecidableEq, Repr

/-- What has been read. -/
structure Reading where
  values : List (Opt × String) := []
  file : Option String := none
  pending : Pending := .nothing
  /-- Whether all further arguments are file names. -/
  onlyFiles : Bool := false
deriving DecidableEq, Repr

namespace Reading

/-- Gives an option its value. -/
def setOption (r : Reading) (o : Opt) (value : String) : Except UsageError Reading :=
  if r.values.any fun v => v.1 = o then .error .conflict
  else .ok { r with values := (o, value) :: r.values }

/-- Settles what has been read last. -/
def settle (r : Reading) : Except UsageError Reading :=
  let settled := { r with pending := .nothing }
  match r.pending with
  | .nothing => .ok settled
  | .option _ none => .error .invalidValue
  | .option o (some value) => settled.setOption o value
  | .file name => if name.isEmpty then .error .invalidValue else .ok settled

/-- Reads a file name. There is only one. -/
def positional (r : Reading) (name : String) : Except UsageError Reading :=
  match r.file with
  | some _ => .error .unknownArgument
  | none => do
    let r ← r.settle
    return { r with file := some name, pending := .file name }

/-- Reads an argument that begins with two hyphens: a name, and a value if there is an equals sign.
-/
def long (r : Reading) (name : String) (value : Option String) : Except UsageError Reading :=
  if name = "help" then
    match value with
    | some _ => .error .tooManyValues
    | none => do
      let _ ← r.settle
      .error .help
  else
    match Opt.find? name, value with
    | none, _ => .error .unknownArgument
    | some o, some value => do (← r.settle).setOption o value
    | some o, none => do return { ← r.settle with pending := .option o none }

/-- Splits an argument at its first equals sign. -/
def splitValue (chars : List Char) : String × Option String :=
  let name := String.ofList (chars.takeWhile (· ≠ '='))
  match chars.dropWhile (· ≠ '=') with
  | [] => (name, none)
  | _ :: value => (name, some (String.ofList value))

/-- Reads one argument. -/
def step (r : Reading) (arg : String) : Except UsageError Reading :=
  if r.onlyFiles then r.positional arg
  else
    match arg.toList with
    | ['-', '-'] => .ok { r with onlyFiles := true }
    | '-' :: '-' :: rest => r.long (splitValue rest).1 (splitValue rest).2
    | '-' :: 'h' :: _ => do
      let _ ← r.settle
      .error .help
    | '-' :: _ :: _ => .error .unknownArgument
    | _ =>
      match r.pending with
      | .option o none => .ok { r with pending := .option o (some arg) }
      | _ => r.positional arg

/-- The value of an option. -/
def value? (r : Reading) (o : Opt) : Option String :=
  (r.values.find? fun v => v.1 = o).map Prod.snd

/-- The selections asked for. -/
def selections (r : Reading) : List Selection :=
  ((r.value? .command).map Selection.path).toList ++
    ((r.value? .regex).map Selection.pattern).toList ++
    ((r.value? .type).map Selection.kind).toList

/-- The request, once all arguments have been read. -/
def request (r : Reading) : Except UsageError Request := do
  let r ← r.settle
  let selection ←
    match r.selections with
    | [] => .ok none
    | [selection] => .ok (some selection)
    | _ => .error .conflict
  match r.file with
  | none => .error .missingFile
  | some file => .ok ⟨selection, (r.value? .separator).getD ".", file⟩

end Reading

/-- The request that arguments make. -/
def Request.ofArgs (args : List String) : Except UsageError Request := do
  (← args.foldlM Reading.step {}).request

end TreeSearch.Command
