import TreeSearch.Command.Run

/-!
# The command line

Reads the arguments and the file, writes the report to the standard output, and says on the standard
error output why the command fails.
-/

namespace TreeSearch.Command

/-- The number of an error that may be kept with its sign changed, as a word of 32 bits. -/
def errorNumber (code : UInt32) : Nat :=
  if code.toNat < 0x80000000 then code.toNat else UInt32.size - code.toNat

/-- The number and the wording of an operating system error. -/
def systemError? : IO.Error → Option (Nat × String)
  | .alreadyExists _ code details | .interrupted _ code details
  | .noFileOrDirectory _ code details | .invalidArgument _ code details
  | .permissionDenied _ code details | .resourceExhausted _ code details
  | .inappropriateType _ code details | .noSuchThing _ code details
  | .otherError code details | .resourceBusy code details | .resourceVanished code details
  | .unsupportedOperation code details | .hardwareFault code details
  | .unsatisfiedConstraints code details | .illegalOperation code details
  | .protocolError code details | .timeExpired code details =>
    some (errorNumber code, details.capitalize)
  | .unexpectedEof | .userError _ => none

/-- The cause that an operating system error is reported as. -/
def systemCause (error : IO.Error) : String :=
  match systemError? error with
  | some (number, details) => details ++ " (os error " ++ number.repr ++ ")"
  | none => toString error

/-- The number of the error that reading a directory leads to. Opening one succeeds. -/
def isDirectoryNumber : Nat := 21

/-- Opens a file and reads its bytes. -/
def openFile (name : String) : IO File := do
  try
    return .opened (← IO.FS.readBinFile name) none
  catch error =>
    let cause := systemCause error
    match systemError? error with
    | some (number, _) =>
      if number = isDirectoryNumber then return .opened .empty (some cause)
      else return .unopened cause
    | none => return .unopened cause

/-- Says why the command fails. -/
def complain (failure : Failure) : IO Unit := do
  IO.eprintln (failure.code ++ ": " ++ failure.message)
  match failure with
  | .load _ cause => IO.eprintln cause.message
  | _ => pure ()
  match failure.help with
  | some help => IO.eprintln ("help: " ++ help)
  | none => pure ()

/-- Runs the command with the given arguments and returns its exit code. -/
def perform (args : List String) : IO UInt32 := do
  match Request.ofArgs args with
  | .error .help =>
    IO.print helpText
    return 0
  | .error error =>
    IO.eprintln error.message
    return 2
  | .ok request =>
    let outcome := run request (← openFile request.file) {}
    let out ← IO.getStdout
    out.write outcome.sink.written
    out.flush
    match outcome.result with
    | .ok () => return 0
    | .error failure =>
      complain failure
      return 1

end TreeSearch.Command

def main (args : List String) : IO UInt32 := TreeSearch.Command.perform args
