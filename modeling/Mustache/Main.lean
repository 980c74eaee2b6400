import Mustache.Command.Run
/-!
# The program

Reads the files that a command asks for, runs it, and writes its outcome. A command is run on the
files that have been read so far, which are none at first. If it fails for want of another file, that
file is read and the command is run again.
-/

namespace Mustache.Program

/-- The files that have been read. -/
abbrev Known := List (String × Except ReadError ByteArray)

/-- The files that have been read, as the files of a command. -/
def Known.files (known : Known) : Files := fun path =>
  (known.lookup path).getD (.error .unread)

/-- The cause of an error of the system. A file can be opened only below directories, and read only if
it is no directory itself; only the first of these errors names the file. -/
def cause : IO.Error → ReadError
  | .noFileOrDirectory .. => .notFound
  | .inappropriateType (some _) _ _ => .notDirectory
  | .inappropriateType none _ _ => .isDirectory
  | .permissionDenied .. => .other "Permission denied (os error 13)"
  | .invalidArgument _ code _ =>
    if code = 36 || code = 0 - 36 then .nameTooLong else .other "Invalid argument (os error 22)"
  | e => .other e.toString

/-- Reads a file. -/
def readFile (path : String) : IO (Except ReadError ByteArray) := do
  if path.toList.contains (Char.ofNat 0) then return .error .nulInName
  try
    return .ok (← IO.FS.readBinFile path)
  catch e => return .error (cause e)

/-- Runs a command, and reads the files that it asks for. -/
partial def runCommand (arguments : List String) (known : Known) : IO (Outcome × Known) := do
  let outcome := Command.runArguments known.files arguments
  match outcome with
  | .failure _ error =>
    match error.readError? with
    | some (path, .unread) => runCommand arguments ((path, ← readFile path) :: known)
    | _ => return (outcome, known)
  | _ => return (outcome, known)

/-- Runs a command as often as its report says, and gives the mean time of a run in microseconds. -/
def measure (arguments : List String) (known : Known) (outcome : Outcome) : IO String := do
  match outcome with
  | .success (.timing runs _ _) =>
    let start ← IO.monoNanosNow
    for _ in [0:runs] do
      let again := Command.runArguments known.files arguments
      if again.exitCode != outcome.exitCode then
        throw (IO.userError "the runs differ")
    let elapsed := (← IO.monoNanosNow) - start
    let hundredths := elapsed / (10 * runs)
    let fraction := hundredths % 100
    return s!"{hundredths / 100}.{fraction / 10}{fraction % 10}"
  | _ => return ""

end Mustache.Program

/-- Runs the command that the arguments make. -/
def main (arguments : List String) : IO UInt32 := do
  let (outcome, known) ← Mustache.Program.runCommand arguments []
  let time ← Mustache.Program.measure arguments known outcome
  let output ← IO.getStdout
  output.putStr (outcome.output time)
  output.flush
  if let some message := outcome.message? then
    (← IO.getStderr).putStr message
  return outcome.exitCode.toUInt32
