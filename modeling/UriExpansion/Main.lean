import UriExpansion.CommandLine.Program

/-!
The program itself: it reads the one file that its arguments name and writes what the
run leaves behind.
-/

open UriExpansion.CommandLine

/-- Why a file cannot be read. -/
def readingFailure : IO.Error → String
  | .noFileOrDirectory _ _ _ => "No such file or directory (os error 2)"
  | error => toString error

/-- The content of a file, or why it cannot be read. -/
def readNamedFile (path : String) : IO (Except String String) :=
  try
    return .ok (← IO.FS.readFile path)
  catch error =>
    return .error (readingFailure error)

/-- The content of the file that a command reads. -/
def readCommandFile (command : Command) : IO (Except String String) :=
  match command.path? with
  | none => return .error ""
  | some path => readNamedFile path

def main (arguments : List String) : IO UInt32 := do
  let outcome ←
    match Command.read arguments with
    | .error error => pure error.outcome
    | .ok command => do
        let content ← readCommandFile command
        pure (command.run fun _ => content)
  (← IO.getStdout).putStr outcome.output
  (← IO.getStderr).putStr outcome.errors
  return UInt32.ofNat outcome.exitCode
