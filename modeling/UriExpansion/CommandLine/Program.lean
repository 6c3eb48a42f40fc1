import UriExpansion.Catalog.Loading
import UriExpansion.CommandLine.Expand

/-!
What the program writes and how it ends.
-/

namespace UriExpansion.CommandLine

/-- What a run of the program leaves behind. -/
structure Outcome where
  exitCode : Nat
  output : String
  errors : String
  deriving DecidableEq, Repr

/-- Put `first` in front of the first line of a text and `later` in front of the others. -/
def indentLines (first later text : String) : String :=
  first ++ String.ofList (text.toList.flatMap fun c =>
    if c = '\n' then '\n' :: later.toList else [c])

/-- The causes of an error, which are numbered if there are several. -/
def causeLines : List String → List String
  | [cause] => [indentLines "    " "    " cause]
  | causes =>
      causes.zipIdx.map fun (cause, index) =>
        let number := String.ofList (Nat.toDigits 10 index)
        indentLines (String.ofList (List.replicate (5 - number.length) ' ') ++ number ++ ": ")
          "       " cause

/-- The report of an error and what is behind it. -/
def report (message : String) (causes : List String) : String :=
  "Error: " ++ message ++ "\n"
    ++ if causes.isEmpty then ""
      else "\nCaused by:\n" ++ String.intercalate "\n" (causeLines causes) ++ "\n"

namespace Outcome

def success (output : String) : Outcome :=
  ⟨0, output, ""⟩

def failure (message : String) (causes : List String) : Outcome :=
  ⟨1, "", report message causes⟩

end Outcome

namespace UsageError

def message : UsageError → String
  | unknownArgument => "unknown argument"
  | missingValue => "an option has no value"
  | unfitValue => "an option has a value that is not fit"
  | unexpectedValue => "an option has a value that it does not take"
  | repeatedOption => "an option is given more than once"
  | missingWord => "the template is missing"
  | missingCommand => "the command is missing"
  | unknownCommand => "unknown command"
  | helpRequested => "help"

def usage : String :=
  "Usage:\n" ++ "  expand TEMPLATE [-v NAME=VALUE]... [-j JSON_FILE] [--url]\n"
    ++ "  serve [-t TEMPLATES] [-p PORT]\n"

/-- What becomes of arguments that are not accepted. -/
def outcome : UsageError → Outcome
  | helpRequested => .success usage
  | error => ⟨2, "", "error: " ++ error.message ++ "\n\n" ++ usage⟩

end UsageError

/-- The catalog that is to be served. -/
def ServeCommand.catalog (command : ServeCommand) (files : Files) :
    Except CatalogError Catalog :=
  let path := command.catalogPath?.getD Catalog.defaultPath
  Catalog.ofFile path (files path)

namespace Command

/-- The file that a command reads. -/
def path? : Command → Option String
  | .expand command => command.variablesPath?
  | .serve command => some (command.catalogPath?.getD Catalog.defaultPath)

/-- Run a command. A catalog is only checked, as nothing listens for requests. -/
def run (files : Files) : Command → Outcome
  | .expand command =>
      match command.output files with
      | .error error => .failure error.message (error.causes ++ error.reason?.toList)
      | .ok output => .success (output ++ "\n")
  | .serve command =>
      match command.catalog files with
      | .error error => .failure error.message (error.causes ++ error.reason?.toList)
      | .ok _ => .failure "Requests cannot be listened for" []

end Command

def run (files : Files) (arguments : List String) : Outcome :=
  match Command.read arguments with
  | .error error => error.outcome
  | .ok command => command.run files

end UriExpansion.CommandLine
