import UriExpansion.CommandLine.Options
import UriExpansion.Text.Digit

/-!
The commands: to expand a template, and to serve a catalog.
-/

namespace UriExpansion.CommandLine

/-- Expand a template. -/
structure ExpandCommand where
  template : String
  /-- Bindings of the form `name=value`. -/
  assignments : List String
  /-- A JSON file with further variables. -/
  variablesPath? : Option String
  /-- Whether the expansion has to be a URL. -/
  asUrl : Bool
  deriving DecidableEq, Repr

/-- Serve a catalog. -/
structure ServeCommand where
  catalogPath? : Option String
  port : Nat
  deriving DecidableEq, Repr

inductive Command where
  | expand (command : ExpandCommand)
  | serve (command : ServeCommand)
  deriving DecidableEq, Repr

/-- The number of a port, perhaps with a sign. -/
def portNumber? (text : String) : Option Nat :=
  let (negative, digits) :=
    match text.toList with
    | '-' :: digits => (true, digits)
    | '+' :: digits => (false, digits)
    | digits => (false, digits)
  let number := Text.numberInBase 10 digits
  if digits.isEmpty || !digits.all Char.isDigit || 0xFFFF < number || (negative && 0 < number) then
    none
  else some number

def defaultPort : Nat :=
  8000

namespace ExpandCommand

def options : Options where
  options := [.help, .repeatable "var" 'v', .single "json" 'j', .flag "url"]
  takesWord := true

def read (arguments : List String) : Except UsageError ExpandCommand :=
  match options.read arguments with
  | .error error => .error error
  | .ok given =>
      match given.word? with
      | none => .error .missingWord
      | some template =>
          .ok {
            template
            assignments := given.values "var"
            variablesPath? := given.value? "json"
            asUrl := given.has "url" }

end ExpandCommand

namespace ServeCommand

def options : Options where
  options :=
    [.help, .single "templates" 't',
      { OptionSpec.single "port" 'p' with accepts := fun text => (portNumber? text).isSome }]
  takesWord := false

def read (arguments : List String) : Except UsageError ServeCommand :=
  (options.read arguments).map fun given =>
    { catalogPath? := given.value? "templates"
      port := ((given.value? "port").bind portNumber?).getD defaultPort }

end ServeCommand

namespace Command

def names : List String :=
  ["serve", "expand", "help"]

/-- Explain the program or the command that is named. -/
def explain : List String → UsageError
  | [] => .helpRequested
  | [name] => if names.contains name then .helpRequested else .unknownCommand
  | _ => .unknownCommand

/-- What is wrong with an argument in the place of a command. -/
def refuse (argument : String) (rest : List String) : UsageError :=
  match argument.toList with
  | ['-', '-'] =>
      match rest with
      | [] => .missingCommand
      | word :: _ => if names.contains word then .unknownArgument else .unknownCommand
  | '-' :: '-' :: name =>
      if name.takeWhile (· ≠ '=') ≠ "help".toList then .unknownArgument
      else if name.contains '=' then .unexpectedValue
      else .helpRequested
  | '-' :: letter :: _ => if letter = 'h' then .helpRequested else .unknownArgument
  | _ => .unknownCommand

def read : List String → Except UsageError Command
  | [] => .error .missingCommand
  | "expand" :: arguments => (ExpandCommand.read arguments).map .expand
  | "serve" :: arguments => (ServeCommand.read arguments).map .serve
  | "help" :: arguments => .error (explain arguments)
  | argument :: rest => .error (refuse argument rest)

end Command

end UriExpansion.CommandLine
