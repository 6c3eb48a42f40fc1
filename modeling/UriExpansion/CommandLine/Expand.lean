import UriExpansion.Binding.JsonForm
import UriExpansion.CommandLine.Command
import UriExpansion.Json.Reading
import UriExpansion.Template.Link
import UriExpansion.Template.Reading

/-!
The command that expands a template. Variables come from a file first, and assignments
add to them in order.
-/

namespace UriExpansion.CommandLine

/-- Files by their paths, each with its content or the reason why it cannot be read. -/
abbrev Files := String → Except String String

/-- Why an expansion is not written. -/
inductive ExpandError where
  | invalidTemplate (error : TemplateError)
  | unreadableFile (path reason : String)
  | invalidVariables (path : String) (fault : Json.Fault)
  | invalidAssignment (text : String)
  | unusable (error : ExpansionError)
  deriving DecidableEq, Repr

namespace ExpandError

def message : ExpandError → String
  | invalidTemplate error => error.message
  | unreadableFile path _ => "Could not read variables file '" ++ path ++ "'"
  | invalidVariables path _ => "Invalid variables in '" ++ path ++ "'"
  | invalidAssignment text => "Expected NAME=VALUE but got '" ++ text ++ "'"
  | unusable error => error.message

/-- The messages of what is behind an error. The reason why a file cannot be read is not
among them. -/
def causes : ExpandError → List String
  | unusable error => [error.refusal.message]
  | _ => []

/-- Why a file cannot be read, or holds no variables. -/
def reason? : ExpandError → Option String
  | unreadableFile _ reason => some reason
  | invalidVariables _ fault => some fault.message
  | _ => none

end ExpandError

/-- Split an assignment at its first equals sign. The value may be empty, the name not. -/
def splitAssignment (text : String) : Except ExpandError (String × String) :=
  let name := text.toList.takeWhile (· ≠ '=')
  match text.toList.dropWhile (· ≠ '=') with
  | _ :: value =>
      if name.isEmpty then .error (.invalidAssignment text)
      else .ok (String.ofList name, String.ofList value)
  | [] => .error (.invalidAssignment text)

def assign (values : Variables) (assignment : String) : Except ExpandError Variables :=
  (splitAssignment assignment).map fun (name, value) => values.appendText name value

def readVariables (files : Files) (path : String) : Except ExpandError Variables :=
  match files path with
  | .error reason => .error (.unreadableFile path reason)
  | .ok content =>
      match Json.decode (Variables.ofJson 0) content with
      | .error fault => .error (.invalidVariables path fault)
      | .ok values => .ok values

namespace ExpandCommand

/-- The variables that the arguments bind. -/
def gather (command : ExpandCommand) (files : Files) : Except ExpandError Variables := do
  let start ←
    match command.variablesPath? with
    | none => pure .empty
    | some path => readVariables files path
  command.assignments.foldlM assign start

def output (command : ExpandCommand) (files : Files) : Except ExpandError String := do
  let template ← (Template.read command.template).mapError .invalidTemplate
  let values ← command.gather files
  if command.asUrl then
    (template.expandToUrl values).mapError .unusable |>.map Url.text
  else return template.expand values

end ExpandCommand

end UriExpansion.CommandLine
