import UriExpansion.CommandLine.Expand

/-!
What the command that expands a template writes, or why it writes nothing.
-/

namespace UriExpansion.CommandLine.ExpandCommand

variable {command : ExpandCommand} {files : Files} {template bindings : String}
  {values : Variables}

theorem output_of_error {error : TemplateError}
    (notRead : Template.read command.template = .error error) :
    command.output files = .error (.invalidTemplate error) := by
  rw [output, notRead]
  rfl

/-- The bindings that assignments go on from: those of the file, if one is named. -/
inductive StartsFrom (command : ExpandCommand) (files : Files) : Variables → Prop
  | nothing : command.variablesPath? = none → StartsFrom command files .empty
  | file {path content : String} {values : Variables} :
      command.variablesPath? = some path → files path = .ok content →
      Json.decode (Variables.ofJson 0) content = .ok values → StartsFrom command files values

/-- Why there are no bindings to go on from. -/
inductive CannotStart (command : ExpandCommand) (files : Files) : ExpandError → Prop
  | unreadable {path reason : String} :
      command.variablesPath? = some path → files path = .error reason →
      CannotStart command files (.unreadableFile path reason)
  | invalid {path content : String} {fault : Json.Fault} :
      command.variablesPath? = some path → files path = .ok content →
      Json.decode (Variables.ofJson 0) content = .error fault →
      CannotStart command files (.invalidVariables path fault)

theorem startsFrom_or_cannotStart (command : ExpandCommand) (files : Files) :
    (∃ start, command.StartsFrom files start) ∨ ∃ error, command.CannotStart files error := by
  cases named : command.variablesPath? with
  | none => exact .inl ⟨_, .nothing named⟩
  | some path =>
      cases content : files path with
      | error reason => exact .inr ⟨_, .unreadable named content⟩
      | ok content' =>
          cases decoded : Json.decode (Variables.ofJson 0) content' with
          | error fault => exact .inr ⟨_, .invalid named content decoded⟩
          | ok values => exact .inl ⟨_, .file named content decoded⟩

theorem gather_of_startsFrom {start : Variables} (starts : command.StartsFrom files start) :
    command.gather files = command.assignments.foldlM assign start := by
  cases starts with
  | nothing unnamed =>
      rw [gather, unnamed]
      rfl
  | file named content decoded =>
      simp only [gather, named, readVariables, content, decoded]
      rfl

theorem gather_of_cannotStart {error : ExpandError} (fails : command.CannotStart files error) :
    command.gather files = .error error := by
  cases fails with
  | unreadable named content =>
      simp only [gather, named, readVariables, content]
      rfl
  | invalid named content notDecoded =>
      simp only [gather, named, readVariables, content, notDecoded]
      rfl

variable {read : Template}

theorem output_of_gather_error {error : ExpandError}
    (isRead : Template.read command.template = .ok read)
    (failed : command.gather files = .error error) : command.output files = .error error := by
  rw [output, isRead, failed]
  rfl

/-- What a command writes once it has a template and variables. -/
def written (command : ExpandCommand) (template : Template) (values : Variables) :
    Except ExpandError String :=
  if command.asUrl then (template.expandToUrl values).mapError .unusable |>.map Url.text
  else .ok (template.expand values)

theorem output_of_gather (isRead : Template.read command.template = .ok read)
    (gathered : command.gather files = .ok values) :
    command.output files = command.written read values := by
  rw [output, isRead, gathered]
  rfl

end UriExpansion.CommandLine.ExpandCommand
