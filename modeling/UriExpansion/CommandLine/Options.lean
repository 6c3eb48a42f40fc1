/-!
Options on a command line. An option is named by a word behind two hyphens or a letter
behind one. Its value is attached to the name or the argument that follows, unless that
looks like an option itself. Behind two hyphens alone no argument is an option.

A value is judged when the next option or word comes, so an argument that is not known
is reported before a value that is not fit.
-/

namespace UriExpansion.CommandLine

inductive UsageError where
  | unknownArgument
  | missingValue
  | unfitValue
  | unexpectedValue
  | repeatedOption
  | missingWord
  | missingCommand
  | unknownCommand
  /-- The arguments ask for an explanation instead. -/
  | helpRequested
  deriving DecidableEq, Repr

inductive OptionKind where
  /-- Asks for an explanation. -/
  | help
  /-- Is given or not. -/
  | flag
  /-- Has a value. -/
  | single
  /-- Has a value each time it is given. -/
  | repeatable
  deriving DecidableEq, Repr

def OptionKind.takesValue : OptionKind → Bool
  | help | flag => false
  | single | repeatable => true

structure OptionSpec where
  name : String
  letter? : Option Char
  kind : OptionKind
  /-- Whether a value is fit. -/
  accepts : String → Bool

namespace OptionSpec

def help : OptionSpec :=
  ⟨"help", some 'h', .help, fun _ => true⟩

def flag (name : String) : OptionSpec :=
  ⟨name, none, .flag, fun _ => true⟩

def single (name : String) (letter : Char) : OptionSpec :=
  ⟨name, some letter, .single, fun _ => true⟩

def repeatable (name : String) (letter : Char) : OptionSpec :=
  ⟨name, some letter, .repeatable, fun _ => true⟩

end OptionSpec

/-- What may be given to a command. -/
structure Options where
  options : List OptionSpec
  /-- Whether there is one argument that is no option. -/
  takesWord : Bool

/-- What has been given. -/
structure Given where
  /-- Options with their values, in order. -/
  options : List (String × String)
  word? : Option String
  deriving DecidableEq, Repr

namespace Given

def has (given : Given) (name : String) : Bool :=
  (given.options.lookup name).isSome

def value? (given : Given) (name : String) : Option String :=
  given.options.lookup name

def values (given : Given) (name : String) : List String :=
  (given.options.filter (·.1 = name)).map Prod.snd

end Given

/-- What has been given so far. -/
structure Progress where
  given : Given
  /-- The option that has been named last, with its value once that has come. -/
  pending? : Option (OptionSpec × Option String)
  /-- No argument is an option any more. -/
  onlyWords : Bool

namespace Progress

def start : Progress :=
  ⟨⟨[], none⟩, none, false⟩

def record (progress : Progress) (option : OptionSpec) (value : String) :
    Except UsageError Progress :=
  if option.kind ≠ .repeatable && progress.given.has option.name then .error .repeatedOption
  else if !option.accepts value then .error .unfitValue
  else
    let given := progress.given
    .ok { progress with
      given := { given with options := given.options ++ [(option.name, value)] } }

/-- Judge the option that has been named last. -/
def settle (progress : Progress) : Except UsageError Progress :=
  match progress.pending? with
  | none => .ok progress
  | some (_, none) => .error .missingValue
  | some (option, some value) => { progress with pending? := none }.record option value

/-- Take the name of an option with the value that is attached to it. -/
def nameOption (progress : Progress) (option : OptionSpec) (attached? : Option String) :
    Except UsageError Progress :=
  match progress.settle with
  | .error error => .error error
  | .ok settled =>
      match option.kind, attached? with
      | .help, _ => .error .helpRequested
      | .flag, _ => settled.record option ""
      | _, some value => settled.record option value
      | _, none => .ok { settled with pending? := some (option, none) }

/-- What is attached to a letter that stands for an option with a value. -/
def attachedValue? : List Char → Option String
  | [] => none
  | '=' :: value => some (String.ofList value)
  | value => some (String.ofList value)

/-- Read letters behind a hyphen. -/
def readLetters (options : List OptionSpec) (progress : Progress) :
    List Char → Except UsageError Progress
  | [] => .ok progress
  | letter :: rest =>
      match options.find? (·.letter? = some letter) with
      | none => .error .unknownArgument
      | some option =>
          if option.kind.takesValue then progress.nameOption option (attachedValue? rest)
          else
            match progress.nameOption option none with
            | .error error => .error error
            | .ok further => readLetters options further rest

/-- Read a name behind two hyphens, with the value behind an equals sign. -/
def readName (options : List OptionSpec) (progress : Progress) (text : List Char) :
    Except UsageError Progress :=
  let name := String.ofList (text.takeWhile (· ≠ '='))
  let attached? :=
    if text.contains '=' then some (String.ofList ((text.dropWhile (· ≠ '=')).drop 1)) else none
  match options.find? (·.name = name) with
  | none => .error .unknownArgument
  | some option =>
      if !option.kind.takesValue && attached?.isSome then .error .unexpectedValue
      else progress.nameOption option attached?

def addWord (takesWord : Bool) (progress : Progress) (word : String) :
    Except UsageError Progress :=
  if !takesWord || progress.given.word?.isSome then .error .unknownArgument
  else
    match progress.settle with
    | .error error => .error error
    | .ok settled => .ok { settled with given := { settled.given with word? := some word } }

def read (options : Options) (progress : Progress) (argument : String) :
    Except UsageError Progress :=
  if progress.onlyWords then progress.addWord options.takesWord argument
  else
    match argument.toList, progress.pending? with
    | ['-', '-'], _ => .ok { progress with onlyWords := true }
    | '-' :: '-' :: name, _ => progress.readName options.options name
    | '-' :: letter :: rest, _ => progress.readLetters options.options (letter :: rest)
    | _, some (option, none) => .ok { progress with pending? := some (option, some argument) }
    | _, _ => progress.addWord options.takesWord argument

end Progress

def Options.read (options : Options) (arguments : List String) : Except UsageError Given :=
  match arguments.foldlM (Progress.read options) .start with
  | .error error => .error error
  | .ok progress => progress.settle.map Progress.given

end UriExpansion.CommandLine
