/-!
JSON values as far as a text can be read. A text that is not well formed is read up to
its first fault, so that whoever takes a value out of it from left to right can tell
whether the fault or a value of the wrong shape comes first.
-/

namespace UriExpansion

namespace Json

/-- What can be wrong with a JSON text. -/
inductive Fault where
  | malformed
  /-- The text ends too early. -/
  | truncated
  /-- The text ends too early, inside a number. -/
  | truncatedNumber
  /-- The text is well formed but holds another value than is asked for. -/
  | wrongShape
  deriving DecidableEq, Repr

/-- What a fault of a value that nobody takes counts for. Such a value is only passed over,
and then a number that is cut off is malformed. -/
def Fault.inPassing : Fault → Fault
  | truncatedNumber => malformed
  | fault => fault

def Fault.message : Fault → String
  | malformed => "the text is malformed"
  | truncated | truncatedNumber => "the text ends too early"
  | wrongShape => "the text holds another value than is asked for"

/-- A string with its escapes replaced, or the first fault in it. -/
abbrev Content := Except Fault String

end Json

inductive Json where
  | null
  | bool (value : Bool)
  | number (isInRange : Bool)
  | string (content : Json.Content)
  /-- The items in front of the closing bracket, or of the fault if there is one. -/
  | array (items : List Json) (fault? : Option Json.Fault)
  | object (members : List (Json.Content × Json)) (fault? : Option Json.Fault)
  /-- A fault in the place of a value. -/
  | absent (fault : Json.Fault)

namespace Json

/-- The number of containers around a value at which it may not be a container itself. -/
def depthLimit : Nat :=
  127

mutual

/-- The first fault of a value inside `depth` containers. -/
def firstFault? (depth : Nat) : Json → Option Fault
  | null | bool _ => none
  | number isInRange => if isInRange then none else some .malformed
  | string content =>
      match content with
      | .ok _ => none
      | .error fault => some fault
  | array items fault? =>
      if depthLimit ≤ depth then some .malformed
      else (firstFaultOfItems? (depth + 1) items).or fault?
  | object members fault? =>
      if depthLimit ≤ depth then some .malformed
      else (firstFaultOfMembers? (depth + 1) members).or fault?
  | absent fault => some fault

def firstFaultOfItems? (depth : Nat) : List Json → Option Fault
  | [] => none
  | item :: rest => (firstFault? depth item).or (firstFaultOfItems? depth rest)

def firstFaultOfMembers? (depth : Nat) : List (Content × Json) → Option Fault
  | [] => none
  | member :: rest => (firstFaultOfMember? depth member).or (firstFaultOfMembers? depth rest)

def firstFaultOfMember? (depth : Nat) : Content × Json → Option Fault
  | (.error fault, _) => some fault
  | (.ok _, value) => firstFault? depth value

end

/-- Why a value cannot be taken for one of another kind. A container is refused at its
first bracket, and anything else once it has been read. -/
def mismatch : Json → Fault
  | absent fault | string (.error fault) => fault
  | number false => .malformed
  | _ => .wrongShape

def asString : Json → Except Fault String
  | string (.ok text) => .ok text
  | other => .error other.mismatch

/-- Take a string or nothing, which `null` stands for. -/
def asOptionalString : Json → Except Fault (Option String)
  | null => .ok none
  | other => other.asString.map some

end Json

end UriExpansion
