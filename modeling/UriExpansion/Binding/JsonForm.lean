import UriExpansion.Binding.Variables
import UriExpansion.Json.Basic
import UriExpansion.Json.Writing

/-!
The JSON forms of values and variables. A text is a string, a list an array of strings
and an associative list an object of strings. Variables are an object of values, in
which `null` leaves a name without a value.
-/

namespace UriExpansion

open Json (Fault Content)

def AssociativeList.json (list : AssociativeList) : String :=
  Json.objectText (list.pairs.map fun (key, value) => (key, Json.stringText value))

namespace Value

def json : Value → String
  | .text content => Json.stringText content
  | .list items => Json.arrayText (items.map Json.stringText)
  | .associative pairs => pairs.json

/-- A member whose value is a string. -/
def textMember? : Content × Json → Option (String × String)
  | (.ok key, .string (.ok value)) => some (key, value)
  | _ => none

/-- The value whose form a JSON value without faults is. -/
def ofForm? : Json → Option Value
  | .string (.ok content) => some (.text content)
  | .array items _ => (items.mapM fun item : Json => item.asString.toOption).map .list
  | .object members _ => (members.mapM textMember?).map .ofPairs
  | _ => none

/-- Read a value inside `depth` containers. It is read to its end before its shape counts. -/
def ofJson (depth : Nat) (json : Json) : Except Fault Value :=
  match json.firstFault? depth, ofForm? json with
  | some fault, _ => .error fault
  | none, none => .error .wrongShape
  | none, some value => .ok value

end Value

namespace Variables

def json (values : Variables) : String :=
  Json.objectText (values.bindings.map fun (name, value) => (name, value.json))

/-- Give a name the value of a further member. -/
def addMember (depth : Nat) (values : Variables) (name : String) :
    Json → Except Fault Variables
  | .null => .ok (values.erase name)
  | other => (Value.ofJson depth other).map (values.insert name)

/-- Read members, each of which is inside `depth` containers. -/
def addMembers (depth : Nat) (values : Variables) :
    List (Content × Json) → Except Fault Variables
  | [] => .ok values
  | (.error fault, _) :: _ => .error fault
  | (.ok name, value) :: rest =>
      match addMember depth values name value with
      | .error fault => .error fault
      | .ok extended => addMembers depth extended rest

/-- Read variables inside `depth` containers. -/
def ofJson (depth : Nat) : Json → Except Fault Variables
  | .object members fault? =>
      match addMembers (depth + 1) empty members, fault? with
      | .error fault, _ => .error fault
      | .ok _, some fault => .error fault
      | .ok values, none => .ok values
  | other => .error other.mismatch

end Variables

end UriExpansion
