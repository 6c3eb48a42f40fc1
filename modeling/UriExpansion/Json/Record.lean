import UriExpansion.Json.Basic

/-!
Records in JSON: an object that gives the fields by their names, or an array that gives
them in order. Members of an object that are not fields are passed over whatever they
hold, but no field is given twice.
-/

namespace UriExpansion.Json

/-- A field of a record, and what is wrong with a value that it may not have. -/
structure Field where
  name : String
  fault? : Json → Option Fault

/-- The field whose values are those that something can be taken out of. -/
def Field.of {α : Type} (name : String) (take : Json → Except Fault α) : Field where
  name := name
  fault? := fun value =>
    match take value with
    | .error fault => some fault
    | .ok _ => none

/-- The fields that a record gives, each with its value. -/
abbrev Given := List (String × Json)

/-- Take the members of an object that ends as `fault?` says. Only in its last member can
the object end. -/
def takeMembers (fields : List Field) (fault? : Option Fault) (given : Given) :
    List (Content × Json) → Except Fault Given
  | [] =>
      match fault? with
      | some fault => .error fault
      | none => .ok given
  | (.error fault, _) :: _ => .error fault
  | (.ok name, value) :: rest =>
      match fields.find? (·.name = name) with
      | none =>
          let later? := if rest.isEmpty then fault?.map Fault.inPassing else fault?
          takeMembers fields later? given rest
      | some field =>
          if (given.lookup name).isSome then .error .wrongShape
          else
            match field.fault? value with
            | some fault => .error fault
            | none => takeMembers fields fault? ((name, value) :: given) rest

/-- Take the items of an array that ends as `fault?` says. -/
def takeItems (fault? : Option Fault) (given : Given) :
    List Field → List Json → Except Fault Given
  | _, [] =>
      match fault? with
      | some fault => .error fault
      | none => .ok given
  | [], _ :: _ => .error .malformed
  | field :: fields, item :: rest =>
      match field.fault? item with
      | some fault => .error fault
      | none => takeItems fault? ((field.name, item) :: given) fields rest

/-- Take the fields that a record gives. -/
def asRecord (fields : List Field) : Json → Except Fault Given
  | .array items fault? => takeItems fault? [] fields items
  | .object members fault? => takeMembers fields fault? [] members
  | other => .error other.mismatch

namespace Given

/-- What is taken out of a field that has to be given. -/
def required {α : Type} (given : Given) (name : String) (take : Json → Except Fault α) :
    Except Fault α :=
  match given.lookup name with
  | none => .error .wrongShape
  | some value => take value

/-- What is taken out of a field that may be missing. -/
def optional {α : Type} (given : Given) (name : String) (missing : α)
    (take : Json → Except Fault α) : Except Fault α :=
  match given.lookup name with
  | none => .ok missing
  | some value => take value

end Given

end UriExpansion.Json
