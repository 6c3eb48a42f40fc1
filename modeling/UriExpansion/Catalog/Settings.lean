import UriExpansion.Binding.JsonForm
import UriExpansion.Json.Record

/-!
The settings of a template in a catalog, as they are before the template is read, and
their JSON form.
-/

namespace UriExpansion

structure Settings where
  name : String
  description : String
  template : String
  /-- Where a request without parameters is sent. -/
  fallback? : Option String
  /-- Values for the variables that a request does not bind. -/
  defaults : Variables
  deriving DecidableEq, Repr

namespace Settings

/-- The JSON text of settings. A missing fallback and empty defaults are left out. -/
def json (settings : Settings) : String :=
  Json.objectText
    ([("alias", Json.stringText settings.name),
      ("description", Json.stringText settings.description),
      ("template", Json.stringText settings.template)]
      ++ settings.fallback?.toList.map (fun fallback => ("fallback", Json.stringText fallback))
      ++ if settings.defaults.isEmpty then [] else [("defaults", settings.defaults.json)])

/-- The fields in the order in which an array gives them. -/
def jsonFields : List Json.Field :=
  [.of "alias" Json.asString, .of "description" Json.asString, .of "template" Json.asString,
    .of "fallback" Json.asOptionalString, .of "defaults" (Variables.ofJson 1)]

/-- Read settings. The template is taken as it is. -/
def ofJson (json : Json) : Except Json.Fault Settings := do
  let given ← json.asRecord jsonFields
  return {
    name := ← given.required "alias" Json.asString
    description := ← given.required "description" Json.asString
    template := ← given.required "template" Json.asString
    fallback? := ← given.optional "fallback" none Json.asOptionalString
    defaults := ← given.optional "defaults" .empty (Variables.ofJson 1) }

end Settings

end UriExpansion
