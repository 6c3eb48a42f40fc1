import UriExpansion.Binding.JsonForm
import UriExpansion.Json.Reading
import UriExpansion.Json.Record
import UriExpansion.Service.MediaType
import UriExpansion.Service.Message
import UriExpansion.Template.Link
import UriExpansion.Template.Reading

/-!
Requests that bring their template along. The body is a JSON record of the template and
the variables, which may be missing.
-/

namespace UriExpansion

/-- The greatest number of bytes that a body may have. -/
def bodyLimit : Nat :=
  64 * 1024

/-- What the body of a request asks to be expanded. -/
structure ExpansionRequest where
  template : String
  values : Variables
  deriving DecidableEq, Repr

namespace ExpansionRequest

def jsonFields : List Json.Field :=
  [.of "template" Json.asString, .of "variables" (Variables.ofJson 1)]

def ofJson (json : Json) : Except Json.Fault ExpansionRequest := do
  let given ← json.asRecord jsonFields
  return {
    template := ← given.required "template" Json.asString
    values := ← given.optional "variables" .empty (Variables.ofJson 1) }

/-- Answer with the expansion, and with the URL that it is if it is one. -/
def respond (request : ExpansionRequest) : Response :=
  match Template.read request.template with
  | .error error => .badRequest error.message
  | .ok template =>
      let url? := template.expandToUrl? request.values
      .ofJson 200 (Json.objectText
        [("expanded", Json.stringText (template.expand request.values)),
          ("url", Json.optionalStringText (url?.map Url.text))])

end ExpansionRequest

def Request.hasJsonBody (request : Request) : Bool :=
  ((request.contentType?.bind MediaType.read?).map MediaType.isJson).getD false

/-- Answer a request that brings its template along. -/
def Request.respondToExpansion (request : Request) : Response :=
  if !request.hasJsonBody then .ofStatus 415
  else if bodyLimit < request.body.utf8ByteSize then .ofStatus 413
  else
    match Json.decode ExpansionRequest.ofJson request.body with
    | .error .wrongShape => .ofStatus 422
    | .error _ => .ofStatus 400
    | .ok expansion => expansion.respond

end UriExpansion
