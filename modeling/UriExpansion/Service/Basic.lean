import UriExpansion.Binding.Query
import UriExpansion.Catalog.Basic
import UriExpansion.Service.Expansion
import UriExpansion.Service.Route

/-!
The service that answers requests from a catalog of templates. It lists the templates,
sends clients to the URL that a template expands to, and expands the templates that
clients bring along.
-/

namespace UriExpansion

/-- What the list of templates tells about an entry. -/
def CatalogEntry.summary (entry : CatalogEntry) : String :=
  Json.objectText
    [("alias", Json.stringText entry.name), ("description", Json.stringText entry.description),
      ("template", Json.stringText entry.template.text),
      ("variables", Json.arrayText (entry.template.variableNames.map Json.stringText))]

namespace CatalogEntry

/-- The variables that a request makes: those that its parameters bind, and the
defaults for all others. -/
def requestVariables (entry : CatalogEntry) (parameters : List (String × String)) : Variables :=
  (Variables.ofQuery parameters).fillDefaults entry.defaults

def respond (entry : CatalogEntry) (parameters : List (String × String)) : Response :=
  match (if parameters.isEmpty then entry.fallback? else none) with
  | some fallback => .redirect fallback
  | none =>
      match entry.template.expandToUrl (entry.requestVariables parameters) with
      | .ok url => .redirect url.text
      | .error error => .badRequest error.message

end CatalogEntry

namespace Catalog

def respondWithList (catalog : Catalog) : Response :=
  .ofJson 200 (Json.arrayText (catalog.entries.map CatalogEntry.summary))

def respondToAlias (catalog : Catalog) (name : String) (parameters : List (String × String)) :
    Response :=
  match catalog.get? name with
  | none => .notFound ("Unknown alias: '" ++ name ++ "'")
  | some entry => entry.respond parameters

/-- The alias that is written in a path. -/
def aliasOfPath? (written : List Char) : Option String :=
  (Text.Utf8.decode? (Percent.decode (Text.Utf8.encode written))).map String.ofList

/-- Answer a request whose route allows its method. -/
def respondToRoute (catalog : Catalog) (request : Request) (query : List Char) :
    Route → Response
  | .list => catalog.respondWithList
  | .template written =>
      match aliasOfPath? written with
      | none => .ofStatus 400
      | some name => catalog.respondToAlias name (Percent.formParameters query)
  | .expand => request.respondToExpansion

def respond (catalog : Catalog) (request : Request) : Response :=
  let target := Target.read request.target
  match Route.ofPath? target.path with
  | none => .ofStatus 404
  | some route =>
      if !route.allows request.method then .ofStatus 405
      else
        let response := catalog.respondToRoute request target.query route
        if request.method = "HEAD" then response.withoutBody else response

end Catalog

end UriExpansion
