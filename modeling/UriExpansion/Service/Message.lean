import UriExpansion.Json.Writing

/-!
Requests and responses.
-/

namespace UriExpansion

/-- A request with what it says about its body. -/
structure Request where
  method : String
  target : String
  contentType? : Option String
  body : String
  deriving DecidableEq, Repr

/-- A response. A body that is not a JSON text only explains the status and is left out. -/
structure Response where
  status : Nat
  location? : Option String
  json? : Option String
  deriving DecidableEq, Repr

namespace Response

def ofStatus (status : Nat) : Response :=
  ⟨status, none, none⟩

def ofJson (status : Nat) (json : String) : Response :=
  ⟨status, none, some json⟩

/-- An error with a message for whoever sent the request. -/
def failure (status : Nat) (message : String) : Response :=
  ofJson status (Json.objectText [("error", Json.stringText message)])

def notFound (message : String) : Response :=
  failure 404 ("Not found: " ++ message)

def badRequest (message : String) : Response :=
  failure 400 ("Bad request: " ++ message)

def isHeaderChar (c : Char) : Bool :=
  c = '\t' || (0x20 ≤ c.toNat && c.toNat ≠ 0x7F)

/-- Send the client somewhere else, if the place can stand in a header. -/
def redirect (location : String) : Response :=
  if location.toList.all isHeaderChar then ⟨303, some location, none⟩ else ofStatus 500

def withoutBody (response : Response) : Response :=
  { response with json? := response.json?.map fun _ => "" }

end Response

end UriExpansion
