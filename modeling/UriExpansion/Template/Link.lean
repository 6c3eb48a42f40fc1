import UriExpansion.Template.Expansion
import UriExpansion.Url.Reading

/-!
Templates that expand to URLs.
-/

namespace UriExpansion

/-- An expansion that is not an absolute URL. -/
structure ExpansionError where
  expanded : String
  refusal : Url.Refusal
  deriving DecidableEq, Repr

def ExpansionError.message (error : ExpansionError) : String :=
  "Expansion produced an unusable URI '" ++ error.expanded ++ "': " ++ error.refusal.message

/-- Read an expansion as a URL. -/
def Url.ofExpansion (expanded : String) : Except ExpansionError Url :=
  match Url.read expanded with
  | .error refusal => .error ⟨expanded, refusal⟩
  | .ok url => .ok url

namespace Template

def expandToUrl (template : Template) (values : Variables) : Except ExpansionError Url :=
  Url.ofExpansion (template.expand values)

def expandToUrl? (template : Template) (values : Variables) : Option Url :=
  (template.expandToUrl values).toOption

end Template

end UriExpansion
