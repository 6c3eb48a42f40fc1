import Mathlib.Data.List.Permutation
import UriExpansion.Proofs.Binding.JsonForm
import UriExpansion.Proofs.Json.Writing
import UriExpansion.Service.Basic

/-!
How a request that brings its template along is answered, in terms of what its body and
the body of the answer hold.
-/

namespace UriExpansion

namespace Response

/-- The JSON value that stands for a text, or for none. -/
def shown : Option String → Json
  | none => .null
  | some text => .string (.ok text)

end Response

namespace ExpansionRequest

variable {template : String} {values : Variables}

end ExpansionRequest

end UriExpansion
