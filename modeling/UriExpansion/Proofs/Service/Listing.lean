import UriExpansion.Proofs.Json.Writing
import UriExpansion.Service.Basic

/-!
What the list of templates tells, read as the JSON text that it is.
-/

namespace UriExpansion

namespace CatalogEntry

/-- What the summary of an entry is read as. -/
def told (entry : CatalogEntry) : List (Json.Content × Json) :=
  [(.ok "alias", .string (.ok entry.name)), (.ok "description", .string (.ok entry.description)),
    (.ok "template", .string (.ok entry.template.text)),
    (.ok "variables",
      .array (entry.template.variableNames.map fun name => .string (.ok name)) none)]

end CatalogEntry

namespace Catalog

end Catalog

end UriExpansion
