import UriExpansion.Proofs.Binding.Event
import UriExpansion.Proofs.Catalog.Loading
import UriExpansion.Proofs.Url.Printable
import UriExpansion.Service.Basic

/-!
How a request for a template is answered: which of the outcomes it has is told by the entry
of its alias alone, and the values that it is expanded with are told name by name.
-/

namespace UriExpansion

namespace Response

/-- A text that can stand in a header. -/
def IsHeaderText (text : String) : Prop :=
  ∀ c ∈ text.toList, isHeaderChar c = true

instance (text : String) : Decidable (IsHeaderText text) :=
  List.decidableBAll _ text.toList

end Response

namespace CatalogEntry

variable {entry : CatalogEntry} {parameters : List (String × String)}

/-- The values for a request: a name that some parameter is about has what the parameters
bind it to, and nothing of its default. -/
structure IsBoundBy (entry : CatalogEntry) (parameters : List (String × String))
    (values : Variables) : Prop where
  shadowing : ∀ name, QueryEvent.IsTarget name parameters →
    values.get? name = (Variables.ofQuery parameters).get? name
  default : ∀ name, ¬ QueryEvent.IsTarget name parameters →
    values.get? name = entry.defaults.get? name

/-- The outcomes of a request for the template of an entry. -/
inductive Answers (entry : CatalogEntry) (parameters : List (String × String)) :
    Response → Prop where
  | fallback {location : String} (noParameters : parameters = [])
      (given : entry.fallback? = some location) (legal : Response.IsHeaderText location) :
      Answers entry parameters ⟨303, some location, none⟩
  /-- The fallback cannot stand in a header. -/
  | illegal {location : String} (noParameters : parameters = [])
      (given : entry.fallback? = some location) (illegal : ¬ Response.IsHeaderText location) :
      Answers entry parameters (.ofStatus 500)
  | expanded {values : Variables} {url : Url}
      (noFallback : parameters = [] → entry.fallback? = none)
      (bound : entry.IsBoundBy parameters values)
      (accepted : Url.read (entry.template.expand values) = .ok url) :
      Answers entry parameters ⟨303, some url.text, none⟩
  | refused {values : Variables} {refusal : Url.Refusal}
      (noFallback : parameters = [] → entry.fallback? = none)
      (bound : entry.IsBoundBy parameters values)
      (notAccepted : Url.read (entry.template.expand values) = .error refusal) :
      Answers entry parameters
        (.badRequest ("Expansion produced an unusable URI '" ++ entry.template.expand values ++
          "': " ++ refusal.message))

end CatalogEntry

namespace Catalog

variable {catalog : Catalog} {entry : CatalogEntry} {name : String}
  {parameters : List (String × String)}

end Catalog

end UriExpansion
