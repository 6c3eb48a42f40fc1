import Mathlib.Data.List.Nodup
import UriExpansion.Json.Record
import UriExpansion.Proofs.Binding.Lookup

/-!
Records whose members are fields with values that they may have. Such a record gives exactly
its members, in whatever order they stand.
-/

namespace UriExpansion.Json

/-- Whether a member is a field with a value that the field may have. -/
def IsField (fields : List Field) (member : String × Json) : Prop :=
  ∃ field, fields.find? (·.name = member.1) = some field ∧ field.fault? member.2 = none

theorem Field.fault?_of {α : Type} {take : Json → Except Fault α} {value : Json} {taken : α}
    (takes : take value = .ok taken) (name : String) : (Field.of name take).fault? value = none := by
  simp only [Field.of, takes]

theorem takeMembers_of_isField {fields : List Field} {members : List (String × Json)}
    (areFields : ∀ member ∈ members, IsField fields member) (given : Given)
    (distinct : ((members.reverse ++ given).map Prod.fst).Nodup) :
    takeMembers fields none given (members.map fun member => (.ok member.1, member.2)) =
      .ok (members.reverse ++ given) := by
  induction members generalizing given with
  | nil => rfl
  | cons member rest inductionHypothesis =>
      obtain ⟨⟨field, found, faultless⟩, restFields⟩ := List.forall_mem_cons.mp areFields
      rw [List.reverse_cons, List.append_assoc, List.singleton_append] at distinct ⊢
      have fresh : given.lookup member.1 = none := by
        rw [List.map_append, List.nodup_append] at distinct
        exact lookup_eq_none_of_not_mem (List.nodup_cons.mp distinct.2.1).1
      rw [List.map_cons, takeMembers]
      simp only [found, fresh, faultless]
      exact inductionHypothesis restFields (member :: given) distinct

variable {fields : List Field} {members : List (String × Json)}

theorem asRecord_of_isField (areFields : ∀ member ∈ members, IsField fields member)
    (distinct : (members.map Prod.fst).Nodup) :
    asRecord fields (.object (members.map fun member => (.ok member.1, member.2)) none) =
      .ok members.reverse := by
  have reversed : ((members.reverse ++ []).map Prod.fst).Nodup := by
    rw [List.append_nil, List.map_reverse]
    exact List.nodup_reverse.mpr distinct
  rw [asRecord, takeMembers_of_isField areFields [] reversed, List.append_nil]

namespace Given

variable {α : Type} {given : Given} {name : String} {value : Json} {take : Json → Except Fault α}

theorem required_of_mem (distinct : (given.map Prod.fst).Nodup) (membership : (name, value) ∈ given) :
    given.required name take = take value := by
  rw [required, (lookup_eq_some_iff_mem distinct).mpr membership]

theorem optional_of_mem (distinct : (given.map Prod.fst).Nodup) (membership : (name, value) ∈ given)
    (missing : α) : given.optional name missing take = take value := by
  rw [optional, (lookup_eq_some_iff_mem distinct).mpr membership]

theorem optional_of_not_mem (absent : name ∉ given.map Prod.fst) (missing : α) :
    given.optional name missing take = .ok missing := by
  rw [optional, lookup_eq_none_of_not_mem absent]

end Given

end UriExpansion.Json
