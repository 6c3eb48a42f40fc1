import Mathlib.Data.List.Induction
import UriExpansion.Proofs.Binding.JsonForm
import UriExpansion.Proofs.Json.Writing

/-!
What the members of a JSON object bind. The last member of a name decides what the name is
bound to, and `null` unbinds it; a member that denotes nothing has the whole text refused,
whatever comes behind it.
-/

namespace UriExpansion.Variables

open Json (Content)

theorem get?_assignAll (values : Variables) (given : List (String × Option Value))
    (name : String) :
    (values.assignAll given).get? name = (given.reverse.lookup name).getD (values.get? name) := by
  induction given using List.reverseRecOn with
  | nil => rfl
  | append_singleton earlier last inductionHypothesis =>
      rw [assignAll, List.foldl_concat, ← assignAll, get?_assign, inductionHypothesis,
        List.reverse_append, List.reverse_singleton, List.singleton_append, lookup_cons_eq_ite]
      split <;> rfl

/-- A name that has been given nothing, or has in the end been left without a value, has none. -/
theorem get?_assignAll_empty (given : List (String × Option Value)) (name : String) :
    (empty.assignAll given).get? name = (given.reverse.lookup name).join := by
  rw [get?_assignAll, get?_empty]
  cases given.reverse.lookup name <;> rfl

variable {text : String} {members : List (Content × Json)}

theorem decode_of_gives {given : List (String × Option Value)}
    (holds : Json.Holds text (.object members none)) (gives : List.Forall₂ Gives members given) :
    Json.decode (ofJson 0) text = .ok (empty.assignAll given) :=
  Json.decode_eq_ok_iff.mpr
    ⟨_, holds, (ofJson_eq_ok_iff (by decide)).mpr ⟨members, given, rfl, gives, rfl⟩⟩

theorem exists_gives_of_decode {values : Variables}
    (holds : Json.Holds text (.object members none))
    (decoded : Json.decode (ofJson 0) text = .ok values) :
    ∀ member ∈ members, ∃ given, Gives member given := by
  obtain ⟨json, holdsJson, taken⟩ := Json.decode_eq_ok_iff.mp decoded
  obtain ⟨members', given, rfl, gives, -⟩ := (ofJson_eq_ok_iff (by decide)).mp taken
  cases holdsJson.unique holds
  have givesSome : List.Forall₂ (fun member first => (∃ given, Gives member given) ∧
      Gives member first) members given :=
    gives.imp fun _ first givesFirst => ⟨⟨first, givesFirst⟩, givesFirst⟩
  exact (List.forall₂_and_left members given).mp givesSome |>.1

/-- An object is refused for any member that gives nothing to a name. -/
theorem exists_fault_of_decode {member : Content × Json}
    (holds : Json.Holds text (.object members none)) (membership : member ∈ members)
    (unfit : ∀ given, ¬ Gives member given) :
    ∃ fault, Json.decode (ofJson 0) text = .error fault := by
  cases decoded : Json.decode (ofJson 0) text with
  | error fault => exact ⟨fault, rfl⟩
  | ok values =>
      obtain ⟨given, gives⟩ := exists_gives_of_decode holds decoded member membership
      exact absurd gives (unfit given)

/-- The last member of a name decides, and every member has to be fit for it. -/
theorem decode_object (holds : Json.Holds text (.object members none)) :
    (∀ given, List.Forall₂ Gives members given →
      ∃ values, Json.decode (ofJson 0) text = .ok values ∧
        ∀ name, values.get? name = (given.reverse.lookup name).join) ∧
    ((∃ member ∈ members, ∀ given, ¬ Gives member given) →
      ∃ fault, Json.decode (ofJson 0) text = .error fault) := by
  constructor
  · intro given gives
    refine ⟨empty.assignAll given, decode_of_gives holds gives, ?_⟩
    intro name
    exact get?_assignAll_empty given name
  · rintro ⟨member, membership, unfit⟩
    exact exists_fault_of_decode holds membership unfit

/-- A text that is unbound again, an array that gives way to an object in which a key is given
twice, and a truth value in front of a text of the same name. -/
theorem decode_object_repeated :
    (∃ values, Json.decode (ofJson 0) ("\x7b\"a\":\"x\",\"b\":[\"y\"],\"a\":null," ++
        "\"b\":\x7b\"k\":\"1\",\"l\":\"2\",\"k\":\"3\"\x7d\x7d") = .ok values ∧
      values.get? "a" = none ∧ values.get? "b" = some (.ofPairs [("k", "3"), ("l", "2")])) ∧
    ∃ fault, Json.decode (ofJson 0) "\x7b\"a\":true,\"a\":\"x\"\x7d" = .error fault := by
  have string := fun content => (Json.holds_stringText content).member
  constructor
  · have written : "\x7b\"a\":\"x\",\"b\":[\"y\"],\"a\":null," ++
        "\"b\":\x7b\"k\":\"1\",\"l\":\"2\",\"k\":\"3\"\x7d\x7d" =
          Json.objectText [("a", Json.stringText "x"), ("b", Json.arrayText [Json.stringText "y"]),
            ("a", "null"), ("b", Json.objectText [("k", Json.stringText "1"),
              ("l", Json.stringText "2"), ("k", Json.stringText "3")])] := by
      decide
    have items := Json.holds_arrayText (.cons (Json.holds_stringText "y") .nil)
    have pairs := Json.holds_objectText
      (.cons (string "1" "k") (.cons (string "2" "l") (.cons (string "3" "k") .nil)))
    have holds := Json.holds_objectText (.cons (string "x" "a") (.cons (items.member "b")
      (.cons (Json.holds_null.member "a") (.cons (pairs.member "b") .nil))))
    have associative := Value.Denotes.associative [("k", "1"), ("l", "2"), ("k", "3")]
    rw [written]
    obtain ⟨values, decoded, bound⟩ := (decode_object holds).1 _
      (.cons (.of_denotes (.text "x") "a") (.cons (.of_denotes (.list ["y"]) "b")
        (.cons (.of_denotes .nothing "a") (.cons (.of_denotes associative "b") .nil))))
    refine ⟨values, decoded, bound "a", (bound "b").trans ?_⟩
    decide
  · have written : "\x7b\"a\":true,\"a\":\"x\"\x7d" =
        Json.objectText [("a", "true"), ("a", Json.stringText "x")] := by
      decide
    have truth : Json.Holds "true" (.bool true) := rfl
    have holds := Json.holds_objectText (.cons (truth.member "a") (.cons (string "x" "a") .nil))
    rw [written]
    refine (decode_object holds).2 ⟨_, List.mem_cons_self, ?_⟩
    rintro given ⟨-, denotes⟩
    cases denotes

end UriExpansion.Variables
