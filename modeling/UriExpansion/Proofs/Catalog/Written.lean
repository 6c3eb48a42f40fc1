import UriExpansion.Catalog.Settings
import UriExpansion.Proofs.Binding.Written
import UriExpansion.Proofs.Json.Record

/-!
Written settings. The JSON text of settings is read as the settings, although what is missing
is left out of it and the defaults may be written in any order.
-/

namespace UriExpansion.Settings

variable {settings : Settings} {bindings : List (String × Value)} {bound : Json}

/-- The JSON text of settings whose defaults are written in the given order. -/
def jsonInOrder (settings : Settings) (defaults : List (String × Value)) : String :=
  Json.objectText
    ([("alias", Json.stringText settings.name),
      ("description", Json.stringText settings.description),
      ("template", Json.stringText settings.template)]
      ++ settings.fallback?.toList.map (fun fallback => ("fallback", Json.stringText fallback))
      ++ if defaults.isEmpty then [] else [("defaults", Variables.jsonInOrder defaults)])

theorem json_eq_jsonInOrder (settings : Settings) :
    settings.json = settings.jsonInOrder settings.defaults.bindings := by
  rw [json, Variables.json_eq_jsonInOrder]
  rfl

/-- The members of the text of settings whose defaults, if there are any, are read as `bound`. -/
def membersInOrder (settings : Settings) (defaults : List (String × Value)) (bound : Json) :
    List (String × Json) :=
  [("alias", .string (.ok settings.name)), ("description", .string (.ok settings.description)),
    ("template", .string (.ok settings.template))]
    ++ settings.fallback?.toList.map (fun fallback => ("fallback", .string (.ok fallback)))
    ++ if defaults.isEmpty then [] else [("defaults", bound)]

theorem holds_jsonInOrder (holds : Json.Holds (Variables.jsonInOrder bindings) bound) :
    Json.Holds (settings.jsonInOrder bindings)
      (.object ((settings.membersInOrder bindings bound).map fun member =>
        (.ok member.1, member.2)) none) := by
  have text := fun content => (Json.holds_stringText content).member
  apply Json.holds_objectText
  unfold membersInOrder
  rw [List.map_append, List.map_append]
  refine List.rel_append (List.rel_append ?_ ?_) ?_
  · exact .cons (text _ _) (.cons (text _ _) (.cons (text _ _) .nil))
  · cases settings.fallback? with
    | none => exact .nil
    | some fallback => exact .cons (text fallback "fallback") .nil
  · split
    · exact .nil
    · exact .cons (holds.member "defaults") .nil

theorem isField_of_mem {values : Variables} (takes : Variables.ofJson 1 bound = .ok values) :
    ∀ member ∈ settings.membersInOrder bindings bound, Json.IsField jsonFields member := by
  intro member membership
  simp only [membersInOrder, List.mem_append, List.mem_cons, List.not_mem_nil, or_false,
    List.mem_map] at membership
  rcases membership with ((rfl | rfl | rfl) | ⟨fallback, -, rfl⟩) | inDefaults
  · exact ⟨.of "alias" Json.asString, rfl, rfl⟩
  · exact ⟨.of "description" Json.asString, rfl, rfl⟩
  · exact ⟨.of "template" Json.asString, rfl, rfl⟩
  · exact ⟨.of "fallback" Json.asOptionalString, rfl, rfl⟩
  · split at inDefaults
    · cases inDefaults
    · obtain rfl := List.mem_singleton.mp inDefaults
      exact ⟨_, rfl, Json.Field.fault?_of takes "defaults"⟩

theorem distinct_membersInOrder (settings : Settings) (bindings : List (String × Value))
    (bound : Json) : ((settings.membersInOrder bindings bound).map Prod.fst).Nodup := by
  unfold membersInOrder
  cases settings.fallback? with
  | none => split <;> simp
  | some fallback => split <;> simp

theorem defaults_eq_empty (permuted : [].Perm settings.defaults.bindings) :
    settings.defaults = .empty := by
  have noBindings := List.nil_perm.mp permuted
  refine Variables.ext_get? fun name => ?_
  rw [Variables.get?, noBindings]
  rfl

/-- What is left out is read as missing. -/
theorem ofJson_membersInOrder (permuted : bindings.Perm settings.defaults.bindings)
    (takes : Variables.ofJson 1 bound = .ok settings.defaults) :
    ofJson (.object ((settings.membersInOrder bindings bound).map fun member =>
      (.ok member.1, member.2)) none) = .ok settings := by
  have distinct := settings.distinct_membersInOrder bindings bound
  have record := Json.asRecord_of_isField (isField_of_mem takes) distinct
  generalize given : (settings.membersInOrder bindings bound).reverse = members at record
  have givenDistinct : (members.map Prod.fst).Nodup := by
    rw [← given, List.map_reverse, List.nodup_reverse]
    exact distinct
  have name : ("alias", Json.string (.ok settings.name)) ∈ members := by
    simp [← given, membersInOrder]
  have description : ("description", Json.string (.ok settings.description)) ∈ members := by
    simp [← given, membersInOrder]
  have template : ("template", Json.string (.ok settings.template)) ∈ members := by
    simp [← given, membersInOrder]
  have fallback : Json.Given.optional members "fallback" none Json.asOptionalString =
      .ok settings.fallback? := by
    cases found : settings.fallback? with
    | none =>
        apply Json.Given.optional_of_not_mem
        simp [← given, membersInOrder, found]
    | some fallback =>
        have written : ("fallback", Json.string (.ok fallback)) ∈ members := by
          simp [← given, membersInOrder, found]
        rw [Json.Given.optional_of_mem givenDistinct written]
        rfl
  have defaults : Json.Given.optional members "defaults" .empty (Variables.ofJson 1) =
      .ok settings.defaults := by
    cases bindings with
    | nil =>
        rw [defaults_eq_empty permuted]
        apply Json.Given.optional_of_not_mem
        simp [← given, membersInOrder]
    | cons first rest =>
        have written : ("defaults", bound) ∈ members := by simp [← given, membersInOrder]
        rw [Json.Given.optional_of_mem givenDistinct written, takes]
  rw [ofJson, record]
  simp only [Json.Given.required_of_mem givenDistinct name,
    Json.Given.required_of_mem givenDistinct description,
    Json.Given.required_of_mem givenDistinct template, Json.asString, fallback, defaults, bind,
    Except.bind, pure, Except.pure]

theorem decode_jsonInOrder (permuted : bindings.Perm settings.defaults.bindings) :
    Json.decode ofJson (settings.jsonInOrder bindings) = .ok settings := by
  have shallow : 1 + 1 < Json.depthLimit := by decide
  obtain ⟨bound, holds, takes⟩ := Variables.exists_holds_of_perm permuted shallow
  exact Json.decode_eq_ok_iff.mpr ⟨_, holds_jsonInOrder holds, ofJson_membersInOrder permuted takes⟩

/-- Reading undoes writing, of values with their pairs in order and of settings whatever order
their defaults are written in. -/
theorem json_lossless :
    (∀ value : Value, Json.decode (Value.ofJson 0) value.json = .ok value) ∧
    (∀ settings : Settings, Json.decode ofJson settings.json = .ok settings) ∧
    ∀ (settings : Settings) (defaults : List (String × Value)),
      defaults.Perm settings.defaults.bindings →
        Json.decode ofJson (settings.jsonInOrder defaults) = .ok settings := by
  refine ⟨Value.decode_json, ?_, ?_⟩
  · intro settings
    rw [json_eq_jsonInOrder]
    apply decode_jsonInOrder
    exact List.Perm.refl _
  · intro settings defaults permuted
    exact decode_jsonInOrder permuted

/-- An empty list and an empty object as defaults, written against the order of their names. -/
theorem json_lossless_empty :
    Json.decode ofJson ("\x7b\"alias\":\"a\",\"description\":\"\",\"template\":\"\x7bx\x7d\"," ++
        "\"defaults\":\x7b\"y\":\x7b\x7d,\"x\":[]\x7d\x7d") =
      .ok ⟨"a", "", "\x7bx\x7d", none, .ofBindings [("x", .list []), ("y", .ofPairs [])]⟩ := by
  have written : "\x7b\"alias\":\"a\",\"description\":\"\",\"template\":\"\x7bx\x7d\"," ++
      "\"defaults\":\x7b\"y\":\x7b\x7d,\"x\":[]\x7d\x7d" =
        jsonInOrder ⟨"a", "", "\x7bx\x7d", none, .ofBindings [("x", .list []), ("y", .ofPairs [])]⟩
          [("y", .ofPairs []), ("x", .list [])] := by
    decide +kernel
  rw [written]
  exact json_lossless.2.2 _ _ (List.Perm.swap _ _ _)

end UriExpansion.Settings
