import UriExpansion.Proofs.Binding.Query
import UriExpansion.Proofs.Template.Fragment

/-!
Bindings that go out in a query and come back. The query of exploded variables holds one
parameter for each text, under the name of its variable, and reading the parameters puts
the texts of a name together again: one text as a text, several as a list.
-/

namespace UriExpansion

namespace Value

/-- The value with normal texts; of members whose keys become the same the last counts. -/
def normal : Value → Value
  | .text single => .text (normalText single)
  | .list items => .list (items.map normalText)
  | .associative members =>
      .ofPairs (members.pairs.map fun (key, value) => (normalText key, normalText value))

/-- A value that a repeated name stands for: a text, or a list of several items. -/
def IsRepeated : Value → Prop
  | .text _ => True
  | .list items => 2 ≤ items.length
  | .associative _ => False

theorem IsRepeated.texts_ne_nil {value : Value} (repeated : value.IsRepeated) :
    value.texts ≠ [] := by
  cases value with
  | text single => exact List.cons_ne_nil _ _
  | list items =>
      have several : 2 ≤ items.length := repeated
      rintro rfl
      exact absurd several (by decide)
  | associative list => exact repeated.elim

/-- The texts of a value make that value again. -/
theorem IsRepeated.foldl_appendText {value : Value} (repeated : value.IsRepeated) :
    (value.texts.map normalText).foldl (fun value? text => some (appendText value? text)) none =
      some value.normal := by
  cases value with
  | text single => rfl
  | list items =>
      have several : 2 ≤ items.length := repeated
      exact Value.foldl_appendText ((List.length_map normalText).symm ▸ several)
  | associative list => exact repeated.elim

end Value

/-- The name of a variable that needs no decoding. -/
structure IsPlainName (name : String) : Prop where
  isName : VariableName.IsName name.toList
  noPercent : '%' ∉ name.toList

namespace IsPlainName

variable {name : String} (plain : IsPlainName name)

include plain

theorem decodeForm : Percent.decodeForm name.toList = name.toList := by
  have noPercentByte : 0x25 ∉ Text.Utf8.encode name.toList := fun membership =>
    plain.noPercent (Text.Utf8.mem_of_toUInt8_mem_encode (c := '%') (by decide) membership)
  rw [Percent.decodeForm_of_not_mem (plain.isName.not_mem (by decide)),
    Percent.decode_of_not_mem noPercentByte, Text.Utf8.decodeLossy_encode]

theorem memberOf?_eq_none : Variables.memberOf? name = none :=
  Variables.memberOf?_eq_none (plain.isName.not_mem (by decide))

/-- A fragment of a query is read as the parameter that it was written for. -/
theorem formParameter_fragment (text : String) :
    Percent.formParameter (Datum.fragment .query (.single name text)) =
      (name, normalText text) := by
  have split := Contribution.splitPair_text .query (Allowed.unreserved.encode text)
    (plain.isName.not_mem (by decide))
  have written : Datum.fragment .query (.single name text) =
      (Contribution.text .query ⟨some name, Allowed.unreserved.encode text⟩).toList := rfl
  rw [Percent.formParameter_eq, written, split]
  dsimp only
  rw [plain.decodeForm, String.ofList_toList, Allowed.encode, String.toList_ofList,
    Percent.decodeForm_encodeChars]
  rfl

theorem fragment_ne_nil (text : String) :
    Datum.fragment .query (.single name text) ≠ [] := by
  intro empty
  have parameter := plain.formParameter_fragment text
  rw [empty] at parameter
  have noName : name = "" := (congrArg Prod.fst parameter).symm
  obtain ⟨c, rest, nonempty, -⟩ := plain.isName.exists_cons
  rw [noName] at nonempty
  cases nonempty

end IsPlainName

namespace VarSpelling

/-- Every list of names is spelled as a list of exploded variables. -/
theorem exists_exploded {names : List String}
    (valid : ∀ name ∈ names, VariableName.IsName name.toList) :
    ∃ vars : List VarSpelling,
      vars.map text = names.map (fun name => name.toList ++ ['*']) ∧
        vars.map meaning = names.map (VarSpec.mk · .explode) := by
  induction names with
  | nil => exact ⟨[], rfl, rfl⟩
  | cons name rest inductionHypothesis =>
      obtain ⟨isName, restValid⟩ := List.forall_mem_cons.mp valid
      obtain ⟨vars, texts, meanings⟩ := inductionHypothesis restValid
      refine ⟨⟨name.toList, isName, .explode⟩ :: vars, ?_, ?_⟩
      · rw [List.map_cons, List.map_cons, texts]
        rfl
      · simp [meanings, meaning, ModifierSpelling.meaning]

end VarSpelling

/-- A query of exploded variables. -/
theorem Template.exists_read_query {names : List String} (nonempty : names ≠ [])
    (valid : ∀ name ∈ names, VariableName.IsName name.toList) :
    ∃ body : Expression, body.operator = .query ∧
      body.specs = names.map (VarSpec.mk · .explode) ∧
      read ("\x7b?" ++ String.intercalate "," (names.map (· ++ "*")) ++ "\x7d") =
        .ok ⟨[.expression body]⟩ := by
  obtain ⟨vars, texts, meanings⟩ := VarSpelling.exists_exploded valid
  have vars_ne_nil : vars ≠ [] := by
    rintro rfl
    exact nonempty (List.map_eq_nil_iff.mp texts.symm)
  let body : ExpressionSpelling := ⟨.query, vars, vars_ne_nil⟩
  let spelling : TemplateSpelling :=
    .braced ⟨[], List.not_mem_nil⟩ body (.last ⟨[], List.not_mem_nil⟩)
  refine ⟨body.meaning, rfl, meanings, @TemplateSpelling.read_of_text _ spelling ?_⟩
  have written : (names.map (· ++ "*")).map String.toList =
      names.map fun name => name.toList ++ ['*'] := by
    simp [Function.comp_def]
  simp only [String.toList_append, String.toList_intercalate, written, ← texts]
  rfl

namespace Variables

theorem textsOf_eq {values : Variables} {name : String} {value : Value}
    (bound : values.get? name = some value) : values.textsOf name = value.texts := by
  rw [textsOf, bound, Option.map_some, Option.getD_some]

theorem data_exploded {values : Variables} {name : String} {value : Value}
    (bound : values.get? name = some value) (repeated : value.IsRepeated) :
    VarSpec.data ⟨name, .explode⟩ values = (values.textsOf name).map (.single name) := by
  rw [VarSpec.data, textsOf_eq bound, bound]
  cases value with
  | text single => rfl
  | list items => rfl
  | associative list => exact repeated.elim

section Query

variable {values : Variables} {names : List String} {body : Expression}

/-- A query of exploded variables has one datum for each text. -/
theorem data_query (specs : body.specs = names.map (VarSpec.mk · .explode))
    (bound : ∀ name ∈ names, ∃ value, values.get? name = some value ∧ value.IsRepeated) :
    body.data values = names.flatMap fun name => (values.textsOf name).map (.single name) := by
  rw [Expression.data, specs, List.flatMap_map]
  refine List.flatMap_congr fun name membership => ?_
  obtain ⟨value, isBound, repeated⟩ := bound name membership
  exact data_exploded isBound repeated

theorem data_query_ne_nil (nonempty : names ≠ [])
    (specs : body.specs = names.map (VarSpec.mk · .explode))
    (bound : ∀ name ∈ names, ∃ value, values.get? name = some value ∧ value.IsRepeated) :
    body.data values ≠ [] := by
  obtain ⟨name, membership⟩ := List.exists_mem_of_ne_nil names nonempty
  obtain ⟨value, isBound, repeated⟩ := bound name membership
  obtain ⟨text, inTexts⟩ := List.exists_mem_of_ne_nil _ repeated.texts_ne_nil
  rw [data_query specs bound]
  exact List.ne_nil_of_mem (List.mem_flatMap.mpr ⟨name, membership,
    List.mem_map.mpr ⟨text, textsOf_eq isBound ▸ inTexts, rfl⟩⟩)

/-- The fragments of a query are those of the texts that its names are bound to. -/
theorem splitOn_query (isQuery : body.operator = .query)
    (specs : body.specs = names.map (VarSpec.mk · .explode))
    (plain : ∀ name ∈ names, IsPlainName name) (nonempty : names ≠ [])
    (bound : ∀ name ∈ names, ∃ value, values.get? name = some value ∧ value.IsRepeated) :
    ∃ query, body.expand values = "?" ++ query ∧
      query.toList.splitOn '&' = names.flatMap fun name =>
        ((values.textsOf name).map (.single name)).map (Datum.fragment .query) := by
  have something := data_query_ne_nil nonempty specs bound
  have contributed : body.contributions values ≠ [] := by
    simpa [Expression.contributions_eq_map] using something
  have expanded : body.expand values =
      "?" ++ Expression.joined .query (body.contributions values) := by
    rw [Expression.expand_of_contributions_ne_nil contributed, isQuery]
    rfl
  have named : ∀ spec ∈ body.specs, spec.IsNamed := by
    intro spec membership
    rw [specs] at membership
    obtain ⟨name, inNames, rfl⟩ := List.mem_map.mp membership
    exact (plain name inNames).isName
  have atSeparators := Expression.splitOn_expand named (by simp [isQuery]) something
  rw [expanded, isQuery, data_query specs bound, String.toList_append, List.map_flatMap]
    at atSeparators
  exact ⟨_, expanded, atSeparators⟩

end Query

/-- The parameters that names are written as. -/
def parametersOf (values : Variables) (names : List String) : List (String × String) :=
  names.flatMap fun name => ((values.textsOf name).map normalText).map (name, ·)

/-- Fragments of a query are read as its parameters. -/
theorem formParameters_eq {values : Variables} {names : List String}
    (plain : ∀ name ∈ names, IsPlainName name) {query : List Char}
    (split : query.splitOn '&' = names.flatMap fun name =>
      ((values.textsOf name).map (.single name)).map (Datum.fragment .query)) :
    Percent.formParameters query = values.parametersOf names := by
  have kept : (query.splitOn '&').filter (!·.isEmpty) = query.splitOn '&' := by
    rw [List.filter_eq_self, split]
    intro fragment membership
    obtain ⟨name, inNames, inTexts⟩ := List.mem_flatMap.mp membership
    obtain ⟨datum, inData, rfl⟩ := List.mem_map.mp inTexts
    obtain ⟨text, -, rfl⟩ := List.mem_map.mp inData
    simpa using (plain name inNames).fragment_ne_nil text
  rw [Percent.formParameters, kept, split, List.map_flatMap, parametersOf]
  refine List.flatMap_congr fun name membership => ?_
  rw [List.map_map, List.map_map, List.map_map]
  exact List.map_congr_left fun text _ => (plain name membership).formParameter_fragment text

/-- Parameters of other names leave what a name is bound to. -/
theorem foldl_afterParameter_parametersOf {values : Variables} {name : String}
    {names : List String} (others : ∀ other ∈ names, IsPlainName other ∧ name ≠ other)
    (value? : Option Value) :
    (values.parametersOf names).foldl (Value.afterParameter name) value? = value? := by
  refine Value.foldl_afterParameter_of_ne (fun parameter membership => ?_) value?
  obtain ⟨other, inNames, inTexts⟩ := List.mem_flatMap.mp membership
  obtain ⟨text, -, rfl⟩ := List.mem_map.mp inTexts
  obtain ⟨plain, different⟩ := others other inNames
  exact ⟨plain.memberOf?_eq_none, different⟩

/-- Reading the parameters of distinct names gives each name its own value back. -/
theorem get?_ofQuery_parametersOf {values : Variables} {names : List String}
    (distinct : names.Nodup) (plain : ∀ name ∈ names, IsPlainName name)
    (bound : ∀ name ∈ names, ∃ value, values.get? name = some value ∧ value.IsRepeated)
    (name : String) :
    (ofQuery (values.parametersOf names)).get? name =
      if name ∈ names then (values.get? name).map Value.normal else none := by
  rw [get?_ofQuery]
  by_cases present : name ∈ names
  · -- The name stands once, so the parameters on both sides of its own are of other names.
    obtain ⟨before, after, split⟩ := List.append_of_mem present
    have notAround : ∀ other ∈ before ++ after, IsPlainName other ∧ name ≠ other := by
      rw [split, List.perm_middle.nodup_iff, List.nodup_cons] at distinct
      intro other membership
      refine ⟨plain other ?_, fun same => distinct.1 (same ▸ membership)⟩
      rw [split]
      exact List.perm_middle.mem_iff.mpr (List.mem_cons_of_mem _ membership)
    obtain ⟨notBefore, notAfter⟩ := List.forall_mem_append.mp notAround
    obtain ⟨value, isBound, repeated⟩ := bound name present
    have parameters : values.parametersOf names = values.parametersOf before ++
        (((values.textsOf name).map normalText).map (name, ·) ++ values.parametersOf after) := by
      simp [parametersOf, split]
    rw [if_pos present, parameters, List.foldl_append, List.foldl_append,
      foldl_afterParameter_parametersOf notBefore,
      Value.foldl_afterParameter_map (plain name present).memberOf?_eq_none,
      foldl_afterParameter_parametersOf notAfter, textsOf_eq isBound,
      repeated.foldl_appendText, isBound, Option.map_some]
  · rw [if_neg present]
    refine foldl_afterParameter_parametersOf (fun other membership => ?_) none
    exact ⟨plain other membership, fun same => present (same ▸ membership)⟩

/-- Texts and lists of several items that are written into a query are read from it again,
and nothing else is. -/
theorem get?_ofQuery_expand {names : List String} (nonempty : names ≠ [])
    (distinct : names.Nodup) (plain : ∀ name ∈ names, IsPlainName name) {values : Variables}
    (bound : ∀ name ∈ names, ∃ value, values.get? name = some value ∧ value.IsRepeated) :
    ∃ (template : Template) (query : String),
      Template.read ("\x7b?" ++ String.intercalate "," (names.map (· ++ "*")) ++ "\x7d") =
        .ok template ∧
      template.expand values = "?" ++ query ∧
      ∀ name, (ofQuery (Percent.formParameters query.toList)).get? name =
        if name ∈ names then (values.get? name).map Value.normal else none := by
  obtain ⟨body, isQuery, specs, accepted⟩ := Template.exists_read_query nonempty
    fun name membership => (plain name membership).isName
  obtain ⟨query, expanded, split⟩ := splitOn_query isQuery specs plain nonempty bound
  refine ⟨_, query, accepted, ?_, fun name => ?_⟩
  · rw [Template.expand_eq_join, List.map_singleton, Element.expand, expanded]
    simp
  · rw [formParameters_eq plain split]
    exact get?_ofQuery_parametersOf distinct plain bound name

/-- Texts with delimiters of a query, an empty item and an item in brackets. -/
theorem get?_ofQuery_expand_brackets :
    ∃ (template : Template) (query : String),
      Template.read "\x7b?x.y*,q*\x7d" = .ok template ∧
      template.expand (ofBindings [("q", .text "a+b&é=%20"), ("x.y", .list ["", "[k]"])]) =
        "?" ++ query ∧
      (ofQuery (Percent.formParameters query.toList)).get? "q" = some (.text "a+b&é=%20") ∧
      (ofQuery (Percent.formParameters query.toList)).get? "x.y" = some (.list ["", "[k]"]) ∧
      (ofQuery (Percent.formParameters query.toList)).get? "x" = none := by
  have plain : ∀ name ∈ ["x.y", "q"], IsPlainName name := by
    simp only [List.mem_cons, List.not_mem_nil, or_false, forall_eq_or_imp, forall_eq]
    exact ⟨⟨VariableName.isValid_iff_isName.mp (by decide), by decide⟩,
      ⟨VariableName.isValid_iff_isName.mp (by decide), by decide⟩⟩
  have bound : ∀ name ∈ ["x.y", "q"], ∃ value,
      (ofBindings [("q", .text "a+b&é=%20"), ("x.y", .list ["", "[k]"])]).get? name =
        some value ∧ value.IsRepeated := by
    simp only [List.mem_cons, List.not_mem_nil, or_false, forall_eq_or_imp, forall_eq]
    exact ⟨⟨_, rfl, Nat.le_refl 2⟩, ⟨_, rfl, trivial⟩⟩
  obtain ⟨template, query, accepted, expanded, recovered⟩ :=
    get?_ofQuery_expand (List.cons_ne_nil _ _) (by decide) plain bound
  refine ⟨template, query, accepted, expanded, ?_, ?_, ?_⟩
  · exact (recovered "q").trans (by decide)
  · exact (recovered "x.y").trans (by decide)
  · exact (recovered "x").trans (by decide)

end Variables

end UriExpansion
