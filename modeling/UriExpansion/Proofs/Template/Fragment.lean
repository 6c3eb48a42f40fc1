import UriExpansion.Proofs.Percent.Decoding
import UriExpansion.Proofs.Template.Datum
import UriExpansion.Proofs.Template.Stability
import Mathlib.Data.List.Forall2

/-!
How an expansion is read back. Behind `/`, `;`, `?` and `&` the separator stands between
the contributions and nowhere else, the first `=` of a contribution with a name stands
behind that name, and the commas of one that was joined stand between its items. So every
contribution can be cut out and decoded to the datum that it was made of.
-/

namespace UriExpansion

namespace Percent

/-- The parts of a text in front of its first `=` and behind it. Without `=` the second is
empty. -/
def splitPair (fragment : List Char) : List Char × List Char :=
  (fragment.takeWhile (· ≠ '='), (fragment.dropWhile (· ≠ '=')).drop 1)

theorem formParameter_eq (fragment : List Char) :
    formParameter fragment =
      (String.ofList (decodeForm (splitPair fragment).1),
        String.ofList (decodeForm (splitPair fragment).2)) := rfl

theorem splitPair_append {name : List Char} (absent : '=' ∉ name) (rest : List Char) :
    splitPair (name ++ rest) = (name ++ (splitPair rest).1, (splitPair rest).2) := by
  obtain ⟨before, after⟩ := Text.span_append absent rest
  rw [splitPair, before, after]
  rfl

theorem splitPair_of_not_mem {name : List Char} (absent : '=' ∉ name) :
    splitPair name = (name, []) := by
  have split := splitPair_append absent []
  rwa [List.append_nil, show splitPair [] = ([], []) from rfl, List.append_nil] at split

theorem splitPair_append_cons {name : List Char} (absent : '=' ∉ name) (value : List Char) :
    splitPair (name ++ '=' :: value) = (name, value) := by
  rw [splitPair_append absent, show splitPair ('=' :: value) = ([], value) from rfl,
    List.append_nil]

end Percent

open Percent (splitPair)

/-- A character that stands neither in names nor in text that is encoded without reserved
characters. -/
def IsDelimiter (c : Char) : Prop :=
  VariableName.isNameChar c = false ∧ Percent.isUnreserved c.toUInt8 = false

instance (c : Char) : Decidable (IsDelimiter c) :=
  inferInstanceAs (Decidable (_ ∧ _))

namespace IsDelimiter

variable {c : Char}

theorem not_mem_encode (delimiter : IsDelimiter c) (text : String) :
    c ∉ (Allowed.unreserved.encode text).toList := by
  rw [Allowed.encode, String.toList_ofList]
  refine Allowed.not_mem_encodeChars ?_ delimiter.2 text.toList
  rintro rfl
  exact absurd delimiter.1 (by decide)

theorem not_mem_encoded (delimiter : IsDelimiter c) (items : List String) :
    ∀ part ∈ (items.map Allowed.unreserved.encode).map String.toList, c ∉ part := by
  intro part membership
  obtain ⟨encoded, inEncoded, rfl⟩ := List.mem_map.mp membership
  obtain ⟨item, -, rfl⟩ := List.mem_map.mp inEncoded
  exact delimiter.not_mem_encode item

theorem not_mem_encodeJoined (delimiter : IsDelimiter c) (notComma : c ≠ ',')
    (items : List String) : c ∉ (Allowed.unreserved.encodeJoined items).toList := by
  rw [Allowed.encodeJoined, String.toList_intercalate]
  exact Text.not_mem_intercalate (mt List.mem_singleton.mp notComma)
    (delimiter.not_mem_encoded items)

end IsDelimiter

/-- The fragment of a contribution with a name is cut at the `=` behind the name, or is
all name if the value is empty. -/
theorem Contribution.splitPair_text (operator : Operator) {name : String} (value : String)
    (absent : '=' ∉ name.toList) :
    splitPair (Contribution.text operator ⟨some name, value⟩).toList =
      (name.toList, value.toList) := by
  rw [text]
  by_cases empty : value = ""
  · have suffixed : operator.ifEmpty? = none ∨ operator.ifEmpty? = some '=' := by
      cases operator <;> decide
    rcases suffixed with without | with'
    · simp [empty, without, Percent.splitPair_of_not_mem absent]
    · simp [empty, with', Percent.splitPair_append_cons absent]
  · simp [empty, Percent.splitPair_append_cons absent]

theorem Contribution.not_mem_text {operator : Operator} {name? : Option String} {value : String}
    {c : Char} (notEquals : c ≠ '=') (notInName : ∀ name ∈ name?, c ∉ name.toList)
    (notInValue : c ∉ value.toList) : c ∉ (Contribution.text operator ⟨name?, value⟩).toList := by
  have notSuffix : c ∉ operator.ifEmpty?.toList := by
    cases operator <;> simp [Operator.ifEmpty?, notEquals]
  cases name? with
  | none => exact notInValue
  | some name =>
      have notInName := notInName name rfl
      simp only [text]
      split
      · simp [notInName, notSuffix]
      · simp [notInName, notInValue, notEquals]

namespace Operator

/-- The value in a fragment, behind the name if the operator writes names. -/
def valueIn (operator : Operator) (fragment : List Char) : List Char :=
  if operator.named then (splitPair fragment).2 else fragment

/-- A fragment whose name is that of a variable, if the operator writes names, and whose
value is `value`. -/
structure Shows (operator : Operator) (fragment : List Char) (name : String)
    (value : List Char) : Prop where
  name : operator.named = true → (splitPair fragment).1 = name.toList
  value : operator.valueIn fragment = value

theorem shows_text (operator : Operator) {name : String} (value : String)
    (absent : '=' ∉ name.toList) :
    operator.Shows (Contribution.text operator
      ⟨if operator.named then some name else none, value⟩).toList name value.toList := by
  cases named : operator.named with
  | false =>
      refine ⟨fun impossible => ?_, by simp [valueIn, named, Contribution.text]⟩
      rw [named] at impossible
      cases impossible
  | true =>
      have split := Contribution.splitPair_text operator value absent
      exact ⟨fun _ => congrArg Prod.fst split, by simp [valueIn, named, split]⟩

/-- The operators that put a character in front of every contribution and write no
reserved characters. -/
theorem isDelimiter_separator {operator : Operator}
    (delimiting : operator ∈ [pathSegment, pathParameter, query, queryContinuation]) :
    operator.allowed = .unreserved ∧ IsDelimiter operator.separator ∧
      operator.separator ≠ ',' ∧ operator.separator ≠ '=' ∧
      ∃ first, operator.first? = some first := by
  simp only [List.mem_cons, List.not_mem_nil, or_false] at delimiting
  rcases delimiting with rfl | rfl | rfl | rfl <;>
    exact ⟨rfl, by decide, by decide, by decide, _, rfl⟩

end Operator

/-- A text in normal form C. -/
def normalText (text : String) : String :=
  String.ofList (Text.NormalForm.nfc text.toList)

def normalBytes (text : String) : List UInt8 :=
  Text.Utf8.encode (normalText text).toList

/-- The bytes that a part of an expansion stands for. -/
def decodedBytes (part : List Char) : List UInt8 :=
  Percent.decode (Text.Utf8.encode part)

theorem decodedBytes_encode (text : String) :
    decodedBytes (Allowed.unreserved.encode text).toList = normalBytes text := by
  rw [decodedBytes, Allowed.encode, String.toList_ofList, Allowed.decode_encodeChars,
    normalBytes, normalText, String.toList_ofList]

/-- Items that were joined are told apart at the commas. -/
theorem decodedBytes_encodeJoined {items : List String} (nonempty : items ≠ []) :
    ((Allowed.unreserved.encodeJoined items).toList.splitOn ',').map decodedBytes =
      items.map normalBytes := by
  have comma : IsDelimiter ',' := by decide
  have commaOnly : ",".toList = [','] := rfl
  rw [Allowed.encodeJoined, String.toList_intercalate, commaOnly,
    List.splitOn_intercalate ',' (comma.not_mem_encoded items) (by simpa using nonempty)]
  simp only [List.map_map, List.map_inj_left, Function.comp_apply, decodedBytes_encode,
    implies_true]

namespace Datum

/-- A datum that comes back from a fragment: a text or item by decoding the value, joined
items by cutting it at the commas first, and a member by decoding name and value. -/
def IsReadFrom (operator : Operator) (fragment : List Char) : Datum → Prop
  | single name text => ∃ value, operator.Shows fragment name value ∧
      decodedBytes value = normalBytes text
  | joined name items => ∃ value, operator.Shows fragment name value ∧
      if items = [] then value = []
      else (value.splitOn ',').map decodedBytes = items.map normalBytes
  | member key value =>
      decodedBytes (splitPair fragment).1 = normalBytes key ∧
        decodedBytes (splitPair fragment).2 = normalBytes value

/-- The datum as it stands in an expansion. -/
def fragment (operator : Operator) (datum : Datum) : List Char :=
  ((datum.contribution operator).text operator).toList

variable {operator : Operator} {datum : Datum}

theorem IsNamed.isReadFrom_fragment (named : datum.IsNamed)
    (escapes : operator.allowed = .unreserved) :
    datum.IsReadFrom operator (datum.fragment operator) := by
  have equals : IsDelimiter '=' := by decide
  cases datum with
  | single name text =>
      refine ⟨(Allowed.unreserved.encode text).toList, ?_, decodedBytes_encode text⟩
      rw [fragment, contribution, escapes]
      exact operator.shows_text _ (VariableName.IsName.not_mem named equals.1)
  | joined name items =>
      refine ⟨(Allowed.unreserved.encodeJoined items).toList, ?_, ?_⟩
      · rw [fragment, contribution, escapes]
        exact operator.shows_text _ (VariableName.IsName.not_mem named equals.1)
      · split
        next empty =>
          rw [empty]
          rfl
        next nonempty => exact decodedBytes_encodeJoined nonempty
  | member key value =>
      have split := Contribution.splitPair_text operator (Allowed.unreserved.encode value)
        (equals.not_mem_encode key)
      rw [IsReadFrom, fragment, contribution, escapes, split]
      dsimp only
      rw [decodedBytes_encode, decodedBytes_encode]
      exact ⟨rfl, rfl⟩

/-- No separator stands inside a fragment. -/
theorem IsNamed.not_mem_fragment (named : datum.IsNamed)
    (escapes : operator.allowed = .unreserved) {c : Char} (delimiter : IsDelimiter c)
    (notComma : c ≠ ',') (notEquals : c ≠ '=') : c ∉ datum.fragment operator := by
  cases datum with
  | single name text =>
      rw [fragment, contribution, escapes]
      have notInName : c ∉ name.toList := VariableName.IsName.not_mem named delimiter.1
      exact Contribution.not_mem_text notEquals (operator.forall_mem_named notInName)
        (delimiter.not_mem_encode text)
  | joined name items =>
      rw [fragment, contribution, escapes]
      have notInName : c ∉ name.toList := VariableName.IsName.not_mem named delimiter.1
      exact Contribution.not_mem_text notEquals (operator.forall_mem_named notInName)
        (delimiter.not_mem_encodeJoined notComma items)
  | member key value =>
      rw [fragment, contribution, escapes]
      refine Contribution.not_mem_text notEquals ?_ (delimiter.not_mem_encode value)
      rintro given ⟨⟩
      exact delimiter.not_mem_encode key

end Datum

namespace Expression

variable {expression : Expression}

theorem expand_eq_empty_iff
    (delimiting : expression.operator ∈
      [.pathSegment, .pathParameter, .query, .queryContinuation]) (values : Variables) :
    expression.expand values = "" ↔ expression.contributions values = [] := by
  constructor
  · intro empty
    by_contra something
    obtain ⟨-, -, -, -, first, isFirst⟩ := Operator.isDelimiter_separator delimiting
    rw [expand_of_contributions_ne_nil something, isFirst] at empty
    simp at empty
  · exact expand_of_contributions_eq_nil

/-- Cutting an expansion at the separators gives the fragments. -/
theorem splitOn_expand (named : ∀ spec ∈ expression.specs, spec.IsNamed)
    (delimiting : expression.operator ∈
      [.pathSegment, .pathParameter, .query, .queryContinuation]) {values : Variables}
    (something : expression.data values ≠ []) :
    ((expression.expand values).toList.drop 1).splitOn expression.operator.separator =
      (expression.data values).map (Datum.fragment expression.operator) := by
  obtain ⟨escapes, delimiter, notComma, notEquals, first, isFirst⟩ :=
    Operator.isDelimiter_separator delimiting
  have noSeparator : ∀ part ∈ (expression.data values).map (Datum.fragment expression.operator),
      expression.operator.separator ∉ part := by
    intro part membership
    obtain ⟨datum, inData, rfl⟩ := List.mem_map.mp membership
    exact (isNamed_of_mem_data named values datum inData).not_mem_fragment escapes delimiter
      notComma notEquals
  have fragments : (((expression.data values).map (Datum.contribution expression.operator)).map
      (Contribution.text expression.operator)).map String.toList =
        (expression.data values).map (Datum.fragment expression.operator) := by
    simp only [List.map_map]
    rfl
  rw [expand_of_contributions_ne_nil (by simpa [contributions_eq_map] using something),
    isFirst, contributions_eq_map, joined, String.toList_append, String.toList_intercalate,
    fragments, String.toList_singleton, String.toList_ofList]
  exact List.splitOn_intercalate _ noSeparator (by simpa using something)

/-- Nothing is written if nothing is contributed. Otherwise there is one fragment for each
contribution, and from it the datum that it was made of is read back. -/
theorem isReadFrom_fragments {written : String} {template : Template}
    (accepted : Template.read written = .ok template)
    (inTemplate : .expression expression ∈ template.elements)
    (delimiting : expression.operator ∈
      [.pathSegment, .pathParameter, .query, .queryContinuation]) (values : Variables) :
    (expression.contributions values =
        (expression.data values).map (Datum.contribution expression.operator)) ∧
      (expression.expand values = "" ↔ expression.data values = []) ∧
      (expression.data values ≠ [] →
        List.Forall₂ (Datum.IsReadFrom expression.operator)
          (((expression.expand values).toList.drop 1).splitOn expression.operator.separator)
          (expression.data values)) := by
  obtain ⟨spelling, -, rfl⟩ := TemplateSpelling.exists_of_read accepted
  have named : ∀ spec ∈ expression.specs, spec.IsNamed :=
    spelling.isRead_elements _ inTemplate
  have encoded := expression.contributions_eq_map values
  refine ⟨encoded, ?_, fun something => ?_⟩
  · rw [expand_eq_empty_iff delimiting, encoded, List.map_eq_nil_iff]
  · obtain ⟨escapes, -⟩ := Operator.isDelimiter_separator delimiting
    rw [splitOn_expand named delimiting something, List.forall₂_map_left_iff,
      List.forall₂_same]
    intro datum membership
    exact (isNamed_of_mem_data named values datum membership).isReadFrom_fragment escapes

/-- A member with an equals sign in its key, and a list whose first item holds a comma and
whose second one is empty. -/
theorem isReadFrom_fragments_comma :
    (Template.read "/p\x7b?k*,l\x7d").map (Template.expand · (.ofBindings
        [("k", .ofPairs [("a=b", "1&2")]), ("l", .list ["x,y", ""])])) =
        .ok "/p?a%3Db=1%262&l=x%2Cy," ∧
      List.Forall₂ (Datum.IsReadFrom .query)
        (("?a%3Db=1%262&l=x%2Cy,".toList.drop 1).splitOn '&')
        [.member "a=b" "1&2", .joined "l" ["x,y", ""]] := by
  have accepted : Template.read "/p\x7b?k*,l\x7d" = .ok ⟨[.literal "/p", .expression
      ⟨.query, [⟨"k", .explode⟩, ⟨"l", .plain⟩], List.cons_ne_nil _ _⟩]⟩ := by decide +kernel
  constructor
  · rw [accepted]
    decide +kernel
  · have expanded : expand ⟨.query, [⟨"k", .explode⟩, ⟨"l", .plain⟩], List.cons_ne_nil _ _⟩
        (.ofBindings [("k", .ofPairs [("a=b", "1&2")]), ("l", .list ["x,y", ""])]) =
          "?a%3Db=1%262&l=x%2Cy," := by
      decide +kernel
    have recovered := (isReadFrom_fragments accepted
      (List.mem_cons_of_mem _ List.mem_cons_self) (by decide)
      (.ofBindings [("k", .ofPairs [("a=b", "1&2")]), ("l", .list ["x,y", ""])])).2.2
    rw [expanded] at recovered
    exact recovered (List.cons_ne_nil _ _)

end Expression

end UriExpansion
