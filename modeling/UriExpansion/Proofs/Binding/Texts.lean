import UriExpansion.Proofs.Binding.Lookup

/-!
What further texts make of a value. Texts that come one by one go behind each other, and
behind the text or the items that are there; pairs give way to them.
-/

namespace UriExpansion

namespace Value

/-- The texts of a value; pairs are none. -/
def texts : Value → List String
  | .text single => [single]
  | .list items => items
  | .associative _ => []

/-- The value of a variable that gets several further texts. -/
def afterTexts (value? : Option Value) : List String → Option Value
  | [] => value?
  | first :: rest =>
      match value? with
      | some (.text content) => some (.list (content :: first :: rest))
      | some (.list items) => some (.list (items ++ first :: rest))
      | none | some (.associative _) =>
          if rest = [] then some (.text first) else some (.list (first :: rest))

theorem foldl_appendText_list (earlier texts : List String) :
    texts.foldl (fun value? text => some (appendText value? text)) (some (.list earlier)) =
      some (.list (earlier ++ texts)) := by
  induction texts generalizing earlier with
  | nil => simp
  | cons text rest inductionHypothesis =>
      rw [List.foldl_cons, appendText, inductionHypothesis, List.append_assoc,
        List.singleton_append]

/-- Behind a text every further one is an item. -/
theorem foldl_appendText_text (content : String) {rest : List String} (more : rest ≠ []) :
    rest.foldl (fun value? text => some (appendText value? text)) (some (.text content)) =
      some (.list (content :: rest)) := by
  obtain ⟨second, later, rfl⟩ := List.exists_cons_of_ne_nil more
  rw [List.foldl_cons, appendText, foldl_appendText_list]
  rfl

theorem foldl_appendText_eq_afterTexts (value? : Option Value) (given : List String) :
    given.foldl (fun value? text => some (appendText value? text)) value? =
      afterTexts value? given := by
  cases given with
  | nil => rfl
  | cons first rest =>
      have replaced : appendText value? first = .text first →
          (first :: rest).foldl (fun value? text => some (appendText value? text)) value? =
            if rest = [] then some (.text first) else some (.list (first :: rest)) := by
        intro fresh
        rw [List.foldl_cons, fresh]
        split
        next alone => rw [alone, List.foldl_nil]
        next more => exact foldl_appendText_text first more
      match value? with
      | some (.text content) => exact foldl_appendText_text content (List.cons_ne_nil _ _)
      | some (.list items) => exact foldl_appendText_list items (first :: rest)
      | none => exact replaced rfl
      | some (.associative _) => exact replaced rfl

/-- Without a value, from the second text on there is a list. -/
theorem foldl_appendText {texts : List String} (several : 2 ≤ texts.length) :
    texts.foldl (fun value? text => some (appendText value? text)) none =
      some (.list texts) := by
  match texts, several with
  | first :: second :: rest, _ => exact foldl_appendText_list [first, second] rest

/-- No text is lost, taken twice or moved. -/
theorem texts_afterTexts (value? : Option Value) (given : List String) :
    ((afterTexts value? given).map texts).getD [] = (value?.map texts).getD [] ++ given := by
  cases given with
  | nil => rw [afterTexts, List.append_nil]
  | cons first rest =>
      match value? with
      | some (.text _) | some (.list _) => rfl
      | none | some (.associative _) =>
          by_cases alone : rest = [] <;> simp [afterTexts, texts, alone]

end Value

namespace Variables

/-- The texts that a name is bound to. -/
def textsOf (values : Variables) (name : String) : List String :=
  ((values.get? name).map Value.texts).getD []

/-- The texts that pairs give to a name, in their order. -/
def textsFor (name : String) (pairs : List (String × String)) : List String :=
  (pairs.filter (·.1 = name)).map Prod.snd

theorem textsFor_cons (name : String) (pair : String × String)
    (rest : List (String × String)) :
    textsFor name (pair :: rest) =
      if name = pair.1 then pair.2 :: textsFor name rest else textsFor name rest := by
  by_cases same : name = pair.1
  · simp [textsFor, same]
  · simp [textsFor, same, Ne.symm same]

/-- Texts for different names may change places. -/
theorem textsFor_swap {first second : String × String} (different : first.1 ≠ second.1)
    (rest : List (String × String)) (name : String) :
    textsFor name (first :: second :: rest) = textsFor name (second :: first :: rest) := by
  simp only [textsFor_cons]
  split_ifs with isFirst isSecond
  · exact absurd (isFirst.symm.trans isSecond) different
  all_goals rfl

/-- The variables that get further texts one after the other. -/
def appendTexts (values : Variables) (pairs : List (String × String)) : Variables :=
  pairs.foldl (fun values pair => values.appendText pair.1 pair.2) values

/-- Of all texts those for a name tell what becomes of it. -/
theorem get?_appendTexts (values : Variables) (pairs : List (String × String)) (name : String) :
    (values.appendTexts pairs).get? name =
      Value.afterTexts (values.get? name) (textsFor name pairs) := by
  rw [← Value.foldl_appendText_eq_afterTexts]
  induction pairs generalizing values with
  | nil => rfl
  | cons pair rest inductionHypothesis =>
      rw [appendTexts, List.foldl_cons, ← appendTexts, inductionHypothesis, textsFor_cons,
        appendText, get?_insert]
      split
      next same => rw [List.foldl_cons, same]
      next => rfl

theorem textsOf_appendTexts (values : Variables) (pairs : List (String × String))
    (name : String) :
    (values.appendTexts pairs).textsOf name = values.textsOf name ++ textsFor name pairs := by
  rw [textsOf, get?_appendTexts, Value.texts_afterTexts, textsOf]

end Variables

end UriExpansion
