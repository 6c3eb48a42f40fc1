import UriExpansion.Binding.Variables
import Mathlib.Data.List.Nodup

/-!
Bindings through their look-up. Every operation on variables is told by what each name is
bound to afterwards, and variables that bind all names alike are equal.
-/

namespace UriExpansion

section Pairs

variable {β : Type}

theorem lookup_cons_eq_ite (name : String) (pair : String × β) (rest : List (String × β)) :
    (pair :: rest).lookup name = if name = pair.1 then some pair.2 else rest.lookup name := by
  by_cases same : name = pair.1
  · rw [if_pos same, List.lookup_cons, beq_iff_eq.mpr same]
  · rw [if_neg same, List.lookup_cons, beq_eq_false_iff_ne.mpr same]

/-- Where no key occurs twice, look-up finds exactly the pairs of a list. -/
theorem lookup_eq_some_iff_mem {pairs : List (String × β)}
    (distinct : (pairs.map Prod.fst).Nodup) {name : String} {value : β} :
    pairs.lookup name = some value ↔ (name, value) ∈ pairs := by
  induction pairs with
  | nil => simp
  | cons first rest inductionHypothesis =>
      obtain ⟨key, given⟩ := first
      obtain ⟨fresh, restDistinct⟩ := List.nodup_cons.mp distinct
      rw [lookup_cons_eq_ite, List.mem_cons]
      by_cases same : name = key
      · subst same
        rw [if_pos rfl, Option.some_inj]
        constructor
        · rintro rfl
          exact .inl rfl
        · rintro (equality | later)
          · exact (congrArg Prod.snd equality).symm
          · exact absurd (List.mem_map.mpr ⟨_, later, rfl⟩) fresh
      · rw [if_neg same, inductionHypothesis restDistinct]
        simp [same]

theorem lookup_eq_none_of_not_mem {name : String} {pairs : List (String × β)}
    (absent : name ∉ pairs.map Prod.fst) : pairs.lookup name = none := by
  rw [List.lookup_eq_none_iff]
  intro pair membership
  exact bne_iff_ne.mpr fun same => absent (same ▸ List.mem_map_of_mem membership)

theorem lookup_filter_ne (name other : String) (pairs : List (String × β)) :
    (pairs.filter fun pair => pair.1 ≠ name).lookup other =
      if other = name then none else pairs.lookup other := by
  induction pairs with
  | nil => simp
  | cons first rest inductionHypothesis =>
      by_cases same : first.1 = name
      · rw [List.filter_cons_of_neg (by simpa using same), inductionHypothesis,
          lookup_cons_eq_ite, same]
        split <;> simp_all
      · rw [List.filter_cons_of_pos (by simpa using same), lookup_cons_eq_ite,
          inductionHypothesis, lookup_cons_eq_ite]
        split <;> simp_all

end Pairs

namespace Variables

theorem lookup_insertBinding (name : String) (value : Value) (bindings : List (String × Value))
    (other : String) :
    (insertBinding name value bindings).lookup other =
      if other = name then some value else bindings.lookup other := by
  induction bindings with
  | nil => exact lookup_cons_eq_ite other (name, value) []
  | cons first rest inductionHypothesis =>
      rw [insertBinding]
      split
      · exact lookup_cons_eq_ite other (name, value) (first :: rest)
      split
      next equality =>
        rw [lookup_cons_eq_ite, lookup_cons_eq_ite, ← equality]
        by_cases same : other = name
        · rw [if_pos same, if_pos same]
        · rw [if_neg same, if_neg same, if_neg same]
      next different =>
        rw [lookup_cons_eq_ite, lookup_cons_eq_ite, inductionHypothesis]
        by_cases same : other = name
        · rw [same, if_neg different, if_pos rfl, if_pos rfl]
        · rw [if_neg same, if_neg same]

@[simp]
theorem get?_empty (name : String) : empty.get? name = none := rfl

@[simp]
theorem get?_insert (values : Variables) (name : String) (value : Value) (other : String) :
    (values.insert name value).get? other =
      if other = name then some value else values.get? other :=
  lookup_insertBinding name value values.bindings other

theorem distinct_names (values : Variables) : (values.bindings.map Prod.fst).Nodup := by
  rw [List.nodup_iff_pairwise_ne, List.pairwise_map]
  exact values.sorted.imp fun before => String.ne_of_lt before

theorem get?_eq_some_iff {values : Variables} {name : String} {value : Value} :
    values.get? name = some value ↔ (name, value) ∈ values.bindings :=
  lookup_eq_some_iff_mem values.distinct_names

/-- Variables that bind all names alike are equal. -/
theorem ext_get? {left right : Variables}
    (alike : ∀ name, left.get? name = right.get? name) : left = right := by
  have sameBindings : ∀ binding, binding ∈ left.bindings ↔ binding ∈ right.bindings := by
    intro binding
    rw [← get?_eq_some_iff, ← get?_eq_some_iff, alike]
  have permuted : left.bindings.Perm right.bindings :=
    (List.perm_ext_iff_of_nodup (.of_map Prod.fst left.distinct_names)
      (.of_map Prod.fst right.distinct_names)).mpr sameBindings
  have equal : left.bindings = right.bindings :=
    permuted.eq_of_pairwise (fun _ _ _ _ before after => absurd after (String.lt_asymm before))
      left.sorted right.sorted
  cases left
  cases right
  cases equal
  rfl

@[simp]
theorem get?_erase (values : Variables) (name other : String) :
    (values.erase name).get? other = if other = name then none else values.get? other :=
  lookup_filter_ne name other values.bindings

/-- Give a name a value, or leave it without one. -/
def assign (values : Variables) (name : String) : Option Value → Variables
  | none => values.erase name
  | some value => values.insert name value

@[simp]
theorem get?_assign (values : Variables) (name : String) (value? : Option Value)
    (other : String) :
    (values.assign name value?).get? other = if other = name then value? else values.get? other := by
  cases value? with
  | none => exact get?_erase values name other
  | some value => exact get?_insert values name value other

/-- Bind a name unless it is bound already. -/
def fillBinding (filled : Variables) (binding : String × Value) : Variables :=
  if filled.contains binding.1 then filled else filled.insert binding.1 binding.2

theorem get?_fillBinding (filled : Variables) (binding : String × Value) (name : String) :
    (filled.fillBinding binding).get? name =
      (filled.get? name).or (if name = binding.1 then some binding.2 else none) := by
  rw [fillBinding, contains]
  split
  next bound =>
    by_cases same : name = binding.1
    · rw [same, Option.or_of_isSome bound]
    · rw [if_neg same, Option.or_none]
  next free =>
    rw [get?_insert]
    by_cases same : name = binding.1
    · rw [if_pos same, if_pos same, same, Option.not_isSome_iff_eq_none.mp free, Option.none_or]
    · rw [if_neg same, if_neg same, Option.or_none]

theorem get?_foldl_fillBinding (bindings : List (String × Value)) (values : Variables)
    (name : String) :
    (bindings.foldl fillBinding values).get? name =
      (values.get? name).or (bindings.lookup name) := by
  induction bindings generalizing values with
  | nil => rw [List.foldl_nil, List.lookup_nil, Option.or_none]
  | cons binding rest inductionHypothesis =>
      rw [List.foldl_cons, inductionHypothesis, get?_fillBinding, lookup_cons_eq_ite,
        Option.or_assoc]
      split
      · rw [Option.some_or]
      · rw [Option.none_or]

theorem get?_fillDefaults (values defaults : Variables) (name : String) :
    (values.fillDefaults defaults).get? name = (values.get? name).or (defaults.get? name) :=
  get?_foldl_fillBinding defaults.bindings values name

/-- The order in which defaults are filled in does not matter. -/
theorem fillDefaults_eq_foldl {values defaults : Variables} {bindings : List (String × Value)}
    (permuted : bindings.Perm defaults.bindings) :
    values.fillDefaults defaults = bindings.foldl fillBinding values := by
  have distinct : (bindings.map Prod.fst).Nodup :=
    (permuted.map Prod.fst).nodup_iff.mpr defaults.distinct_names
  refine ext_get? fun name => ?_
  have sameLookup : bindings.lookup name = defaults.get? name := by
    refine Option.ext fun value => ?_
    rw [lookup_eq_some_iff_mem distinct, get?_eq_some_iff, permuted.mem_iff]
  rw [get?_fillDefaults, get?_foldl_fillBinding, sameLookup]

end Variables

end UriExpansion
