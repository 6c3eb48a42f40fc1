import UriExpansion.Proofs.Binding.Lookup

/-!
Runs of operations on variables, name by name. What a run leaves a name bound to, and what it
tells about the name on the way, is a run of its own, which looks at a single binding; the
defaults that variables are filled with are the right operand of a union that prefers the left.
-/

namespace UriExpansion.Variables

/-- A change to variables. -/
inductive Operation where
  | insert (name : String) (value : Value)
  | erase (name : String)
  | appendText (name text : String)
  | insertMember (name key value : String)
  | fillDefaults (defaults : Variables)

/-- A change to a single binding. -/
inductive Effect where
  | replace (value? : Option Value)
  | appendText (text : String)
  | insertMember (key value : String)
  | fill (value : Value)

namespace Effect

/-- Change a binding: what is told to have been there before, and what is left. -/
def apply (value? : Option Value) : Effect → List (Option Value) × Option Value
  | replace replacement? => ([value?], replacement?)
  | appendText text => ([], some (Value.appendText value? text))
  | insertMember key value => ([], some (Value.insertMember value? key value))
  | fill value => ([], value?.or (some value))

def applyAll (value? : Option Value) : List Effect → List (Option Value) × Option Value
  | [] => ([], value?)
  | effect :: rest =>
      let (told, changed?) := effect.apply value?
      let (later, last?) := applyAll changed? rest
      (told ++ later, last?)

theorem applyAll_append (value? : Option Value) (effects further : List Effect) :
    applyAll value? (effects ++ further) =
      ((applyAll value? effects).1 ++ (applyAll (applyAll value? effects).2 further).1,
        (applyAll (applyAll value? effects).2 further).2) := by
  induction effects generalizing value? with
  | nil => rfl
  | cons effect rest inductionHypothesis =>
      simp only [List.cons_append, applyAll, inductionHypothesis, List.append_assoc]

end Effect

/-- Change the binding of a name: the values that are told to have been there before, and the
variables that are left. -/
def Effect.applyTo (values : Variables) (name : String) (effect : Effect) :
    List (String × Option Value) × Variables :=
  let (told, changed?) := effect.apply (values.get? name)
  (told.map (name, ·), values.assign name changed?)

namespace Operation

/-- Change variables: the values that are told to have been there before, each with its name,
and the variables that are left. -/
def apply (values : Variables) : Operation → List (String × Option Value) × Variables
  | insert name value =>
      let (replaced?, next) := values.insertReplacing name value
      ([(name, replaced?)], next)
  | erase name =>
      let (erased?, next) := values.eraseReturning name
      ([(name, erased?)], next)
  | appendText name text => ([], values.appendText name text)
  | insertMember name key value => ([], values.insertMember name key value)
  | fillDefaults defaults => ([], values.fillDefaults defaults)

/-- Whether an operation is about a name, or fills in variables that bind it. -/
def mentions (name : String) : Operation → Bool
  | insert target _ | erase target | appendText target _ | insertMember target _ _ => target = name
  | fillDefaults defaults => defaults.contains name

/-- What an operation does to the binding of a name. Of defaults it is only the binding of the
same name that counts. -/
def effects (name : String) : Operation → List Effect
  | insert target value => if target = name then [.replace (some value)] else []
  | erase target => if target = name then [.replace none] else []
  | appendText target text => if target = name then [.appendText text] else []
  | insertMember target key value => if target = name then [.insertMember key value] else []
  | fillDefaults defaults => (defaults.get? name).toList.map .fill

end Operation

/-- Apply operations one after the other. -/
def applyAll (values : Variables) : List Operation → List (String × Option Value) × Variables
  | [] => ([], values)
  | operation :: rest =>
      let (told, next) := operation.apply values
      let (later, last) := applyAll next rest
      (told ++ later, last)

/-- What is told about a name, in order. -/
def toldOf (name : String) (told : List (String × Option Value)) : List (Option Value) :=
  (told.filter (·.1 = name)).map Prod.snd

theorem toldOf_append (name : String) (told later : List (String × Option Value)) :
    toldOf name (told ++ later) = toldOf name told ++ toldOf name later := by
  rw [toldOf, List.filter_append, List.map_append, toldOf, toldOf]

theorem toldOf_map (name target : String) (told : List (Option Value)) :
    toldOf name (told.map (target, ·)) = if target = name then told else [] := by
  rw [toldOf, List.filter_map]
  by_cases same : target = name <;> simp [Function.comp_def, same]

/-- An outcome as it is seen by a name: what is told about it, and what it is bound to. -/
def seenBy (name : String) (outcome : List (String × Option Value) × Variables) :
    List (Option Value) × Option Value :=
  (toldOf name outcome.1, outcome.2.get? name)

/-- A name sees of a change to one binding only what it does to its own. -/
theorem Effect.seenBy_applyTo (name target : String) (effect : Effect) (values : Variables) :
    seenBy name (effect.applyTo values target) =
      applyAll (values.get? name) (if target = name then [effect] else []) := by
  rw [seenBy, applyTo, get?_assign, toldOf_map]
  by_cases same : target = name
  · subst same
    simp [applyAll]
  · rw [if_neg same, if_neg (Ne.symm same), if_neg same]
    rfl

namespace Operation

theorem effects_eq_nil_iff {name : String} {operation : Operation} :
    operation.effects name = [] ↔ operation.mentions name = false := by
  cases operation with
  | fillDefaults defaults =>
      cases found : defaults.get? name <;> simp [effects, mentions, contains, found]
  | _ => simp [effects, mentions]

/-- A name sees of an operation what it does to the binding of the name. -/
theorem seenBy_apply (name : String) (operation : Operation) (values : Variables) :
    seenBy name (operation.apply values) =
      Effect.applyAll (values.get? name) (operation.effects name) := by
  cases operation with
  | insert target value => exact Effect.seenBy_applyTo name target (.replace (some value)) values
  | erase target => exact Effect.seenBy_applyTo name target (.replace none) values
  | appendText target text => exact Effect.seenBy_applyTo name target (.appendText text) values
  | insertMember target key value =>
      exact Effect.seenBy_applyTo name target (.insertMember key value) values
  | fillDefaults defaults =>
      rw [apply, seenBy, get?_fillDefaults, effects]
      cases defaults.get? name with
      | none =>
          rw [Option.or_none]
          rfl
      | some value => rfl

end Operation

/-- What those operations that mention a name do to its binding, in order. -/
def effectsOn (name : String) (operations : List Operation) : List Effect :=
  (operations.filter (·.mentions name)).flatMap (·.effects name)

theorem effectsOn_cons (name : String) (operation : Operation) (rest : List Operation) :
    effectsOn name (operation :: rest) = operation.effects name ++ effectsOn name rest := by
  by_cases mentioned : operation.mentions name = true
  · rw [effectsOn, List.filter_cons_of_pos mentioned, List.flatMap_cons, ← effectsOn]
  · have noEffects := Operation.effects_eq_nil_iff.mpr (Bool.eq_false_iff.mpr mentioned)
    rw [effectsOn, List.filter_cons_of_neg mentioned, ← effectsOn, noEffects, List.nil_append]

theorem effectsOn_append (name : String) (before after : List Operation) :
    effectsOn name (before ++ after) = effectsOn name before ++ effectsOn name after := by
  rw [effectsOn, List.filter_append, List.flatMap_append, effectsOn, effectsOn]

/-- A name sees of a run what the run does to the binding of the name. -/
theorem seenBy_applyAll (name : String) (operations : List Operation) (values : Variables) :
    seenBy name (values.applyAll operations) =
      Effect.applyAll (values.get? name) (effectsOn name operations) := by
  induction operations generalizing values with
  | nil => rfl
  | cons operation rest inductionHypothesis =>
      obtain ⟨toldFirst, bindsFirst⟩ := Prod.mk.inj (operation.seenBy_apply name values)
      obtain ⟨toldLater, bindsLater⟩ := Prod.mk.inj (inductionHypothesis (operation.apply values).2)
      rw [effectsOn_cons, Effect.applyAll_append, ← toldFirst, ← bindsFirst, ← toldLater,
        ← bindsLater, ← toldOf_append]
      rfl

/-- Runs that every name sees alike leave the same variables. -/
theorem eq_of_seenBy {outcome outcome' : List (String × Option Value) × Variables}
    (alike : ∀ name, seenBy name outcome = seenBy name outcome') :
    outcome.2 = outcome'.2 ∧ ∀ name, toldOf name outcome.1 = toldOf name outcome'.1 :=
  ⟨ext_get? fun name => congrArg Prod.snd (alike name), fun name => congrArg Prod.fst (alike name)⟩

/-- Operations that mention no name in common may change places. -/
theorem seenBy_applyAll_swap {first second : Operation}
    (apart : ∀ name, ¬ (first.mentions name ∧ second.mentions name)) (values : Variables)
    (before after : List Operation) (name : String) :
    seenBy name (values.applyAll (before ++ first :: second :: after)) =
      seenBy name (values.applyAll (before ++ second :: first :: after)) := by
  have oneSilent : first.effects name = [] ∨ second.effects name = [] := by
    rw [Operation.effects_eq_nil_iff, Operation.effects_eq_nil_iff]
    have notBoth := apart name
    simpa [imp_iff_not_or] using notBoth
  rw [seenBy_applyAll, seenBy_applyAll, effectsOn_append, effectsOn_append, effectsOn_cons,
    effectsOn_cons, effectsOn_cons, effectsOn_cons]
  rcases oneSilent with silent | silent
  · rw [silent, List.nil_append, List.nil_append]
  · rw [silent, List.nil_append, List.nil_append]

theorem fillDefaults_self (values defaults : Variables) :
    (values.fillDefaults defaults).fillDefaults defaults = values.fillDefaults defaults := by
  refine ext_get? fun name => ?_
  rw [get?_fillDefaults, get?_fillDefaults, Option.or_assoc, Option.or_self]

theorem fillDefaults_assoc (values defaults further : Variables) :
    (values.fillDefaults defaults).fillDefaults further =
      values.fillDefaults (defaults.fillDefaults further) := by
  refine ext_get? fun name => ?_
  rw [get?_fillDefaults, get?_fillDefaults, get?_fillDefaults, get?_fillDefaults, Option.or_assoc]

/-- A run is a run of its own for each name, and filling in defaults is a union that prefers
what is there. -/
theorem applyAll_local :
    (∀ (values : Variables) (operations : List Operation) (name : String),
      (values.applyAll operations).2.get? name =
          (Effect.applyAll (values.get? name) (effectsOn name operations)).2 ∧
        toldOf name (values.applyAll operations).1 =
          (Effect.applyAll (values.get? name) (effectsOn name operations)).1) ∧
    (∀ (values : Variables) (before after : List Operation) (first second : Operation),
      (∀ name, ¬ (first.mentions name ∧ second.mentions name)) →
        (values.applyAll (before ++ first :: second :: after)).2 =
            (values.applyAll (before ++ second :: first :: after)).2 ∧
          ∀ name, toldOf name (values.applyAll (before ++ first :: second :: after)).1 =
            toldOf name (values.applyAll (before ++ second :: first :: after)).1) ∧
    (∀ (values defaults : Variables) (bindings : List (String × Value)),
      bindings.Perm defaults.bindings →
        bindings.foldl fillBinding values = values.fillDefaults defaults ∧
          ∀ name, (values.fillDefaults defaults).get? name =
            (values.get? name).or (defaults.get? name)) ∧
    (∀ values defaults : Variables,
      (values.fillDefaults defaults).fillDefaults defaults = values.fillDefaults defaults) ∧
    ∀ values defaults further : Variables,
      (values.fillDefaults defaults).fillDefaults further =
        values.fillDefaults (defaults.fillDefaults further) := by
  refine ⟨fun values operations name => ?_, ?_, ?_, fillDefaults_self, fillDefaults_assoc⟩
  · have seen := seenBy_applyAll name operations values
    exact ⟨congrArg Prod.snd seen, congrArg Prod.fst seen⟩
  · intro values before after first second apart
    exact eq_of_seenBy (seenBy_applyAll_swap apart values before after)
  · intro values defaults bindings permuted
    exact ⟨(fillDefaults_eq_foldl permuted).symm, get?_fillDefaults values defaults⟩

/-- Defaults of one name filled in before or after another one is unbound, and defaults taken
against the order of their names. -/
theorem applyAll_local_apart :
    (empty.applyAll [.appendText "x" "1", .erase "x",
        .fillDefaults (ofBindings [("y", .text "d")]), .insertMember "y" "k" "v"]).2 =
      (empty.applyAll [.appendText "x" "1", .fillDefaults (ofBindings [("y", .text "d")]),
        .erase "x", .insertMember "y" "k" "v"]).2 ∧
    toldOf "x" (empty.applyAll [.appendText "x" "1",
      .fillDefaults (ofBindings [("y", .text "d")]), .erase "x"]).1 = [some (.text "1")] ∧
    [("y", .text "e"), ("x", .text "d")].foldl fillBinding (ofBindings [("y", .list [])]) =
      (ofBindings [("y", .list [])]).fillDefaults
        (ofBindings [("x", .text "d"), ("y", .text "e")]) := by
  obtain ⟨seen, swapped, filled, -, -⟩ := applyAll_local
  have apart : ∀ name, ¬ (Operation.mentions name (.erase "x") ∧
      Operation.mentions name (.fillDefaults (ofBindings [("y", .text "d")]))) := by
    rintro name ⟨isTarget, inDefaults⟩
    obtain rfl : "x" = name := of_decide_eq_true isTarget
    exact absurd inDefaults (by decide)
  refine ⟨?_, ?_, ?_⟩
  · exact (swapped empty [.appendText "x" "1"] [.insertMember "y" "k" "v"] _ _ apart).1
  · exact (seen empty _ "x").2.trans (by decide)
  · exact (filled _ _ _ (List.Perm.swap _ _ _)).1

end UriExpansion.Variables
