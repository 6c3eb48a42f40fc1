import Mathlib.Data.List.Forall2
import UriExpansion.Binding.JsonForm
import UriExpansion.Proofs.Binding.Lookup

/-!
Values and variables in JSON. A JSON value denotes a value, or none, whatever it is inside of:
no part of it is nested any deeper than a value may be. The members of an object are taken one
after the other, each of them giving its name what it denotes.
-/

namespace UriExpansion

namespace Json

theorem toOption_asString_eq_some_iff {value : Json} {text : String} :
    value.asString.toOption = some text ↔ value = .string (.ok text) := by
  constructor
  · fun_cases asString value with
    | case1 content =>
        rintro ⟨⟩
        rfl
    | case2 => exact nofun
  · rintro rfl
    rfl

theorem firstFaultOfItems?_strings (depth : Nat) (texts : List String) :
    firstFaultOfItems? depth (texts.map fun text => .string (.ok text)) = none := by
  induction texts with
  | nil => rfl
  | cons text rest inductionHypothesis => exact inductionHypothesis

theorem firstFaultOfMembers?_strings (depth : Nat) (pairs : List (String × String)) :
    firstFaultOfMembers? depth (pairs.map fun pair => (.ok pair.1, .string (.ok pair.2))) =
      none := by
  induction pairs with
  | nil => rfl
  | cons pair rest inductionHypothesis => exact inductionHypothesis

end Json

section Parts

variable {α β : Type} {take : α → Option β} {make : β → α}

/-- Parts can all be taken exactly if they are what is made of what is taken. -/
theorem mapM_eq_some_iff_eq_map (undoes : ∀ part taken, take part = some taken ↔ part = make taken)
    {parts : List α} {taken : List β} : parts.mapM take = some taken ↔ parts = taken.map make := by
  induction parts generalizing taken with
  | nil =>
      rw [List.mapM_nil, eq_comm (a := []), List.map_eq_nil_iff]
      exact Option.some_inj.trans eq_comm
  | cons part rest inductionHypothesis =>
      simp only [List.mapM_cons, Option.bind_eq_bind, Option.bind_eq_some_iff, undoes,
        inductionHypothesis]
      cases taken with
      | nil => simp
      | cons first later => simp

end Parts

namespace Value

open Json (Fault Content)

/-- What a JSON value stands for: a value, or none. -/
inductive Denotes : Json → Option Value → Prop where
  | nothing : Denotes .null none
  | text (content : String) : Denotes (.string (.ok content)) (some (.text content))
  | list (items : List String) :
      Denotes (.array (items.map fun item => .string (.ok item)) none) (some (.list items))
  | associative (pairs : List (String × String)) :
      Denotes (.object (pairs.map fun pair => (.ok pair.1, .string (.ok pair.2))) none)
        (some (.ofPairs pairs))

theorem textMember?_eq_some_iff {member : Content × Json} {pair : String × String} :
    textMember? member = some pair ↔ member = (.ok pair.1, .string (.ok pair.2)) := by
  constructor
  · fun_cases textMember? member with
    | case1 key value =>
        rintro ⟨⟩
        rfl
    | case2 => exact nofun
  · rintro rfl
    rfl

variable {json : Json} {value : Value} {depth : Nat}

theorem ofForm?_of_denotes (denotes : Denotes json (some value)) : ofForm? json = some value := by
  cases denotes with
  | text content => rfl
  | list items =>
      rw [ofForm?, (mapM_eq_some_iff_eq_map fun _ _ =>
        Json.toOption_asString_eq_some_iff).mpr rfl]
      rfl
  | associative pairs =>
      rw [ofForm?, (mapM_eq_some_iff_eq_map fun _ _ => textMember?_eq_some_iff).mpr rfl]
      rfl

theorem firstFault?_of_denotes {value? : Option Value} (denotes : Denotes json value?)
    (shallow : depth < Json.depthLimit) : json.firstFault? depth = none := by
  cases denotes with
  | nothing => rfl
  | text content => rfl
  | list items =>
      rw [Json.firstFault?, if_neg (Nat.not_le_of_lt shallow), Json.firstFaultOfItems?_strings]
      rfl
  | associative pairs =>
      rw [Json.firstFault?, if_neg (Nat.not_le_of_lt shallow), Json.firstFaultOfMembers?_strings]
      rfl

/-- A value of the right shape denotes one unless it has not been read to its end. -/
theorem denotes_of_ofForm? (shape : ofForm? json = some value)
    (sound : json.firstFault? depth = none) : Denotes json (some value) := by
  revert shape sound
  fun_cases ofForm? json with
  | case1 content =>
      rintro ⟨⟩ -
      exact .text content
  | case2 items fault? =>
      intro shape sound
      obtain ⟨texts, taken, rfl⟩ := Option.map_eq_some_iff.mp shape
      obtain rfl := (mapM_eq_some_iff_eq_map fun _ _ =>
        Json.toOption_asString_eq_some_iff).mp taken
      rw [Json.firstFault?, Json.firstFaultOfItems?_strings, Option.none_or] at sound
      split at sound
      · cases sound
      · rw [sound]
        exact .list texts
  | case3 members fault? =>
      intro shape sound
      obtain ⟨pairs, taken, rfl⟩ := Option.map_eq_some_iff.mp shape
      obtain rfl := (mapM_eq_some_iff_eq_map fun _ _ => textMember?_eq_some_iff).mp taken
      rw [Json.firstFault?, Json.firstFaultOfMembers?_strings, Option.none_or] at sound
      split at sound
      · cases sound
      · rw [sound]
        exact .associative pairs
  | case4 => exact nofun

theorem ofJson_eq_ok_iff (shallow : depth < Json.depthLimit) :
    ofJson depth json = .ok value ↔ Denotes json (some value) := by
  constructor
  · fun_cases ofJson depth json with
    | case1 fault faulty => exact nofun
    | case2 => exact nofun
    | case3 read shape sound =>
        rintro ⟨⟩
        exact denotes_of_ofForm? shape sound
  · intro denotes
    simp only [ofJson, firstFault?_of_denotes denotes shallow, ofForm?_of_denotes denotes]

end Value

namespace Variables

open Json (Content)

def assignAll (values : Variables) (given : List (String × Option Value)) : Variables :=
  given.foldl (fun values binding => values.assign binding.1 binding.2) values

/-- A member of an object and what it gives to which name. -/
structure Gives (member : Content × Json) (given : String × Option Value) : Prop where
  name : member.1 = .ok given.1
  denotes : Value.Denotes member.2 given.2

theorem Gives.of_denotes {json : Json} {value? : Option Value}
    (denotes : Value.Denotes json value?) (name : String) :
    Gives (.ok name, json) (name, value?) :=
  ⟨rfl, denotes⟩

variable {depth depth' : Nat} {values extended : Variables}

theorem addMember_of_denotes {json : Json} {value? : Option Value}
    (shallow : depth < Json.depthLimit) (denotes : Value.Denotes json value?) (values : Variables)
    (name : String) : addMember depth values name json = .ok (values.assign name value?) := by
  cases value? with
  | none =>
      cases denotes
      rfl
  | some value =>
      have notNull : json ≠ .null := by
        rintro rfl
        cases denotes
      have taken := (Value.ofJson_eq_ok_iff shallow).mpr denotes
      rw [addMember, taken]
      · rfl
      · exact notNull

theorem exists_of_addMember {name : String} {json : Json} (shallow : depth < Json.depthLimit)
    (added : addMember depth values name json = .ok extended) :
    ∃ value?, Value.Denotes json value? ∧ values.assign name value? = extended := by
  revert added
  fun_cases addMember depth values name json with
  | case1 =>
      rintro ⟨⟩
      exact ⟨none, .nothing, rfl⟩
  | case2 _ notNull =>
      intro added
      cases taken : Value.ofJson depth json with
      | error fault =>
          rw [taken] at added
          cases added
      | ok value =>
          rw [taken] at added
          obtain rfl := Except.ok.inj added
          exact ⟨some value, (Value.ofJson_eq_ok_iff shallow).mp taken, rfl⟩

theorem addMembers_of_gives {members : List (Content × Json)} {given : List (String × Option Value)}
    (shallow : depth < Json.depthLimit) (gives : List.Forall₂ Gives members given)
    (values : Variables) : addMembers depth values members = .ok (values.assignAll given) := by
  induction gives generalizing values with
  | nil => rfl
  | @cons member first rest later givesFirst givesRest inductionHypothesis =>
      obtain ⟨key, json⟩ := member
      obtain ⟨rfl, denotes⟩ := givesFirst
      simp only [addMembers, addMember_of_denotes shallow denotes, inductionHypothesis]
      rfl

theorem exists_of_addMembers {members : List (Content × Json)} (shallow : depth < Json.depthLimit)
    (added : addMembers depth values members = .ok extended) :
    ∃ given, List.Forall₂ Gives members given ∧ values.assignAll given = extended := by
  revert added
  fun_induction addMembers depth values members with
  | case1 values =>
      rintro ⟨⟩
      exact ⟨[], .nil, rfl⟩
  | case2 => exact nofun
  | case3 => exact nofun
  | case4 values name json rest next memberAdded inductionHypothesis =>
      intro added
      obtain ⟨value?, denotes, rfl⟩ := exists_of_addMember shallow memberAdded
      obtain ⟨later, givesRest, rfl⟩ := inductionHypothesis added
      exact ⟨(name, value?) :: later, .cons (.of_denotes denotes name) givesRest, rfl⟩

/-- Variables are read from an object of which each member gives something to a name. -/
theorem ofJson_eq_ok_iff {json : Json} (shallow : depth + 1 < Json.depthLimit) :
    ofJson depth json = .ok values ↔ ∃ members given, json = .object members none ∧
      List.Forall₂ Gives members given ∧ empty.assignAll given = values := by
  constructor
  · fun_cases ofJson depth json with
    | case1 => exact nofun
    | case2 => exact nofun
    | case3 members read added =>
        rintro ⟨⟩
        obtain ⟨given, gives, assigned⟩ := exists_of_addMembers shallow added
        exact ⟨members, given, rfl, gives, assigned⟩
    | case4 => exact nofun
  · rintro ⟨members, given, rfl, gives, rfl⟩
    simp only [ofJson, addMembers_of_gives shallow gives]

end Variables

end UriExpansion
