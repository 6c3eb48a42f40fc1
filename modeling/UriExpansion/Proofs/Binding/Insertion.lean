import Mathlib.Data.Finset.Card
import UriExpansion.Proofs.Binding.Event
import UriExpansion.Proofs.Binding.JsonForm
import UriExpansion.Proofs.Json.Writing

/-!
Insertion into associative lists. What a run of insertions leaves is told by the pairs that the
run began with and those that it inserted, and every way of building a list from pairs is such
a run.
-/

namespace UriExpansion

namespace AssociativeList

/-- Insert pairs one after the other: the value that the key of each of them had before, and
the list that is left. -/
def insertEach (list : AssociativeList) :
    List (String × String) → List (Option String) × AssociativeList
  | [] => ([], list)
  | pair :: rest =>
      let (replaced?, extended) := list.insertReplacing pair.1 pair.2
      let (later, last) := extended.insertEach rest
      (replaced? :: later, last)

theorem insertEach_append (list : AssociativeList) (earlier later : List (String × String)) :
    list.insertEach (earlier ++ later) =
      ((list.insertEach earlier).1 ++ ((list.insertEach earlier).2.insertEach later).1,
        ((list.insertEach earlier).2.insertEach later).2) := by
  induction earlier generalizing list with
  | nil => rfl
  | cons pair rest inductionHypothesis =>
      simp only [List.cons_append, insertEach, inductionHypothesis]

theorem length_insertEach (list : AssociativeList) (pairs : List (String × String)) :
    (list.insertEach pairs).1.length = pairs.length := by
  induction pairs generalizing list with
  | nil => rfl
  | cons pair rest inductionHypothesis =>
      simp only [insertEach, List.length_cons, inductionHypothesis]

theorem insertEach_eq_insertMany (list : AssociativeList) (pairs : List (String × String)) :
    (list.insertEach pairs).2 = list.insertMany pairs := by
  induction pairs generalizing list with
  | nil => rfl
  | cons pair rest inductionHypothesis => exact inductionHypothesis (list.insert pair.1 pair.2)

namespace IsBuiltFrom

variable {list : AssociativeList} {pairs : List (String × String)}

/-- A run goes on building where the pairs before it have stopped. -/
theorem insertEach (built : list.IsBuiltFrom pairs) (later : List (String × String)) :
    (list.insertEach later).2.IsBuiltFrom (pairs ++ later) := by
  induction later generalizing list pairs with
  | nil =>
      rw [List.append_nil]
      exact built
  | cons pair rest inductionHypothesis =>
      have next := inductionHypothesis (built.insert pair.1 pair.2)
      rwa [List.append_assoc, List.singleton_append] at next

theorem size_eq (built : list.IsBuiltFrom pairs) :
    list.size = (pairs.map Prod.fst).toFinset.card := by
  have sameKeys : (pairs.map Prod.fst).toFinset = (list.pairs.map Prod.fst).toFinset := by
    ext key
    rw [List.mem_toFinset, List.mem_toFinset, built.keys, List.mem_eraseDups]
  rw [sameKeys, List.toFinset_card_of_nodup list.distinct, List.length_map, size]

theorem mem_keys_iff (built : list.IsBuiltFrom pairs) {key : String} :
    key ∈ list.pairs.map Prod.fst ↔ key ∈ pairs.map Prod.fst := by
  rw [built.keys, List.mem_eraseDups]

end IsBuiltFrom

/-- An insertion tells the value that its key was given last, by the run or before it. -/
theorem getElem?_insertEach (start : AssociativeList) (earlier later : List (String × String))
    (key value : String) :
    (start.insertEach (earlier ++ (key, value) :: later)).1[earlier.length]? =
      some ((start.pairs ++ earlier).reverse.lookup key) := by
  have before := ((IsBuiltFrom.self start).insertEach earlier).values key
  rw [insertEach_append, List.getElem?_append_right (Nat.le_of_eq (length_insertEach start earlier)),
    length_insertEach, Nat.sub_self, ← before]
  rfl

/-- A key that is there keeps its place, as do all others. -/
theorem map_fst_insertEach_concat (start : AssociativeList) (earlier : List (String × String))
    (key value : String) :
    (start.insertEach (earlier ++ [(key, value)])).2.pairs.map Prod.fst =
      if key ∈ (start.pairs ++ earlier).map Prod.fst then
        (start.insertEach earlier).2.pairs.map Prod.fst
      else (start.insertEach earlier).2.pairs.map Prod.fst ++ [key] := by
  have step : (start.insertEach (earlier ++ [(key, value)])).2.pairs =
      insertPair key value (start.insertEach earlier).2.pairs := by
    rw [insertEach_append]
    rfl
  simp only [step, map_fst_insertPair, ((IsBuiltFrom.self start).insertEach earlier).mem_keys_iff]

end AssociativeList

namespace Variables

open QueryEvent (eventsFor ofParameter)

variable {name : String} {pairs : List (String × String)}

/-- The parameters that give a name pairs. -/
def memberParameters (name : String) (pairs : List (String × String)) : List (String × String) :=
  pairs.map fun pair => (name ++ "[" ++ pair.1 ++ "]", pair.2)

theorem eventsFor_memberParameters (named : name ≠ "") (noOpening : '[' ∉ name.toList)
    (keyed : ∀ pair ∈ pairs, pair.1 ≠ "") :
    eventsFor name (memberParameters name pairs) =
      pairs.map fun (key, value) => .member key value := by
  have events : (memberParameters name pairs).map ofParameter =
      pairs.map fun pair => (name, .member pair.1 pair.2) := by
    rw [memberParameters, List.map_map]
    refine List.map_congr_left fun pair membership => ?_
    exact QueryEvent.ofParameter_member_iff.mpr ⟨rfl, noOpening, named, keyed pair membership⟩
  have ofName : ∀ event ∈ pairs.map fun pair => (name, QueryEvent.member pair.1 pair.2),
      decide (event.1 = name) = true := by
    rw [List.forall_mem_map]
    exact fun _ _ => decide_eq_true rfl
  rw [eventsFor, events, List.filter_eq_self.mpr ofName, List.map_map]
  rfl

theorem get?_ofQuery_memberParameters (named : name ≠ "") (noOpening : '[' ∉ name.toList)
    (keyed : ∀ pair ∈ pairs, pair.1 ≠ "") :
    (ofQuery (memberParameters name pairs)).get? name =
      if pairs = [] then none else some (.associative (.ofPairs pairs)) := by
  have members : ∀ event ∈ pairs.map fun (key, value) => QueryEvent.member key value,
      event.isMember = true := by
    rw [List.forall_mem_map]
    exact fun _ _ => rfl
  rw [get?_ofQuery_eq_iff, eventsFor_memberParameters named noOpening keyed,
    QueryEvent.lastRun_of_forall members]
  split
  next absent =>
    subst absent
    exact .nothing
  next present => exact .associative present (.ofPairs pairs)

end Variables

namespace AssociativeList

/-- A list comes to the same whichever way pairs build it, and no run of insertions loses or
moves a key. -/
theorem ofPairs_every_way :
    (∀ pairs : List (String × String),
      (ofPairs pairs).IsBuiltFrom pairs ∧
      ((ofPairs pairs).pairs.map Prod.fst).Nodup ∧
      (empty.insertEach pairs).2 = ofPairs pairs ∧
      Value.ofPairs pairs = .associative (ofPairs pairs) ∧
      (∀ text, Json.Holds text
          (.object (pairs.map fun pair => (.ok pair.1, .string (.ok pair.2))) none) →
        Json.decode (Value.ofJson 0) text = .ok (.associative (ofPairs pairs))) ∧
      ∀ name, name ≠ "" → '[' ∉ name.toList → (∀ pair ∈ pairs, pair.1 ≠ "") →
        (Variables.ofQuery (Variables.memberParameters name pairs)).get? name =
          if pairs = [] then none else some (.associative (ofPairs pairs))) ∧
    (∀ start pairs,
      (insertEach start pairs).2.IsBuiltFrom (start.pairs ++ pairs) ∧
      (start.insertEach pairs).2.size = ((start.pairs ++ pairs).map Prod.fst).toFinset.card) ∧
    ∀ start earlier later key value,
      (insertEach start (earlier ++ (key, value) :: later)).1[earlier.length]? =
        some ((start.pairs ++ earlier).reverse.lookup key) ∧
      (key ∈ (start.pairs ++ earlier).map Prod.fst →
        (start.insertEach (earlier ++ [(key, value)])).2.pairs.map Prod.fst =
          (start.insertEach earlier).2.pairs.map Prod.fst) := by
  refine ⟨?_, ?_, ?_⟩
  · intro pairs
    refine ⟨.ofPairs pairs, (ofPairs pairs).distinct, insertEach_eq_insertMany empty pairs, rfl,
      ?_, ?_⟩
    · intro text holds
      have shallow : 0 < Json.depthLimit := by decide
      have read := (Value.ofJson_eq_ok_iff shallow).mpr (.associative pairs)
      exact Json.decode_eq_ok_iff.mpr ⟨_, holds, read⟩
    · intro name named noOpening keyed
      exact Variables.get?_ofQuery_memberParameters named noOpening keyed
  · intro start pairs
    have built := (IsBuiltFrom.self start).insertEach pairs
    exact ⟨built, built.size_eq⟩
  · intro start earlier later key value
    refine ⟨getElem?_insertEach start earlier later key value, fun known => ?_⟩
    rw [map_fst_insertEach_concat, if_pos known]

/-- A key that comes again, in an object, in parameters and in a run of insertions. -/
theorem ofPairs_every_way_repeated :
    Json.decode (Value.ofJson 0) "\x7b\"a\":\"1\",\"b\":\"2\",\"a\":\"3\"\x7d" =
      .ok (.ofPairs [("a", "3"), ("b", "2")]) ∧
    (Variables.ofQuery [("x[a]", "1"), ("x[b]", "2"), ("x[a]", "3")]).get? "x" =
      some (.ofPairs [("a", "3"), ("b", "2")]) ∧
    (empty.insertEach [("a", "1"), ("b", "2"), ("a", "3")]).1[2]? = some (some "1") := by
  obtain ⟨everyWay, -, runs⟩ := ofPairs_every_way
  obtain ⟨-, -, -, -, decoded, queried⟩ := everyWay [("a", "1"), ("b", "2"), ("a", "3")]
  have sameList : ofPairs [("a", "1"), ("b", "2"), ("a", "3")] = ofPairs [("a", "3"), ("b", "2")] := by
    decide
  rw [sameList] at decoded queried
  refine ⟨?_, ?_, ?_⟩
  · have written : "\x7b\"a\":\"1\",\"b\":\"2\",\"a\":\"3\"\x7d" = Json.objectText
        [("a", Json.stringText "1"), ("b", Json.stringText "2"), ("a", Json.stringText "3")] := by
      decide
    rw [written]
    apply decoded
    apply Json.holds_objectText
    exact .cons ((Json.holds_stringText "1").member "a")
      (.cons ((Json.holds_stringText "2").member "b")
        (.cons ((Json.holds_stringText "3").member "a") .nil))
  · exact queried "x" (by decide) (by decide) (by decide)
  · exact (runs empty [("a", "1"), ("b", "2")] [] "a" "3").1

end AssociativeList

end UriExpansion
