/-!
Ordered pairs of a key and a value with different keys. A key that is inserted again
gets its new value in its old place.

Two lists are the same binding if they hold the same pairs, in whatever order; the
order still shows when the list is expanded.
-/

namespace UriExpansion

structure AssociativeList where
  pairs : List (String × String)
  distinct : (pairs.map Prod.fst).Nodup
  deriving DecidableEq, Repr

namespace AssociativeList

def empty : AssociativeList :=
  ⟨[], by simp⟩

/-- Give a key of a list of pairs a value, at the end if it is new. -/
def insertPair (key value : String) : List (String × String) → List (String × String)
  | [] => [(key, value)]
  | pair :: rest =>
      if pair.1 = key then (key, value) :: rest else pair :: insertPair key value rest

theorem fst_mem_insertPair {key value name : String} {pairs : List (String × String)}
    (membership : name ∈ (insertPair key value pairs).map Prod.fst) :
    name = key ∨ name ∈ pairs.map Prod.fst := by
  induction pairs with
  | nil => simpa [insertPair] using membership
  | cons pair rest inductionHypothesis =>
      by_cases same : pair.1 = key
      · rw [insertPair, if_pos same, List.map_cons, List.mem_cons] at membership
        rcases membership with equality | inRest
        · exact .inl equality
        · exact .inr (List.mem_cons_of_mem _ inRest)
      · rw [insertPair, if_neg same, List.map_cons, List.mem_cons] at membership
        rcases membership with equality | inRest
        · exact .inr (equality ▸ List.mem_cons_self)
        · exact (inductionHypothesis inRest).imp_right (List.mem_cons_of_mem _)

theorem nodup_insertPair (key value : String) {pairs : List (String × String)}
    (distinct : (pairs.map Prod.fst).Nodup) :
    ((insertPair key value pairs).map Prod.fst).Nodup := by
  induction pairs with
  | nil => simp [insertPair]
  | cons pair rest inductionHypothesis =>
      rw [List.map_cons, List.nodup_cons] at distinct
      by_cases same : pair.1 = key
      · rw [insertPair, if_pos same, List.map_cons, List.nodup_cons]
        exact ⟨same ▸ distinct.1, distinct.2⟩
      · rw [insertPair, if_neg same, List.map_cons, List.nodup_cons]
        refine ⟨fun membership => ?_, inductionHypothesis distinct.2⟩
        rcases fst_mem_insertPair membership with equality | inRest
        · exact same equality
        · exact distinct.1 inRest

def insert (list : AssociativeList) (key value : String) : AssociativeList :=
  ⟨insertPair key value list.pairs, nodup_insertPair key value list.distinct⟩

def get? (list : AssociativeList) (key : String) : Option String :=
  list.pairs.lookup key

/-- Give a key a value, and tell the value it had before. -/
def insertReplacing (list : AssociativeList) (key value : String) :
    Option String × AssociativeList :=
  (list.get? key, list.insert key value)

def size (list : AssociativeList) : Nat :=
  list.pairs.length

def isEmpty (list : AssociativeList) : Bool :=
  list.pairs.isEmpty

def insertMany (list : AssociativeList) (pairs : List (String × String)) : AssociativeList :=
  pairs.foldl (fun list (key, value) => list.insert key value) list

/-- The list that a sequence of pairs builds. -/
def ofPairs (pairs : List (String × String)) : AssociativeList :=
  empty.insertMany pairs

/-- Whether two lists hold the same pairs, in any order. -/
def samePairs (left right : AssociativeList) : Bool :=
  left.size = right.size && left.pairs.all fun (key, value) => right.get? key = some value

instance : BEq AssociativeList where
  beq := samePairs

end AssociativeList

end UriExpansion
