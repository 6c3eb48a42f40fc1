import UriExpansion.Binding.Value

/-!
Variables and their values. The bindings are kept in the order of their names, so two
collections that bind every name alike are equal.
-/

namespace UriExpansion

structure Variables where
  bindings : List (String × Value)
  sorted : bindings.Pairwise fun left right => left.1 < right.1
  deriving DecidableEq, Repr

namespace Variables

def empty : Variables :=
  ⟨[], .nil⟩

/-- Give a name of a sorted list a value. -/
def insertBinding (name : String) (value : Value) :
    List (String × Value) → List (String × Value)
  | [] => [(name, value)]
  | binding :: rest =>
      if name < binding.1 then (name, value) :: binding :: rest
      else if name = binding.1 then (name, value) :: rest
      else binding :: insertBinding name value rest

theorem fst_mem_insertBinding {name other : String} {value : Value}
    {bindings : List (String × Value)} {binding : String × Value}
    (membership : binding ∈ insertBinding name value bindings)
    (afterName : other < name) (afterAll : ∀ earlier ∈ bindings, other < earlier.1) :
    other < binding.1 := by
  induction bindings with
  | nil => simp_all [insertBinding]
  | cons first rest inductionHypothesis =>
      rw [insertBinding] at membership
      split at membership
      · rcases List.mem_cons.mp membership with equality | inList
        · exact equality ▸ afterName
        · exact afterAll binding inList
      · split at membership
        · rcases List.mem_cons.mp membership with equality | inRest
          · exact equality ▸ afterName
          · exact afterAll binding (List.mem_cons_of_mem _ inRest)
        · rcases List.mem_cons.mp membership with equality | inRest
          · exact afterAll binding (equality ▸ List.mem_cons_self)
          · exact inductionHypothesis inRest fun earlier inTail =>
              afterAll earlier (List.mem_cons_of_mem _ inTail)

theorem sorted_insertBinding (name : String) (value : Value)
    {bindings : List (String × Value)}
    (sorted : bindings.Pairwise fun left right => left.1 < right.1) :
    (insertBinding name value bindings).Pairwise fun left right => left.1 < right.1 := by
  induction bindings with
  | nil => simp [insertBinding]
  | cons first rest inductionHypothesis =>
      have firstLeast := (List.pairwise_cons.mp sorted).1
      have restSorted := (List.pairwise_cons.mp sorted).2
      rw [insertBinding]
      split
      · rename_i before
        refine List.pairwise_cons.mpr ⟨fun binding membership => ?_, sorted⟩
        rcases List.mem_cons.mp membership with equality | inRest
        · exact equality ▸ before
        · exact String.lt_trans before (firstLeast binding inRest)
      · split
        · rename_i equality
          exact List.pairwise_cons.mpr ⟨fun binding membership =>
            equality ▸ firstLeast binding membership, restSorted⟩
        · rename_i notBefore different
          have afterFirst : first.1 < name :=
            Std.lt_of_le_of_ne (Std.not_lt.mp notBefore) (Ne.symm different)
          exact List.pairwise_cons.mpr ⟨fun binding membership =>
            fst_mem_insertBinding membership afterFirst firstLeast,
            inductionHypothesis restSorted⟩

def get? (values : Variables) (name : String) : Option Value :=
  values.bindings.lookup name

def contains (values : Variables) (name : String) : Bool :=
  (values.get? name).isSome

def size (values : Variables) : Nat :=
  values.bindings.length

def isEmpty (values : Variables) : Bool :=
  values.bindings.isEmpty

def insert (values : Variables) (name : String) (value : Value) : Variables :=
  ⟨insertBinding name value values.bindings,
    sorted_insertBinding name value values.sorted⟩

def erase (values : Variables) (name : String) : Variables :=
  ⟨values.bindings.filter fun binding => binding.1 ≠ name, values.sorted.filter _⟩

/-- Bind a name to a value, and tell the value it had before. -/
def insertReplacing (values : Variables) (name : String) (value : Value) :
    Option Value × Variables :=
  (values.get? name, values.insert name value)

/-- Leave a name without a value, and tell the value it had before. -/
def eraseReturning (values : Variables) (name : String) : Option Value × Variables :=
  (values.get? name, values.erase name)

def insertMany (values : Variables) (bindings : List (String × Value)) : Variables :=
  bindings.foldl (fun values (name, value) => values.insert name value) values

/-- The variables that a sequence of bindings makes; the last one of a name counts. -/
def ofBindings (bindings : List (String × Value)) : Variables :=
  empty.insertMany bindings

/-- Give a name a further text. A second text makes a list of the two; an associative
list is replaced. -/
def appendText (values : Variables) (name text : String) : Variables :=
  values.insert name (Value.appendText (values.get? name) text)

/-- Give a name a further pair. Any value but an associative list is replaced. -/
def insertMember (values : Variables) (name key value : String) : Variables :=
  values.insert name (Value.insertMember (values.get? name) key value)

/-- Bind every name that is not bound yet as `defaults` does. -/
def fillDefaults (values defaults : Variables) : Variables :=
  defaults.bindings.foldl (fun filled (name, value) =>
    if filled.contains name then filled else filled.insert name value) values

/-- Whether two collections bind the same names to the same values. -/
def same (left right : Variables) : Bool :=
  left.size = right.size && left.bindings.all fun (name, value) =>
    match right.get? name with
    | some other => value == other
    | none => false

instance : BEq Variables where
  beq := same

end Variables

end UriExpansion
