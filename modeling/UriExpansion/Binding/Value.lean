import UriExpansion.Binding.AssociativeList

/-!
Values that a variable may be bound to.
-/

namespace UriExpansion

inductive Value where
  | text (text : String)
  | list (items : List String)
  | associative (pairs : AssociativeList)
  deriving DecidableEq, Repr

namespace Value

def ofPairs (pairs : List (String × String)) : Value :=
  .associative (.ofPairs pairs)

/-- Whether two values are the same binding: of associative lists only the pairs count. -/
def same : Value → Value → Bool
  | .text left, .text right => left = right
  | .list left, .list right => left = right
  | .associative left, .associative right => left == right
  | _, _ => false

instance : BEq Value where
  beq := same

/-- The value of a variable that gets a further text. -/
def appendText : Option Value → String → Value
  | some (.text first), further => .list [first, further]
  | some (.list items), further => .list (items ++ [further])
  | none, further | some (.associative _), further => .text further

/-- The value of a variable that gets a further pair. -/
def insertMember : Option Value → String → String → Value
  | some (.associative pairs), key, value => .associative (pairs.insert key value)
  | _, key, value => .associative (AssociativeList.empty.insert key value)

end Value

end UriExpansion
