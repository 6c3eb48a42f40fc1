import UriExpansion.Percent.Encoding

/-!
The operators of template expressions. The operator of an expression is its first
character, or none, and decides how values are named, joined and encoded.
-/

namespace UriExpansion

inductive Operator where
  | simple
  | reserved
  | fragment
  | label
  | pathSegment
  | pathParameter
  | query
  | queryContinuation
  deriving DecidableEq, Repr

namespace Operator

/-- The operator that a character selects. -/
def ofChar? : Char → Option Operator
  | '+' => some reserved
  | '#' => some fragment
  | '.' => some label
  | '/' => some pathSegment
  | ';' => some pathParameter
  | '?' => some query
  | '&' => some queryContinuation
  | _ => none

/-- The character that selects an operator. -/
def char? : Operator → Option Char
  | simple => none
  | reserved => some '+'
  | fragment => some '#'
  | label => some '.'
  | pathSegment => some '/'
  | pathParameter => some ';'
  | query => some '?'
  | queryContinuation => some '&'

@[simp]
theorem ofChar?_eq_some_iff (c : Char) (operator : Operator) :
    ofChar? c = some operator ↔ operator.char? = some c := by
  constructor
  · intro selected
    unfold ofChar? at selected
    split at selected <;> cases selected <;> rfl
  · intro selecting
    cases operator <;> cases selecting <;> rfl

def first? : Operator → Option Char
  | simple | reserved => none
  | fragment => some '#'
  | label => some '.'
  | pathSegment => some '/'
  | pathParameter => some ';'
  | query => some '?'
  | queryContinuation => some '&'

def separator : Operator → Char
  | simple | reserved | fragment => ','
  | label => '.'
  | pathSegment => '/'
  | pathParameter => ';'
  | query | queryContinuation => '&'

/-- Whether a value is written with the name of its variable. -/
def named : Operator → Bool
  | pathParameter | query | queryContinuation => true
  | _ => false

def allowed : Operator → Allowed
  | reserved | fragment => .unreservedAndReserved
  | _ => .unreserved

/-- What follows the name of an empty value. -/
def ifEmpty? : Operator → Option Char
  | query | queryContinuation => some '='
  | _ => none

end Operator

end UriExpansion
