import UriExpansion.Text.Digit

/-!
Tables that give a value to runs of code points. They are written down as text, kept
as an array of disjoint ranges in ascending order, and searched by halving.
-/

namespace UriExpansion.Text

/-- A run of code points that share a value. -/
structure CodeRange (α : Type) where
  first : Nat
  last : Nat
  value : α

structure RangeTable (α : Type) where
  ranges : Array (CodeRange α)

namespace RangeTable

variable {α : Type}

/-- Look for `code` among the ranges from `low` up to, but not including, `high`.
The first argument bounds the number of halvings. -/
def search (table : RangeTable α) (code : Nat) : Nat → Nat → Nat → Option α
  | 0, _, _ => none
  | fuel + 1, low, high =>
      if low < high then
        let middle := (low + high) / 2
        match table.ranges[middle]? with
        | none => none
        | some range =>
            if code < range.first then table.search code fuel low middle
            else if range.last < code then table.search code fuel (middle + 1) high
            else some range.value
      else none

def find? (table : RangeTable α) (code : Nat) : Option α :=
  table.search code (table.ranges.size + 1) 0 table.ranges.size

/-- A table with one range for each key, which must all be different. -/
def ofPairs (pairs : List (Nat × α)) : RangeTable α :=
  ⟨((pairs.mergeSort (fun left right => left.1 ≤ right.1)).map fun pair =>
    ⟨pair.1, pair.1, pair.2⟩).toArray⟩

end RangeTable

/-- The number that hexadecimal digits write. -/
def hexNumber (digits : List Char) : Nat :=
  numberInBase 16 digits

/-- Cut a text at the first occurrence of a character, which belongs to neither part. -/
def cutAt (separator : Char) (text : List Char) : List Char × List Char :=
  (text.takeWhile (· != separator), (text.dropWhile (· != separator)).drop 1)

/-- The entries of a table text: what stands before and after the colon of each. -/
def tableEntries (text : String) : List (List Char × List Char) :=
  (((text.toList.filter fun c => c != '\n' && c != ' ').splitOn ';').filter
    (!·.isEmpty)).map (cutAt ':')

/-- Read a table whose keys are single code points or ranges `A-B`, in ascending order. -/
def RangeTable.ofText {α : Type} (value : List Char → α) (text : String) : RangeTable α :=
  ⟨((tableEntries text).map fun (key, written) =>
    let (first, last) := cutAt '-' key
    ⟨hexNumber first, hexNumber (if last.isEmpty then first else last), value written⟩).toArray⟩

end UriExpansion.Text
