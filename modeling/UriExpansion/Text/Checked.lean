import UriExpansion.Text.Utf8

/-!
Reading with a cursor that counts bytes, checked as it goes. A checked reader stops as soon
as it would cut a character in two, look behind the end of a text, or come to a case that it
takes to be excluded, and it tells such a fault from the refusal of a text that is not well
formed.
-/

namespace UriExpansion.Text

/-- What a reader must never meet. -/
inductive Fault where
  /-- A part of a text that does not begin and end between two of its characters. -/
  | slice
  /-- A byte behind the end. -/
  | index
  /-- A round of a loop that does not move the cursor forward, or moves it past the end. -/
  | cursor
  /-- A case that what has been checked before excludes. -/
  | excluded
  deriving DecidableEq, Repr

/-- Why a checked reader stops. -/
inductive Stop (ε : Type) where
  | fault (fault : Fault)
  | refusal (reason : ε)
  deriving DecidableEq, Repr

abbrev Checked (ε α : Type) := Except (Stop ε) α

namespace Checked

variable {ε α σ : Type}

def fault (fault : Fault) : Checked ε α :=
  .error (.fault fault)

def refuse (reason : ε) : Checked ε α :=
  .error (.refusal reason)

/-- Take a text apart behind so many bytes, if a character ends there. -/
def splitBytes? (count : Nat) : List Char → Option (List Char × List Char)
  | [] => if count = 0 then some ([], []) else none
  | c :: rest =>
      if count = 0 then some ([], c :: rest)
      else if c.utf8Size ≤ count then
        (splitBytes? (count - c.utf8Size) rest).map fun (front, behind) => (c :: front, behind)
      else none

/-- The part of a text between two places, which are given by the bytes in front of them. -/
def slice (text : List Char) (start stop : Nat) : Checked ε (List Char) :=
  match splitBytes? stop text with
  | none => fault .slice
  | some (front, _) =>
      match splitBytes? start front with
      | none => fault .slice
      | some (_, part) => .ok part

/-- The place of the first character that is sought. -/
def find? (isSought : Char → Bool) (text : List Char) : Option Nat :=
  if text.any isSought then some (Utf8.size (text.takeWhile (!isSought ·))) else none

def byteAt (bytes : List UInt8) (position : Nat) : Checked ε UInt8 :=
  match bytes[position]? with
  | none => fault .index
  | some byte => .ok byte

/-- Go on round by round until the cursor has come to the end. Every round has to move it
forward, and not past the end. -/
def passAll (size : Nat) (position : σ → Nat) (round : σ → Checked ε σ) (state : σ) :
    Checked ε σ :=
  if position state < size then
    match round state with
    | .error stop => .error stop
    | .ok next =>
        if position state < position next ∧ position next ≤ size then
          passAll size position round next
        else fault .cursor
  else .ok state
termination_by size - position state
decreasing_by omega

end Checked

end UriExpansion.Text
