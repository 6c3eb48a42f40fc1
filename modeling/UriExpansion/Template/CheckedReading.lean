import UriExpansion.Percent.CheckedRuns
import UriExpansion.Template.Reading

/-!
Reading templates with a cursor, checked as it goes. The text stays whole: runs, bodies and
the texts of errors are slices of it, names are judged byte by byte, and the cases that are
taken to be excluded are faults.
-/

namespace UriExpansion

open Text Text.Checked

variable {ε : Type}

namespace VariableName

def percent : UInt8 :=
  '%'.toUInt8

def dot : UInt8 :=
  '.'.toUInt8

/-- Judge a dot, an escape or another byte of a name. What follows a dot is looked at without
asking whether anything does. -/
def checkedRound (bytes : List UInt8) (position : Nat) : Checked Unit Nat := do
  let byte ← byteAt bytes position
  if byte = percent then
    if Percent.startsWithEscape (bytes.drop position) then return position + 3 else refuse ()
  else if byte = dot then
    let next ← byteAt bytes (position + 1)
    if next = dot then refuse () else return position + 1
  else return position + 1

/-- Judge a name, whose first and last byte are looked at before the others. -/
def checkedIsValid (name : List Char) : Checked ε Bool :=
  let bytes := Utf8.encode name
  if bytes.isEmpty then return false
  else do
    let first ← byteAt bytes 0
    if first = dot then return false
    let last ← byteAt bytes (bytes.length - 1)
    if last = dot then return false
    match passAll bytes.length id (checkedRound bytes) 0 with
    | .ok _ => return true
    | .error (.refusal ()) => return false
    | .error (.fault found) => fault found

end VariableName

/-- Read the digits of a number that fits into a machine word, with a plus sign in front or
without. -/
def wordNumber? (text : List Char) : Option Nat :=
  let digits := if text.head? = some '+' then text.tail else text
  if digits.isEmpty || !digits.all Char.isDigit then none
  else if decimalNumber digits < UInt64.size then some (decimalNumber digits)
  else none

def Modifier.checkedRead : List Char → Checked InvalidReason Modifier
  | [] => return .plain
  | ['*'] => return .explode
  | ':' :: digits =>
      if digits.isEmpty || !digits.all Char.isDigit then refuse .invalidModifier
      else if 4 < Utf8.size digits then refuse .lengthOutOfRange
      else
        match wordNumber? digits with
        | none => fault .excluded
        | some length =>
            if 9999 < length then fault .excluded
            else
              match Modifier.upTo? length with
              | some modifier => return modifier
              | none => refuse .lengthOutOfRange
  | _ => refuse .invalidModifier

/-- Read a variable. Its text is split where its name ends. -/
def VarSpec.checkedRead (text : List Char) : Checked InvalidReason VarSpec := do
  let nameEnd := (find? (!VariableName.isNameChar ·) text).getD (Utf8.size text)
  let name ← slice text 0 nameEnd
  let modifier ← slice text nameEnd (Utf8.size text)
  if ← VariableName.checkedIsValid name then
    let modifier ← Modifier.checkedRead modifier
    return ⟨String.ofList name, modifier⟩
  else refuse .invalidName

def Expression.checkedRead (body : List Char) : Checked InvalidReason Expression :=
  let (operator, text) := splitOperator body
  if text.isEmpty then refuse .emptyExpression
  else do
    let specs ← (text.splitOn ',').mapM VarSpec.checkedRead
    match Expression.ofSpecs? operator specs with
    | some expression => return expression
    | none => fault .excluded

namespace Template

/-- How far a text has been read, and what has been found in it. -/
structure Scanner where
  position : Nat
  elements : List Element

namespace Scanner

def start : Scanner :=
  ⟨0, []⟩

/-- Take the text from the cursor on as a literal, unless nothing is left of it. -/
def pushLiteral (text : List Char) (scanner : Scanner) (stop : Nat) :
    Checked TemplateError Scanner :=
  if scanner.position < stop then do
    let run ← slice text scanner.position stop
    let encoded ← Percent.checkedEncodeRuns (NormalForm.nfc run)
    return ⟨stop, scanner.elements ++ [.literal (String.ofList encoded)]⟩
  else return { scanner with position := stop }

/-- Refuse what stands between two places. -/
def refuseSlice (text : List Char) (start stop : Nat) (reason : InvalidReason) :
    Checked TemplateError Scanner := do
  let shown ← slice text start stop
  refuse ⟨start, String.ofList shown, reason⟩

/-- Read the expression whose opening brace is at the cursor. -/
def pushExpression (text : List Char) (scanner : Scanner) : Checked TemplateError Scanner := do
  let start := scanner.position
  let behind ← slice text (start + 1) (Utf8.size text)
  match find? (· = '\x7d') behind with
  | none => refuseSlice text start (Utf8.size text) .unterminated
  | some length =>
      let body ← slice text (start + 1) (start + 1 + length)
      let stop := start + 1 + length + 1
      match Expression.checkedRead body with
      | .ok expression => return ⟨stop, scanner.elements ++ [.expression expression]⟩
      | .error (.refusal reason) => refuseSlice text start stop reason
      | .error (.fault found) => fault found

/-- Read up to the next opening brace and the expression behind it, or up to the end. -/
def round (text : List Char) (scanner : Scanner) : Checked TemplateError Scanner := do
  let ahead ← slice text scanner.position (Utf8.size text)
  match find? (· = '\x7b') ahead with
  | some offset =>
      let atBrace ← scanner.pushLiteral text (scanner.position + offset)
      atBrace.pushExpression text
  | none => scanner.pushLiteral text (Utf8.size text)

end Scanner

def checkedRead (text : String) : Checked TemplateError Template := do
  let scanner ← passAll (Utf8.size text.toList) Scanner.position (Scanner.round text.toList) .start
  return ⟨scanner.elements⟩

end Template

end UriExpansion
