import UriExpansion.Template.Basic
import UriExpansion.Template.Name

/-!
Reading templates. The text is cut at braces into literals and expressions; a closing
brace outside an expression is literal text. The first expression that is not well
formed, from left to right, is the one reported.
-/

namespace UriExpansion

inductive InvalidReason where
  | emptyExpression
  | unterminated
  | invalidName
  | invalidModifier
  | lengthOutOfRange
  deriving DecidableEq, Repr

def InvalidReason.message : InvalidReason → String
  | emptyExpression => "expression has no variables"
  | unterminated => "missing closing '\x7d'"
  | invalidName => "invalid variable name"
  | invalidModifier => "invalid modifier"
  | lengthOutOfRange => "prefix length must be between 1 and 9999"

/-- The first expression that is not well formed. -/
structure TemplateError where
  /-- The number of bytes in front of its opening brace. -/
  position : Nat
  /-- The expression with its braces. -/
  text : String
  reason : InvalidReason
  deriving DecidableEq, Repr

def TemplateError.message (error : TemplateError) : String :=
  "Invalid expression '" ++ error.text ++ "' at position "
    ++ String.ofList (Nat.toDigits 10 error.position) ++ ": " ++ error.reason.message

namespace Template

inductive Piece where
  | literal (text : List Char)
  /-- The text between two braces. -/
  | braced (body : List Char)
  /-- The text behind a brace that is never closed. -/
  | unclosed (body : List Char)
  deriving DecidableEq, Repr

/-- The literal of a reversed run of characters, unless the run is empty. -/
def Piece.ofRun (run : List Char) : List Piece :=
  if run.isEmpty then [] else [.literal run.reverse]

/-- Cut a text behind the characters of `run`, which is reversed and stands behind an
opening brace if `inside` says so. -/
def cutFrom (inside : Bool) (run : List Char) : List Char → List Piece
  | [] => if inside then [.unclosed run.reverse] else Piece.ofRun run
  | c :: rest =>
      if inside then
        if c = '\x7d' then .braced run.reverse :: cutFrom false [] rest
        else cutFrom true (c :: run) rest
      else
        if c = '\x7b' then Piece.ofRun run ++ cutFrom true [] rest
        else cutFrom false (c :: run) rest

def pieces (text : List Char) : List Piece :=
  cutFrom false [] text

end Template

def decimalNumber (digits : List Char) : Nat :=
  Nat.ofDigitChars 10 digits 0

def Modifier.read : List Char → Except InvalidReason Modifier
  | [] => .ok .plain
  | ['*'] => .ok .explode
  | ':' :: digits =>
      if digits.isEmpty || !digits.all Char.isDigit then .error .invalidModifier
      else if 4 < digits.length then .error .lengthOutOfRange
      else
        match Modifier.upTo? (decimalNumber digits) with
        | some modifier => .ok modifier
        | none => .error .lengthOutOfRange
  | _ => .error .invalidModifier

/-- Read `name`, `name*` or `name:length`. The name is as long as it can be. -/
def VarSpec.read (text : List Char) : Except InvalidReason VarSpec :=
  let name := text.takeWhile VariableName.isNameChar
  if VariableName.isValid name then
    (Modifier.read (text.dropWhile VariableName.isNameChar)).map fun modifier =>
      ⟨String.ofList name, modifier⟩
  else .error .invalidName

/-- Read the variables of an expression, all of which must be well formed. -/
def VarSpec.readAll : List (List Char) → Except InvalidReason (List VarSpec)
  | [] => .ok []
  | text :: rest =>
      match VarSpec.read text, VarSpec.readAll rest with
      | .error reason, _ => .error reason
      | .ok _, .error reason => .error reason
      | .ok spec, .ok specs => .ok (spec :: specs)

/-- The operator of an expression and the text of its variables. -/
def Expression.splitOperator (body : List Char) : Operator × List Char :=
  match body with
  | [] => (.simple, [])
  | c :: rest =>
      match Operator.ofChar? c with
      | some operator => (operator, rest)
      | none => (.simple, body)

def Expression.read (body : List Char) : Except InvalidReason Expression :=
  let (operator, text) := splitOperator body
  if text.isEmpty then .error .emptyExpression
  else
    match VarSpec.readAll (text.splitOn ',') with
    | .error reason => .error reason
    | .ok specs =>
        match Expression.ofSpecs? operator specs with
        | some expression => .ok expression
        | none => .error .emptyExpression

namespace Template

/-- Read pieces that stand behind `position` bytes. -/
def readPieces (position : Nat) : List Piece → Except TemplateError (List Element)
  | [] => .ok []
  | .literal text :: rest =>
      match readPieces (position + Text.Utf8.size text) rest with
      | .error error => .error error
      | .ok elements =>
          let encoded := Allowed.unreservedAndReserved.encodeChars text
          .ok (.literal (String.ofList encoded) :: elements)
  | .braced body :: rest =>
      match Expression.read body with
      | .error reason =>
          .error ⟨position, String.ofList ('\x7b' :: body ++ ['\x7d']), reason⟩
      | .ok expression =>
          match readPieces (position + Text.Utf8.size body + 2) rest with
          | .error error => .error error
          | .ok elements => .ok (.expression expression :: elements)
  | .unclosed body :: _ => .error ⟨position, String.ofList ('\x7b' :: body), .unterminated⟩

def read (text : String) : Except TemplateError Template :=
  match readPieces 0 (pieces text.toList) with
  | .error error => .error error
  | .ok elements => .ok ⟨elements⟩

/-- Read a template that is known to be well formed or else of no use. -/
def read? (text : String) : Option Template :=
  (read text).toOption

end Template

end UriExpansion
