import UriExpansion.Template.Operator

/-!
Templates and their canonical text. A template is a list of literals and expressions,
an expression an operator with at least one variable, and a variable a name with at
most one modifier.

A prefix modifier holds a length from 1 to 9999, and no variable is both exploded and
cut to a prefix: neither can be written down here.
-/

namespace UriExpansion

/-- How the value of a variable is taken. -/
inductive Modifier where
  /-- As it is. -/
  | plain
  /-- Item by item, `*`. -/
  | explode
  /-- Only the first characters of a text, `:length`. -/
  | upTo (length : Nat) (positive : 1 ≤ length) (bounded : length ≤ 9999)
  deriving DecidableEq, Repr

namespace Modifier

def upTo? (length : Nat) : Option Modifier :=
  if admissible : 1 ≤ length ∧ length ≤ 9999 then
    some (.upTo length admissible.1 admissible.2)
  else none

/-- The modifier as it is written behind a name. -/
def text : Modifier → String
  | plain => ""
  | explode => "*"
  | upTo length _ _ => ":" ++ String.ofList (Nat.toDigits 10 length)

end Modifier

/-- A variable inside an expression. -/
structure VarSpec where
  name : String
  modifier : Modifier
  deriving DecidableEq, Repr

namespace VarSpec

def ofName (name : String) : VarSpec :=
  ⟨name, .plain⟩

def exploded (spec : VarSpec) : VarSpec :=
  { spec with modifier := .explode }

/-- The same variable, cut to a prefix of an admissible length. -/
def withMaxLength? (spec : VarSpec) (length : Nat) : Option VarSpec :=
  (Modifier.upTo? length).map fun modifier => { spec with modifier }

def isExploded (spec : VarSpec) : Bool :=
  spec.modifier = .explode

/-- The greatest number of characters that a text contributes. -/
def maxLength? (spec : VarSpec) : Option Nat :=
  match spec.modifier with
  | .upTo length _ _ => some length
  | _ => none

def text (spec : VarSpec) : String :=
  spec.name ++ spec.modifier.text

end VarSpec

structure Expression where
  operator : Operator
  specs : List VarSpec
  specs_ne_nil : specs ≠ []
  deriving DecidableEq, Repr

namespace Expression

/-- The expression of the given variables, of which there must be one. -/
def ofSpecs? (operator : Operator) (specs : List VarSpec) : Option Expression :=
  if nonempty : specs ≠ [] then some ⟨operator, specs, nonempty⟩ else none

/-- The expression as it is written, without braces. -/
def text (expression : Expression) : String :=
  String.ofList expression.operator.char?.toList
    ++ String.intercalate "," (expression.specs.map VarSpec.text)

end Expression

inductive Element where
  /-- Text that is encoded already and part of every expansion. -/
  | literal (text : String)
  | expression (body : Expression)
  deriving DecidableEq, Repr

namespace Element

def text : Element → String
  | .literal text => text
  | .expression body => "\x7b" ++ body.text ++ "\x7d"

def specs : Element → List VarSpec
  | .literal _ => []
  | .expression body => body.specs

end Element

structure Template where
  elements : List Element
  deriving DecidableEq, Repr

namespace Template

def text (template : Template) : String :=
  String.join (template.elements.map Element.text)

/-- The variables of all expressions, in the order in which they stand. -/
def specs (template : Template) : List VarSpec :=
  template.elements.flatMap Element.specs

/-- The names of the variables, each as often as it stands in the template. -/
def variableNames (template : Template) : List String :=
  template.specs.map VarSpec.name

end Template

end UriExpansion
