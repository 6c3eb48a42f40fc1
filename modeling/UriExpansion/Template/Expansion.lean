import UriExpansion.Template.Basic
import UriExpansion.Text.Grapheme
import UriExpansion.Binding.Variables

/-!
Expansion of templates. Every variable of an expression contributes named or unnamed
values, and the expression writes them one after the other, with the first character
of its operator in front and the separator in between. An expression to which no
variable contributes writes nothing.
-/

namespace UriExpansion

/-- An encoded value as an expression writes it, with its name if it has one. -/
structure Contribution where
  name? : Option String
  value : String
  deriving DecidableEq, Repr

/-- Write a value. A name is followed by `=` and the value, or by what the operator
puts behind the name of an empty value. -/
def Contribution.text (operator : Operator) (contribution : Contribution) : String :=
  match contribution.name? with
  | none => contribution.value
  | some name =>
      if contribution.value.isEmpty then name ++ String.ofList operator.ifEmpty?.toList
      else name ++ "=" ++ contribution.value

def Modifier.apply (modifier : Modifier) (text : String) : String :=
  match modifier with
  | .upTo length _ _ => String.ofList (Text.Grapheme.takeClusters length text.toList)
  | .plain | .explode => text

def Allowed.encodeJoined (allowed : Allowed) (items : List String) : String :=
  String.intercalate "," (items.map allowed.encode)

namespace VarSpec

/-- What a variable contributes when it is bound to `value`. -/
def contributionsOf (spec : VarSpec) (operator : Operator) (value : Value) :
    List Contribution :=
  let name? := if operator.named then some spec.name else none
  let encode := operator.allowed.encode
  match value with
  | .text text => [⟨name?, encode (spec.modifier.apply text)⟩]
  | .list items =>
      if spec.isExploded then items.map fun item => ⟨name?, encode item⟩
      else [⟨name?, operator.allowed.encodeJoined items⟩]
  | .associative list =>
      if list.isEmpty then []
      else if spec.isExploded then
        list.pairs.map fun (key, member) => ⟨some (encode key), encode member⟩
      else
        [⟨name?, operator.allowed.encodeJoined
          (list.pairs.flatMap fun (key, member) => [key, member])⟩]

/-- What a variable contributes; nothing if it is not bound. -/
def contributions (spec : VarSpec) (operator : Operator) (values : Variables) :
    List Contribution :=
  match values.get? spec.name with
  | none => []
  | some value => spec.contributionsOf operator value

end VarSpec

namespace Expression

/-- Write a further value behind what an expression has written so far, if anything. -/
def write (operator : Operator) (written? : Option String) (contribution : Contribution) :
    Option String :=
  match written? with
  | none => some (String.ofList operator.first?.toList ++ contribution.text operator)
  | some written =>
      some (written ++ String.singleton operator.separator ++ contribution.text operator)

/-- Write the values of a further variable. -/
def writeSpec (operator : Operator) (values : Variables) (written? : Option String)
    (spec : VarSpec) : Option String :=
  (spec.contributions operator values).foldl (write operator) written?

def expand (expression : Expression) (values : Variables) : String :=
  (expression.specs.foldl (writeSpec expression.operator values) none).getD ""

end Expression

def Element.expand (values : Variables) : Element → String
  | .literal text => text
  | .expression body => body.expand values

/-- The expansion of a template, which is defined for all variables. -/
def Template.expand (template : Template) (values : Variables) : String :=
  template.elements.foldl (fun output element => output ++ element.expand values) ""

end UriExpansion
