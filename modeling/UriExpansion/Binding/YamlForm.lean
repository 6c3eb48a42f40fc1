import UriExpansion.Binding.Variables
import UriExpansion.Yaml.Resolution

/-!
The YAML forms of values and variables. A text is a scalar that is taken for nothing
else, a list a sequence of such scalars and an associative list a mapping of them. In
variables a value that stands for none leaves a name without a value.
-/

namespace UriExpansion

open Yaml (Node)

namespace Value

def textPair? (pair : Node × Node) : Option (String × String) :=
  match pair.1.properText?, pair.2.properText? with
  | some key, some value => some (key, value)
  | _, _ => none

/-- The value whose form a node is. -/
def ofYaml? : Node → Option Value
  | .scalar isPlain content => (Node.scalar isPlain content).properText?.map .text
  | .sequence items => (items.mapM Node.properText?).map .list
  | .mapping pairs => (pairs.mapM textPair?).map .ofPairs

end Value

namespace Variables

/-- Give a name the value of a further pair. The name may be any scalar. -/
def addPair? (values : Variables) (pair : Node × Node) : Option Variables :=
  match pair.1.text? with
  | none => none
  | some name =>
      if pair.2.isAbsent then some (values.erase name)
      else (Value.ofYaml? pair.2).map (values.insert name)

/-- The variables whose form a node is; a missing value leaves all names without one. -/
def ofYaml? : Node → Option Variables
  | .mapping pairs => pairs.foldlM addPair? empty
  | node => if node.isMissing then some empty else none

end Variables

end UriExpansion
