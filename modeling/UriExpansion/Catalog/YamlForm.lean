import UriExpansion.Binding.YamlForm
import UriExpansion.Catalog.Settings
import UriExpansion.Yaml.Document

/-!
The YAML form of a catalog: a sequence of settings, each of them a mapping that gives
the fields by their names.
-/

namespace UriExpansion.Settings

open Yaml (Node)

def yamlFields : List String :=
  ["alias", "description", "template", "fallback", "defaults"]

/-- Take the pairs that are fields, none of which may be given twice. -/
def takePairs? (given : List (String × Node)) : List (Node × Node) → Option (List (String × Node))
  | [] => some given
  | (key, value) :: rest =>
      match key.text? with
      | none => none
      | some name =>
          if !yamlFields.contains name then takePairs? given rest
          else if (given.lookup name).isSome then none
          else takePairs? ((name, value) :: given) rest

def givenFields? : Node → Option (List (String × Node))
  | .mapping pairs => takePairs? [] pairs
  | _ => none

/-- A text that any scalar gives, or none. -/
def fallbackOfYaml? (node : Node) : Option (Option String) :=
  if node.isAbsent then some none else node.text?.map some

/-- Read settings. The template is taken as it is. -/
def ofYaml? (node : Node) : Option Settings := do
  let given ← givenFields? node
  return {
    name := ← (given.lookup "alias").bind Node.text?
    description := ← (given.lookup "description").bind Node.text?
    template := ← (given.lookup "template").bind Node.text?
    fallback? := ← ((given.lookup "fallback").map fallbackOfYaml?).getD (some none)
    defaults := ← ((given.lookup "defaults").map Variables.ofYaml?).getD (some .empty) }

/-- Read the settings of a catalog. A text without a value holds none. -/
def listOfYaml? (text : String) : Option (List Settings) :=
  match Yaml.read? text with
  | none => none
  | some none => some []
  | some (some (.sequence items)) => items.mapM ofYaml?
  | some (some node) => if node.isMissing then some [] else none

end UriExpansion.Settings
