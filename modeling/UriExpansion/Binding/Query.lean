import UriExpansion.Binding.Variables

/-!
Variables from query parameters. A parameter `name[key]` gives the variable `name` a
pair; any other parameter gives the variable of its own name a text, and a repeated one
makes a list.
-/

namespace UriExpansion.Variables

/-- The name and the key of a parameter `name[key]`, neither of which is empty. -/
def memberOf? (parameter : String) : Option (String × String) :=
  let text := parameter.toList
  if text.getLast? = some ']' then
    let name := text.takeWhile (· ≠ '[')
    let key := ((text.dropWhile (· ≠ '[')).drop 1).dropLast
    if name.isEmpty || key.isEmpty then none else some (String.ofList name, String.ofList key)
  else none

/-- Take a parameter. -/
def addParameter (values : Variables) (parameter value : String) : Variables :=
  match memberOf? parameter with
  | some (name, key) => values.insertMember name key value
  | none => values.appendText parameter value

/-- The variables that query parameters bind. -/
def ofQuery (parameters : List (String × String)) : Variables :=
  parameters.foldl (fun values (parameter, value) => values.addParameter parameter value)
    empty

end UriExpansion.Variables
