import UriExpansion.Yaml.Node

/-!
YAML texts with at most one document. Directives may stand in front of a document only
if its start is marked.
-/

namespace UriExpansion.Yaml

def readContent? (tokens : List Token) : Option (Node × List Token) :=
  Node.read (4 * (tokens.length + 1)) true false tokens

/-- Read the value behind the marker of a start, which may be missing. -/
def readMarkedContent? : List Token → Option (Node × List Token)
  | [] => some (.missing, [])
  | .documentEnd :: rest => some (.missing, .documentEnd :: rest)
  | tokens => readContent? tokens

/-- The only document that tokens make up, without which there are none. -/
def document? (tokens : List Token) : Option (Option Node) :=
  let content? :=
    match tokens with
    | .directive :: .documentStart :: rest | .documentStart :: rest => readMarkedContent? rest
    | _ => readContent? tokens
  match tokens, content? with
  | [], _ => some none
  | _, none => none
  | _, some (node, rest) => if rest.all (· = .documentEnd) then some (some node) else none

/-- Read a text with at most one document; nothing is told about what is wrong with a
text that cannot be read. -/
def read? (text : String) : Option (Option Node) :=
  (tokens? text.toList).bind document?

end UriExpansion.Yaml
