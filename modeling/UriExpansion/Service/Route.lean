import UriExpansion.Percent.Form
import UriExpansion.Service.Message

/-!
What the target of a request asks for.
-/

namespace UriExpansion

/-- The parts of a target that count. -/
structure Target where
  path : List Char
  query : List Char
  deriving DecidableEq, Repr

namespace Target

def isSchemeChar (c : Char) : Bool :=
  c.isAlphanum || c = '+' || c = '-' || c = '.' || c = '~'

/-- A target without its scheme and its host, if it has these. -/
def withoutHost (text : List Char) : List Char :=
  match text.dropWhile isSchemeChar with
  | ':' :: '/' :: '/' :: rest =>
      match rest.dropWhile fun c => c ≠ '/' && c ≠ '?' with
      | '/' :: path => '/' :: path
      | behind => '/' :: behind
  | _ => text

/-- Read a target. A fragment does not count. -/
def read (text : String) : Target :=
  let counting := withoutHost (text.toList.takeWhile (· ≠ '#'))
  ⟨counting.takeWhile (· ≠ '?'), (counting.dropWhile (· ≠ '?')).drop 1⟩

end Target

/-- What a path leads to. -/
inductive Route where
  | list
  /-- The template whose alias is written at the end of the path. -/
  | template (name : List Char)
  | expand
  deriving DecidableEq, Repr

namespace Route

def ofPath? (path : List Char) : Option Route :=
  match path with
  | ['/'] => some list
  | '/' :: 't' :: '/' :: name =>
      if name.isEmpty || name.contains '/' then none else some (template name)
  | _ => if path = "/expand".toList then some expand else none

/-- Whether a route answers requests of a method. -/
def allows (route : Route) (method : String) : Bool :=
  match route with
  | list | template _ => method = "GET" || method = "HEAD"
  | expand => method = "POST"

end Route

end UriExpansion
