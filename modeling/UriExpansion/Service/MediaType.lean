/-!
Media types of request bodies. A type is written as `type/subtype`, perhaps with
parameters behind semicolons; a subtype may name the format that it builds on behind a
plus sign.
-/

namespace UriExpansion

/-- A media type in lowercase. -/
structure MediaType where
  type : List Char
  subtype : List Char
  deriving DecidableEq, Repr

namespace MediaType

def isTokenChar (c : Char) : Bool :=
  c.isAlphanum || "!#$%&'*+-.^_`|~".toList.contains c

def isQuotedChar (c : Char) : Bool :=
  0x20 ≤ c.toNat && c.toNat < 0x7F

/-- A place in the parameters of a type. -/
inductive Place where
  /-- In front of a name, of which nothing has been read. -/
  | beforeName
  | inName
  /-- Behind the `=`. -/
  | beforeValue
  | inValue
  /-- Behind an opening quote. -/
  | quoteOpened
  | inQuotes
  /-- Behind a closing quote. -/
  | quoteClosed
  deriving DecidableEq, Repr

namespace Place

/-- Read a character of parameters, unless it may not stand there. -/
def read? (place : Place) (c : Char) : Option Place :=
  match place with
  | beforeName => if c = ' ' then some beforeName else if isTokenChar c then some inName else none
  | inName => if isTokenChar c then some inName else if c = '=' then some beforeValue else none
  | beforeValue =>
      if c = '"' then some quoteOpened else if isTokenChar c then some inValue else none
  | inValue => if isTokenChar c then some inValue else if c = ';' then some beforeName else none
  | quoteOpened => if isQuotedChar c then some inQuotes else none
  | inQuotes =>
      if c = '"' then some quoteClosed else if isQuotedChar c then some inQuotes else none
  | quoteClosed =>
      if c = ' ' then some quoteClosed else if c = ';' then some beforeName else none

def mayEnd : Place → Bool
  | beforeName | beforeValue | inValue | quoteClosed => true
  | inName | quoteOpened | inQuotes => false

end Place

def areParameters (text : List Char) : Bool :=
  ((text.foldlM Place.read? Place.beforeName).map Place.mayEnd).getD false

def read? (text : String) : Option MediaType :=
  let type := text.toList.takeWhile isTokenChar
  match text.toList.dropWhile isTokenChar with
  | '/' :: rest =>
      let subtype := rest.takeWhile isTokenChar
      let read : MediaType := ⟨type.map Char.toLower, subtype.map Char.toLower⟩
      if type.isEmpty then none
      else
        match rest.dropWhile isTokenChar with
        | [] => some read
        | ';' :: parameters =>
            if !subtype.isEmpty && areParameters parameters then some read else none
        | _ => none
  | _ => none

/-- What stands behind the last plus sign of a subtype that does not start with it, and
what stands in front of it. -/
def splitFormat (subtype : List Char) : List Char × Option (List Char) :=
  let format := (subtype.reverse.takeWhile (· ≠ '+')).reverse
  let name := subtype.take (subtype.length - format.length - 1)
  if name.isEmpty then (subtype, none) else (name, some format)

def isJson (mediaType : MediaType) : Bool :=
  let (name, format?) := splitFormat mediaType.subtype
  mediaType.type = "application".toList && (name = "json".toList || format? = some "json".toList)

end MediaType

end UriExpansion
