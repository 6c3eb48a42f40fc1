import UriExpansion.Url.Basic
import UriExpansion.Url.Path

/-!
Reading absolute URLs as browsers do: blanks at the ends, tabs and line breaks are
dropped, a special URL may have any number of slashes behind its scheme, and every
part is encoded where it has to be.
-/

namespace UriExpansion.Url

/-- Schemes whose URLs have a domain, and their default ports. -/
def defaultPort? : String → Option Nat
  | "http" | "ws" => some 80
  | "https" | "wss" => some 443
  | "ftp" => some 21
  | _ => none

def schemeKind (scheme : String) : SchemeKind :=
  if scheme = "file" then .file
  else if (defaultPort? scheme).isSome then .special
  else .other

/-- The text to be read, without control characters and spaces at the ends. -/
def trim (text : List Char) : List Char :=
  let isBlank := fun c : Char => c.toNat ≤ 0x20
  ((text.dropWhile isBlank).reverse.dropWhile isBlank).reverse

/-- The scheme in lowercase and the text behind its colon. -/
def splitScheme? (text : List Char) : Option (String × List Char) :=
  let isSchemeChar := fun c : Char => c.isAlphanum || c = '+' || c = '-' || c = '.'
  let scheme := visible (text.takeWhile (· ≠ ':'))
  match scheme, text.dropWhile (· ≠ ':') with
  | first :: _, _ :: rest =>
      if first.isAlpha && scheme.all isSchemeChar then
        some (String.ofList (scheme.map Char.toLower), rest)
      else none
  | _, _ => none

/-- Whether a character ends the path. -/
def endsPath (c : Char) : Bool :=
  c = '?' || c = '#'

/-- Whether a character ends the authority. -/
def endsAuthority (kind : SchemeKind) (c : Char) : Bool :=
  kind.isSlash c || endsPath c

/-- The query and the fragment that a text consists of. -/
def readQueryAndFragment (kind : SchemeKind) (text : List Char) :
    Option String × Option String :=
  let queryText := text.takeWhile (· ≠ '#')
  let fragmentText := text.dropWhile (· ≠ '#')
  let set := if kind.isSpecial then EncodeSet.specialQuery else EncodeSet.query
  (if queryText.isEmpty then none else some (String.ofList (set.encode (queryText.drop 1))),
    if fragmentText.isEmpty then none
    else some (String.ofList (EncodeSet.fragment.encode (fragmentText.drop 1))))

/-- A URL whose path is known, with the query and the fragment that `text` consists of. -/
def withEnd (kind : SchemeKind) (scheme : String) (authority? : Option Authority)
    (path : List Char) (text : List Char) : Url :=
  let (query?, fragment?) := readQueryAndFragment kind text
  { scheme, authority?, path := String.ofList path, query?, fragment? }

/-- Credentials, of which the password stands behind the first colon, and the text that
follows their `@`, the last one of the authority. -/
def readUserinfo (kind : SchemeKind) (text : List Char) :
    Except Refusal (List Char × List Char × List Char) :=
  let authority := text.takeWhile (!endsAuthority kind ·)
  let behind := text.dropWhile (!endsAuthority kind ·)
  let host := (authority.reverse.takeWhile (· ≠ '@')).reverse
  if authority.contains '@' then
    let userinfo := authority.take (authority.length - host.length - 1)
    if userinfo.isEmpty && host.isEmpty && !behind.isEmpty then .error .emptyHost
    else
      let encode := EncodeSet.userinfo.encode
      .ok (encode (userinfo.takeWhile (· ≠ ':')),
        encode ((userinfo.dropWhile (· ≠ ':')).drop 1), host ++ behind)
  else .ok ([], [], text)

/-- The host at the start of a text and the text behind it. A colon between brackets
belongs to the host. -/
def splitHost (kind : SchemeKind) (inBrackets : Bool) (host : List Char) :
    List Char → List Char × List Char
  | [] => (host.reverse, [])
  | c :: rest =>
      if endsAuthority kind c || (c = ':' && !inBrackets) then (host.reverse, c :: rest)
      else
        splitHost kind (if c = '[' then true else if c = ']' then false else inBrackets)
          (c :: host) rest

/-- Read a port. The default port of a scheme is left out. -/
def readPort (scheme : String) (text : List Char) :
    Except Refusal (Option Nat × List Char) :=
  let digits := text.takeWhile Char.isDigit
  let rest := text.dropWhile Char.isDigit
  let port := Text.numberInBase 10 digits
  let ended :=
    match rest with
    | [] => true
    | c :: _ => c = '/' || c = '\\' || endsPath c
  if 0xFFFF < port || !ended then .error .invalidPort
  else if digits.isEmpty || defaultPort? scheme = some port then .ok (none, rest)
  else .ok (some port, rest)

/-- Read an authority that is not the one of a file. -/
def readAuthority (kind : SchemeKind) (scheme : String) (text : List Char) :
    Except Refusal (Authority × List Char) := do
  let (username, password, text) ← readUserinfo kind text
  let (written, text) := splitHost kind false [] text
  if kind = .special && written.isEmpty then throw .emptyHost
  let host ← if kind = .special then Host.parseDomain written else Host.parseVerbatim written
  if host.isEmpty && text.head? = some ':' then throw .emptyHost
  let (port?, rest) ←
    if text.head? = some ':' then readPort scheme (text.drop 1) else pure (none, text)
  if host.isEmpty && !(username.isEmpty && password.isEmpty) then throw .emptyHost
  return ({ username := String.ofList username, password := String.ofList password, host, port? },
    rest)

/-- Read an authority and what follows it. -/
def readAfterSlashes (kind : SchemeKind) (scheme : String) (text : List Char) :
    Except Refusal Url := do
  let (authority, text) ← readAuthority kind scheme text
  let pathText := text.takeWhile (!endsPath ·)
  let rest := text.dropWhile (!endsPath ·)
  let path :=
    if pathText.isEmpty && !kind.isSpecial then []
    else
      let startsWithSlash := (pathText.head?.map kind.isSlash).getD false
      let segments := if startsWithSlash then pathText.drop 1 else pathText
      (Path.parse kind true ['/'] segments).reversed
  return withEnd kind scheme (some authority) path.reverse rest

/-- The text behind the slash that a text starts with. -/
def dropFileSlash? (text : List Char) : Option (List Char) :=
  match text.dropWhile isIgnored with
  | c :: rest => if SchemeKind.file.isSlash c then some rest else none
  | [] => none

/-- The host of a file and the text behind it. Without two slashes in front there is no
host, and a drive letter in its place belongs to the path. -/
def readFileHost (text : List Char) : Except Refusal (Host × List Char) := do
  match (dropFileSlash? text).bind dropFileSlash? with
  | none => return (.name "", (dropFileSlash? text).getD text)
  | some text =>
      let written := visible (text.takeWhile (!endsAuthority .file ·))
      if written.isEmpty || Path.isDriveLetter written then return (.name "", text)
      let host ← Host.parseDomain written
      return (host, text.dropWhile (!endsAuthority .file ·))

/-- Read the URL of a file behind its scheme. The host `localhost` is none, and a drive
letter at the start of the path leaves no host either. -/
def readFile (text : List Char) : Except Refusal Url := do
  let (host, text) ← readFileHost text
  let host := if host = .name "localhost" then .name "" else host
  let pathText := text.takeWhile (!endsPath ·)
  let segments := if host.isEmpty then pathText else (dropFileSlash? pathText).getD pathText
  let path := Path.parse .file (!host.isEmpty) ['/'] segments
  let authority : Authority :=
    { username := "", password := "", host := if path.dropsHost then .name "" else host,
      port? := none }
  return withEnd .file "file" (some authority) path.reversed.reverse
    (visible (text.dropWhile (!endsPath ·)))

/-- Read a URL without an authority. Its path is kept as it is, unless it starts with a
slash. -/
def readWithoutAuthority (scheme : String) (text : List Char) : Url :=
  let pathText := text.takeWhile (!endsPath ·)
  let path :=
    match pathText with
    | '/' :: rest => (Path.parse .other false ['/'] rest).reversed.reverse
    | _ => EncodeSet.control.encode pathText
  withEnd .other scheme none path (text.dropWhile (!endsPath ·))

def read (text : String) : Except Refusal Url :=
  match splitScheme? (trim text.toList) with
  | none => .error .relativeWithoutBase
  | some (scheme, rest) =>
      match schemeKind scheme with
      | .file => readFile rest
      | .special =>
          readAfterSlashes .special scheme ((visible rest).dropWhile SchemeKind.special.isSlash)
      | .other =>
          match visible rest with
          | '/' :: '/' :: later => readAfterSlashes .other scheme later
          | rest => .ok (readWithoutAuthority scheme rest)

end Url

end UriExpansion
