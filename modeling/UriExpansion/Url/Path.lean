import UriExpansion.Url.EncodeSet

/-!
Paths of URLs. A path is read segment by segment; a segment `.` adds nothing, and a
segment `..` takes the last one away, but never the slash at the start of the path nor
one that a drive letter stands in front of. Dots may be written as escapes, and tabs and
line breaks do not count.
-/

namespace UriExpansion.Url

/-- Tabs and line breaks, which may stand anywhere in a URL. -/
def isIgnored (c : Char) : Bool :=
  c = '\t' || c = '\n' || c = '\r'

/-- A text without its tabs and line breaks. -/
def visible (text : List Char) : List Char :=
  text.filter (!isIgnored ·)

/-- The kinds of URL that paths and hosts depend on. -/
inductive SchemeKind where
  | file
  | special
  | other
  deriving DecidableEq, Repr

def SchemeKind.isSpecial (kind : SchemeKind) : Bool :=
  kind ≠ .other

/-- Whether a character separates segments. -/
def SchemeKind.isSlash (kind : SchemeKind) (c : Char) : Bool :=
  c = '/' || (c = '\\' && kind.isSpecial)

namespace Path

/-- Whether a text starts with a drive letter that a slash or nothing follows. -/
def startsWithDriveLetter : List Char → Bool
  | letter :: mark :: rest =>
      letter.isAlpha && (mark = ':' || mark = '|')
        && (match rest with
          | [] => true
          | c :: _ => c = '/' || c = '\\' || c = '?' || c = '#')
  | _ => false

def isDriveLetter (text : List Char) : Bool :=
  text.length = 2 && startsWithDriveLetter text

/-- A drive letter that is written with a colon. -/
def isNormalDriveLetter (text : List Char) : Bool :=
  isDriveLetter text && text.getLast? = some ':'

/-- A drive letter that a tab or a line break cuts off from the rest of its segment, and
that rest, which is not empty. -/
def cutDriveLetter? (segment : List Char) : Option (Char × List Char) :=
  match segment.dropWhile isIgnored with
  | [] => none
  | letter :: more =>
      match more.dropWhile isIgnored with
      | ':' :: cut :: rest =>
          if letter.isAlpha && isIgnored cut && !(visible rest).isEmpty then
            some (letter, visible rest)
          else none
      | _ => none

/-- Replace escaped dots of either case by dots. -/
def unescapeDots : List Char → List Char
  | '%' :: '2' :: e :: rest =>
      if e = 'e' ∨ e = 'E' then '.' :: unescapeDots rest
      else '%' :: '2' :: e :: unescapeDots rest
  | c :: rest => c :: unescapeDots rest
  | [] => []

/-- A path under construction, reversed, and whether a drive letter has taken the place
of the host. -/
structure Builder where
  reversed : List Char
  dropsHost : Bool
  deriving DecidableEq, Repr

namespace Builder

/-- The path in front of its last segment, reversed, with the slash before that segment. -/
def parent (reversed : List Char) : List Char :=
  reversed.dropWhile (· ≠ '/')

/-- Take away the slash at the end, unless it starts the path or ends a drive letter. -/
def dropLastSlash (reversed : List Char) : List Char :=
  match reversed with
  | '/' :: earlier =>
      let segment := (earlier.takeWhile (· ≠ '/')).reverse
      if (parent earlier).isEmpty || startsWithDriveLetter (segment ++ ['/']) then reversed
      else earlier
  | _ => reversed

/-- Take away the last segment, unless it is the drive letter of a file. -/
def dropLastSegment (kind : SchemeKind) (reversed : List Char) : List Char :=
  let segment := (reversed.takeWhile (· ≠ '/')).reverse
  if kind = .file && isNormalDriveLetter segment then reversed else parent reversed

/-- End the path with a slash. -/
def endWithSlash (reversed : List Char) : List Char :=
  if reversed.head? = some '/' then reversed else '/' :: reversed

/-- Add a segment without tabs and line breaks, and the slash behind it if one follows. -/
def addVisible (kind : SchemeKind) (hasHost : Bool) (builder : Builder)
    (segment : List Char) (slashFollows : Bool) : Builder :=
  let encoded := EncodeSet.path.encode segment
  let slash := if slashFollows then ['/'] else []
  match unescapeDots encoded with
  | ['.', '.'] =>
      let shorter := dropLastSegment kind (dropLastSlash builder.reversed)
      { builder with reversed := if slashFollows then endWithSlash shorter else shorter }
  | ['.'] => { builder with reversed := endWithSlash builder.reversed }
  | _ =>
      if kind = .file && builder.reversed.length = 1 && isDriveLetter encoded then
        { reversed := slash ++ ':' :: (encoded.take 1 ++ builder.reversed)
          dropsHost := builder.dropsHost || hasHost }
      else { builder with reversed := slash ++ encoded.reverse ++ builder.reversed }

/-- Add a segment, and the slash behind it if one follows. At the start of the path of a
file, what a tab or a line break cuts off from a drive letter gets a slash in front and
is kept, even if it is dots. -/
def addSegment (kind : SchemeKind) (hasHost : Bool) (builder : Builder)
    (segment : List Char) (slashFollows : Bool) : Builder :=
  match
    if kind = .file && builder.reversed.length = 1 then cutDriveLetter? segment else none with
  | some (letter, rest) =>
      let slash := if slashFollows then ['/'] else []
      { builder with
        reversed :=
          slash ++ (EncodeSet.path.encode rest).reverse ++ '/' :: ':' :: letter
            :: builder.reversed }
  | none => builder.addVisible kind hasHost (visible segment) slashFollows

end Builder

/-- Add the segments of a text. -/
def addSegments (kind : SchemeKind) (hasHost : Bool) : Builder → List (List Char) → Builder
  | builder, [] => builder
  | builder, [last] => builder.addSegment kind hasHost last false
  | builder, segment :: rest =>
      addSegments kind hasHost (builder.addSegment kind hasHost segment true) rest

/-- Read the rest of a path behind `start`. The path of a file starts with one slash. -/
def parse (kind : SchemeKind) (hasHost : Bool) (start text : List Char) : Builder :=
  let built :=
    addSegments kind hasHost ⟨start.reverse, false⟩ (text.splitOnP kind.isSlash)
  if kind = .file then
    { built with reversed := (('/' :: built.reversed.reverse.dropWhile (· = '/'))).reverse }
  else built

end Path

end UriExpansion.Url
