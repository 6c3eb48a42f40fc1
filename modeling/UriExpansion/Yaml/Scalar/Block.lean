import UriExpansion.Text.Digit
import UriExpansion.Yaml.Cursor

/-!
Block scalars, the lines below a header that are indented alike. A literal scalar keeps
its line breaks; in a folded one a line break between two lines that do not start with a
blank becomes a space.
-/

namespace UriExpansion.Yaml.BlockScalar

/-- What becomes of the line breaks at the end. -/
inductive Chomping where
  | strip
  | clip
  | keep
  deriving DecidableEq, Repr

/-- What stands behind the indicator of a block scalar. -/
structure Header where
  chomping : Chomping
  /-- By how much the text is indented, if it is said. -/
  indent? : Option Nat
  /-- The lines below. -/
  lines : List Char

def readChomping : List Char → Option Chomping × List Char
  | '+' :: rest => (some .keep, rest)
  | '-' :: rest => (some .strip, rest)
  | text => (none, text)

def readIndent : List Char → Option Nat × List Char
  | c :: rest => if c.isDigit then (some (Text.digitValue c), rest) else (none, c :: rest)
  | [] => (none, [])

/-- The lines below the current one, in which only blanks and a comment may be left. -/
def linesBelow? (text : List Char) : Option (List Char) :=
  match text.dropWhile isBlank with
  | [] => some []
  | c :: rest =>
      if c = '#' || isBreak c then some (((c :: rest).dropWhile (!isBreak ·)).drop 1) else none

/-- Read the header behind the indicator. The two parts of it come in either order. -/
def readHeader? (text : List Char) : Option Header :=
  let (before?, text) := readChomping text
  let (indent?, text) := readIndent text
  let (after?, text) := if before?.isSome then (none, text) else readChomping text
  if indent? = some 0 then none
  else
    (linesBelow? text).map fun lines => ⟨(before?.or after?).getD .clip, indent?, lines⟩

/-- The text so far, in reverse, and the line breaks behind it: the first of them, and
the others in reverse. -/
structure Progress where
  reversed : List Char
  first? : Option Char
  later : List Char
  /-- The last line starts with a blank. -/
  afterBlank : Bool

namespace Progress

def start (breaks : List Char) : Progress :=
  ⟨[], none, breaks, false⟩

/-- Put the line breaks behind the text in front of a line that starts with `c`. -/
def startLine (folded : Bool) (progress : Progress) (c : Char) : Progress :=
  let joins :=
    folded && progress.first? = some '\n' && !progress.afterBlank && !isBlank c
  let first :=
    if joins then (if progress.later.isEmpty then [' '] else []) else progress.first?.toList
  ⟨progress.later ++ (first ++ progress.reversed), none, [], isBlank c⟩

def push (progress : Progress) (c : Char) : Progress :=
  { progress with reversed := c :: progress.reversed }

def text (progress : Progress) : Chomping → String
  | .strip => String.ofList progress.reversed.reverse
  | .clip => String.ofList (progress.first?.toList ++ progress.reversed).reverse
  | .keep =>
      String.ofList (progress.later ++ (progress.first?.toList ++ progress.reversed)).reverse

end Progress

/-- Read lines that are indented by `indent`, as far as there are any. -/
def readLines (folded : Bool) (indent : Nat) (progress : Progress) (inLine : Bool)
    (place : Place) : List Char → Option (Progress × Cursor)
  | [] => some (progress, ⟨[], place⟩)
  | c :: rest =>
      if inLine then
        if isBreak c then
          readLines folded indent { progress with first? := some c } false place.nextLine rest
        else readLines folded indent (progress.push c) true (place.next c) rest
      else if isBreak c then
        readLines folded indent { progress with later := c :: progress.later } false
          place.nextLine rest
      else if place.column < indent then
        if c = ' ' then readLines folded indent progress false (place.next c) rest
        else if c = '\t' then none
        else some (progress, ⟨c :: rest, place⟩)
      else
        readLines folded indent ((progress.startLine folded c).push c) true (place.next c) rest

/-- Read empty lines: their line breaks in reverse, the greatest indentation among them
and the line that follows, and the first place that is no blank. -/
def readEmptyLines (breaks : List Char) (greatest : Nat) (place : Place) :
    List Char → Option (List Char × Nat × Cursor)
  | [] => some (breaks, max greatest place.column, ⟨[], place⟩)
  | c :: rest =>
      if c = ' ' then readEmptyLines breaks greatest (place.next c) rest
      else if c = '\t' then none
      else if isBreak c then
        readEmptyLines (c :: breaks) (max greatest place.column) place.nextLine rest
      else some (breaks, max greatest place.column, ⟨c :: rest, place⟩)

/-- Read a scalar whose indicator stands at a place, inside a collection whose items are
indented by less than `least`. -/
def read (folded : Bool) (least : Nat) (cursor : Cursor) : Option (String × Cursor) :=
  match readHeader? (cursor.rest.drop 1) with
  | none => none
  | some header =>
      let below := cursor.place.nextLine
      let read? :=
        match header.indent? with
        | some indent =>
            readLines folded (least - 1 + indent) (.start []) false below header.lines
        | none =>
            match readEmptyLines [] 0 below header.lines with
            | none => none
            | some (breaks, greatest, first) =>
                readLines folded (max (max greatest least) 1) (.start breaks) false first.place
                  first.rest
      read?.map fun (progress, behind) => (progress.text header.chomping, behind)

end UriExpansion.Yaml.BlockScalar
