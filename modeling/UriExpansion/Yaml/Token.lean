import UriExpansion.Yaml.Scalar.Block
import UriExpansion.Yaml.Scalar.Plain
import UriExpansion.Yaml.Scalar.Quoted

/-!
The tokens of a YAML text. Indentation becomes tokens that open and close block
collections, so that what is left is a matter of the order of tokens.

That a scalar or a bracket is the key of a pair shows only at the colon behind it. The
place of what may turn out to be a key is therefore kept, as long as the line goes on
and at most 1024 bytes have passed, and the token for a key is put in there.

Anchors, aliases and tags are refused.
-/

namespace UriExpansion.Yaml

inductive Token where
  | directive
  | documentStart
  | documentEnd
  | blockSequenceStart
  | blockMappingStart
  | blockEnd
  | sequenceStart
  | sequenceEnd
  | mappingStart
  | mappingEnd
  /-- The hyphen in front of an item. -/
  | item
  /-- The comma between two items. -/
  | separator
  /-- What follows is a key. -/
  | key
  /-- What follows is the value of a key. -/
  | value
  | scalar (isPlain : Bool) (text : String)
  deriving DecidableEq, Repr

/-- The place of a token that may be the start of a key. -/
structure PossibleKey where
  /-- The number of tokens in front of it. -/
  position : Nat
  place : Place
  /-- It has to be a key, because it stands where the keys of a block mapping do. -/
  isRequired : Bool

/-- Whether a key cannot end at a place. -/
def PossibleKey.isStale (key : PossibleKey) (place : Place) : Bool :=
  key.place.line < place.line || key.place.offset + 1024 < place.offset

structure Scanner where
  cursor : Cursor
  /-- The tokens, the last one first, and their number. -/
  reversed : List Token
  count : Nat
  /-- The columns of the open block collections, the innermost one first. -/
  columns : List Nat
  /-- What may be a key inside the innermost brackets, or outside all of them. -/
  key? : Option PossibleKey
  /-- What may be a key around each open bracket, the innermost one first. -/
  outerKeys : List (Option PossibleKey)
  /-- Whether a key may start here. -/
  keyAllowed : Bool

namespace Scanner

def start (text : List Char) : Scanner where
  cursor := ⟨text, .start⟩
  reversed := []
  count := 0
  columns := []
  key? := none
  outerKeys := []
  keyAllowed := true

def inFlow (scanner : Scanner) : Bool :=
  !scanner.outerKeys.isEmpty

/-- The least column of what belongs to the innermost block collection. -/
def least (scanner : Scanner) : Nat :=
  match scanner.columns with
  | [] => 0
  | column :: _ => column + 1

def insertToken (scanner : Scanner) (position : Nat) (token : Token) : Scanner :=
  let later := scanner.count - position
  { scanner with
    reversed := scanner.reversed.take later ++ token :: scanner.reversed.drop later
    count := scanner.count + 1 }

def emit (scanner : Scanner) (token : Token) : Scanner :=
  { scanner with reversed := token :: scanner.reversed, count := scanner.count + 1 }

/-- Read a token of so many characters. -/
def take (scanner : Scanner) (length : Nat) (token : Token) : Scanner :=
  { scanner.emit token with cursor := scanner.cursor.advance length }

/-- Pass over blanks, comments and line breaks. A tab may not stand where the
indentation of a key would. -/
def skipFrom (inFlow keyAllowed inComment : Bool) (place : Place) :
    List Char → Bool × Cursor
  | [] => (keyAllowed, ⟨[], place⟩)
  | c :: rest =>
      if isBreak c then skipFrom inFlow (keyAllowed || !inFlow) false place.nextLine rest
      else if inComment || c = ' ' || (c = '\t' && (inFlow || !keyAllowed))
          || (c = '\uFEFF' && place.column = 0) then
        skipFrom inFlow keyAllowed inComment (place.next c) rest
      else if c = '#' then skipFrom inFlow keyAllowed true (place.next c) rest
      else (keyAllowed, ⟨c :: rest, place⟩)

def skip (scanner : Scanner) : Scanner :=
  let (keyAllowed, cursor) :=
    skipFrom scanner.inFlow scanner.keyAllowed false scanner.cursor.place scanner.cursor.rest
  { scanner with keyAllowed, cursor }

/-- Give up what cannot be a key any more, unless it has to be one. -/
def expire? (place : Place) : Option PossibleKey → Option (Option PossibleKey)
  | none => some none
  | some key =>
      if key.isStale place then if key.isRequired then none else some none else some (some key)

/-- Give up every key that cannot end here any more. -/
def expireKeys? (scanner : Scanner) : Option Scanner :=
  let place := scanner.cursor.place
  match expire? place scanner.key?, scanner.outerKeys.mapM (expire? place) with
  | some key?, some outerKeys => some { scanner with key?, outerKeys }
  | _, _ => none

/-- Give up the innermost key, unless it has to be one. -/
def dropKey? (scanner : Scanner) : Option Scanner :=
  match scanner.key? with
  | some key => if key.isRequired then none else some { scanner with key? := none }
  | none => some scanner

/-- Keep the place if a key may start here. -/
def saveKey? (scanner : Scanner) : Option Scanner :=
  if scanner.keyAllowed then
    let place := scanner.cursor.place
    let key : PossibleKey :=
      { position := scanner.count
        place
        isRequired := !scanner.inFlow && scanner.columns.head? = some place.column }
    scanner.dropKey?.map fun scanner => { scanner with key? := some key }
  else some scanner

/-- Close the block collections whose columns are behind `column`, or all of them. -/
def closeBlocks (scanner : Scanner) (column? : Option Nat) : Scanner :=
  if scanner.inFlow then scanner
  else
    let isOpen := fun column =>
      match column? with
      | some limit => decide (column ≤ limit)
      | none => false
    let closed := scanner.columns.takeWhile (!isOpen ·)
    { scanner with
      columns := scanner.columns.dropWhile (!isOpen ·)
      reversed := List.replicate closed.length .blockEnd ++ scanner.reversed
      count := scanner.count + closed.length }

/-- Open a block collection in front of the token at `position` if its column is behind
that of the innermost one. -/
def openBlock (scanner : Scanner) (column position : Nat) (token : Token) : Scanner :=
  if !scanner.inFlow && scanner.columns.head?.all (· < column) then
    { scanner.insertToken position token with columns := column :: scanner.columns }
  else scanner

def readMarker? (scanner : Scanner) (token : Token) : Option Scanner :=
  ((scanner.closeBlocks none).dropKey?).map fun scanner =>
    { scanner.take 3 token with keyAllowed := false }

/-- A number of a version and the text behind it. -/
def versionNumber? (text : List Char) : Option (Nat × List Char) :=
  let digits := text.takeWhile Char.isDigit
  if digits.isEmpty || 9 < digits.length then none
  else some (Text.numberInBase 10 digits, text.dropWhile Char.isDigit)

/-- The lines below a directive, which may only ask for version 1.1 or 1.2. -/
def directiveEnd? : List Char → Option (List Char)
  | '%' :: 'Y' :: 'A' :: 'M' :: 'L' :: rest =>
      if (rest.head?.map isBlank).getD false then
        match versionNumber? (rest.dropWhile isBlank) with
        | some (1, '.' :: minorText) =>
            match versionNumber? minorText with
            | some (minor, rest) =>
                if minor = 1 ∨ minor = 2 then BlockScalar.linesBelow? rest else none
            | none => none
        | _ => none
      else none
  | _ => none

def readDirective? (scanner : Scanner) : Option Scanner :=
  match directiveEnd? scanner.cursor.rest, (scanner.closeBlocks none).dropKey? with
  | some lines, some scanner =>
      some { scanner.emit .directive with
        cursor := ⟨lines, scanner.cursor.place.nextLine⟩, keyAllowed := false }
  | _, _ => none

def openBracket? (scanner : Scanner) (token : Token) : Option Scanner :=
  scanner.saveKey?.map fun scanner =>
    { scanner.take 1 token with
      outerKeys := scanner.key? :: scanner.outerKeys, key? := none, keyAllowed := true }

def closeBracket? (scanner : Scanner) (token : Token) : Option Scanner :=
  scanner.dropKey?.map fun scanner =>
    let closed := { scanner.take 1 token with keyAllowed := false }
    match scanner.outerKeys with
    | [] => closed
    | key? :: outerKeys => { closed with key?, outerKeys }

def readSeparator? (scanner : Scanner) : Option Scanner :=
  scanner.dropKey?.map fun scanner => { scanner.take 1 .separator with keyAllowed := true }

def readItem? (scanner : Scanner) : Option Scanner :=
  if !scanner.inFlow && !scanner.keyAllowed then none
  else
    ((scanner.openBlock scanner.cursor.place.column scanner.count .blockSequenceStart).dropKey?).map
      fun scanner => { scanner.take 1 .item with keyAllowed := true }

def readKey? (scanner : Scanner) : Option Scanner :=
  if !scanner.inFlow && !scanner.keyAllowed then none
  else
    ((scanner.openBlock scanner.cursor.place.column scanner.count .blockMappingStart).dropKey?).map
      fun scanner => { scanner.take 1 .key with keyAllowed := !scanner.inFlow }

def readValue? (scanner : Scanner) : Option Scanner :=
  match scanner.key? with
  | some key =>
      let marked := scanner.insertToken key.position .key
      let opened := marked.openBlock key.place.column key.position .blockMappingStart
      some { opened.take 1 .value with key? := none, keyAllowed := false }
  | none =>
      if !scanner.inFlow && !scanner.keyAllowed then none
      else
        let opened := scanner.openBlock scanner.cursor.place.column scanner.count .blockMappingStart
        some { opened.take 1 .value with keyAllowed := !scanner.inFlow }

def readBlockScalar? (scanner : Scanner) (folded : Bool) : Option Scanner :=
  match scanner.dropKey?, BlockScalar.read folded scanner.least scanner.cursor with
  | some scanner, some (text, cursor) =>
      some { scanner.emit (.scalar false text) with cursor, keyAllowed := true }
  | _, _ => none

def readQuoted? (scanner : Scanner) (double : Bool) : Option Scanner :=
  match scanner.saveKey?, QuotedScalar.read double scanner.cursor with
  | some scanner, some (text, cursor) =>
      some { scanner.emit (.scalar false text) with cursor, keyAllowed := false }
  | _, _ => none

def readPlain? (scanner : Scanner) : Option Scanner :=
  match scanner.saveKey?, PlainScalar.read scanner.inFlow scanner.least scanner.cursor with
  | some saved, some scalar =>
      some { saved.emit (.scalar true scalar.text) with
        cursor := scalar.cursor, keyAllowed := scalar.isLineEnd }
  | _, _ => none

/-- Read the token that starts with `c`. -/
def readToken? (scanner : Scanner) (c : Char) (rest : List Char) : Option Scanner :=
  let atLineStart := scanner.cursor.place.column == 0
  if atLineStart && c = '%' then scanner.readDirective?
  else if atLineStart && startsTriple '-' (c :: rest) then scanner.readMarker? .documentStart
  else if atLineStart && startsTriple '.' (c :: rest) then scanner.readMarker? .documentEnd
  else if c = '[' then scanner.openBracket? .sequenceStart
  else if c = '\x7b' then scanner.openBracket? .mappingStart
  else if c = ']' then scanner.closeBracket? .sequenceEnd
  else if c = '\x7d' then scanner.closeBracket? .mappingEnd
  else if c = ',' then scanner.readSeparator?
  else if c = '-' && endsWord rest then scanner.readItem?
  else if c = '?' && (scanner.inFlow || endsWord rest) then scanner.readKey?
  else if c = ':' && (scanner.inFlow || endsWord rest) then scanner.readValue?
  else if c = '|' && !scanner.inFlow then scanner.readBlockScalar? false
  else if c = '>' && !scanner.inFlow then scanner.readBlockScalar? true
  else if c = '\'' then scanner.readQuoted? false
  else if c = '"' then scanner.readQuoted? true
  else if PlainScalar.startsWith scanner.inFlow c rest then scanner.readPlain?
  else none

/-- Read tokens to the end of the text. Every round reads at least one character, so the
length of the text bounds the number of rounds. -/
def readAll? : (rounds : Nat) → Scanner → Option (List Token)
  | 0, _ => none
  | rounds + 1, scanner =>
      match scanner.skip.expireKeys? with
      | none => none
      | some scanner =>
          let scanner := scanner.closeBlocks (some scanner.cursor.place.column)
          match scanner.cursor.rest with
          | [] => (scanner.closeBlocks none).dropKey?.map (·.reversed.reverse)
          | c :: rest =>
              match scanner.readToken? c rest with
              | none => none
              | some scanner => readAll? rounds scanner

end Scanner

def tokens? (text : List Char) : Option (List Token) :=
  if text.all isAllowed then
    Scanner.readAll? (text.length + 1) (.start (unifyBreaks text))
  else none

end UriExpansion.Yaml
