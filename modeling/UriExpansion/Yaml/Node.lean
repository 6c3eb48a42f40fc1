import UriExpansion.Yaml.Token

/-!
The values that a YAML text holds. A missing value is the empty plain scalar.
-/

namespace UriExpansion.Yaml

inductive Node where
  | scalar (isPlain : Bool) (text : String)
  | sequence (items : List Node)
  | mapping (pairs : List (Node × Node))

namespace Node

def missing : Node :=
  .scalar true ""

/-- Something that has been read, and the tokens behind it. -/
abbrev Reading (α : Type) := Option (α × List Token)

/-- Put a pair in front of the others. -/
def consPair (key value : Node) (reading : Reading (List (Node × Node))) :
    Reading (List (Node × Node)) :=
  reading.map fun (pairs, rest) => ((key, value) :: pairs, rest)

def consItem (item : Node) (reading : Reading (List Node)) : Reading (List Node) :=
  reading.map fun (items, rest) => (item :: items, rest)

mutual

/-- Read a value. Block collections are known only where `isBlock` says so, and a
sequence as deep as the mapping around it where `isLoose` says so. No more than four
rounds pass from one token to the next. -/
def read (rounds : Nat) (isBlock isLoose : Bool) (tokens : List Token) : Reading Node :=
  match rounds, tokens with
  | rounds + 1, .item :: rest =>
      if isLoose then (readLooseItems rounds (.item :: rest)).map fun (items, rest) =>
        (.sequence items, rest)
      else none
  | _ + 1, .scalar isPlain text :: rest => some (.scalar isPlain text, rest)
  | rounds + 1, .sequenceStart :: rest =>
      (readFlowItems rounds true rest).map fun (items, rest) => (.sequence items, rest)
  | rounds + 1, .mappingStart :: rest =>
      (readFlowPairs rounds true rest).map fun (pairs, rest) => (.mapping pairs, rest)
  | rounds + 1, .blockSequenceStart :: rest =>
      if isBlock then
        (readBlockItems rounds rest).map fun (items, rest) => (.sequence items, rest)
      else none
  | rounds + 1, .blockMappingStart :: rest =>
      if isBlock then
        (readBlockPairs rounds rest).map fun (pairs, rest) => (.mapping pairs, rest)
      else none
  | _, _ => none

/-- Read the items of a block sequence up to its end. -/
def readBlockItems (rounds : Nat) (tokens : List Token) : Reading (List Node) :=
  match rounds, tokens with
  | _ + 1, .blockEnd :: rest => some ([], rest)
  | rounds + 1, .item :: rest =>
      match rest with
      | .item :: _ | .blockEnd :: _ => consItem missing (readBlockItems rounds rest)
      | _ =>
          match read rounds true false rest with
          | none => none
          | some (item, rest) => consItem item (readBlockItems rounds rest)
  | _, _ => none

/-- Read the items of a sequence that ends with the last of them. -/
def readLooseItems (rounds : Nat) (tokens : List Token) : Reading (List Node) :=
  match rounds, tokens with
  | rounds + 1, .item :: rest =>
      match rest with
      | .item :: _ | .key :: _ | .value :: _ | .blockEnd :: _ =>
          consItem missing (readLooseItems rounds rest)
      | _ =>
          match read rounds true false rest with
          | none => none
          | some (item, rest) => consItem item (readLooseItems rounds rest)
  | _ + 1, tokens => some ([], tokens)
  | 0, _ => none

/-- Read the pairs of a block mapping up to its end. -/
def readBlockPairs (rounds : Nat) (tokens : List Token) : Reading (List (Node × Node)) :=
  match rounds, tokens with
  | _ + 1, .blockEnd :: rest => some ([], rest)
  | rounds + 1, .key :: rest =>
      match readBlockPart rounds rest with
      | none => none
      | some (key, .value :: rest) =>
          match readBlockPart rounds rest with
          | none => none
          | some (value, rest) => consPair key value (readBlockPairs rounds rest)
      | some (key, rest) => consPair key missing (readBlockPairs rounds rest)
  | _, _ => none

/-- Read a key or a value of a block mapping, which may be missing. -/
def readBlockPart (rounds : Nat) (tokens : List Token) : Reading Node :=
  match rounds, tokens with
  | _ + 1, .key :: rest => some (missing, .key :: rest)
  | _ + 1, .value :: rest => some (missing, .value :: rest)
  | _ + 1, .blockEnd :: rest => some (missing, .blockEnd :: rest)
  | rounds + 1, tokens => read rounds true true tokens
  | 0, _ => none

/-- Read the items between square brackets up to the closing one. -/
def readFlowItems (rounds : Nat) (isFirst : Bool) (tokens : List Token) :
    Reading (List Node) :=
  match rounds, isFirst, tokens with
  | _ + 1, _, .sequenceEnd :: rest => some ([], rest)
  | _ + 1, false, .separator :: .sequenceEnd :: rest => some ([], rest)
  | rounds + 1, false, .separator :: rest => readFlowItem rounds rest
  | rounds + 1, true, tokens => readFlowItem rounds tokens
  | _, _, _ => none

/-- Read an item and those that follow it. A pair is an item, too. -/
def readFlowItem (rounds : Nat) (tokens : List Token) : Reading (List Node) :=
  match rounds, tokens with
  | rounds + 1, .key :: rest =>
      match readItemKey rounds rest with
      | none => none
      | some (key, .value :: rest) =>
          match readFlowPart rounds .sequenceEnd rest with
          | none => none
          | some (value, rest) =>
              consItem (.mapping [(key, value)]) (readFlowItems rounds false rest)
      | some (key, rest) =>
          consItem (.mapping [(key, missing)]) (readFlowItems rounds false rest)
  | rounds + 1, tokens =>
      match read rounds false false tokens with
      | none => none
      | some (item, rest) => consItem item (readFlowItems rounds false rest)
  | 0, _ => none

/-- Read the key of a pair that is an item. A missing key uses up the token in its place. -/
def readItemKey (rounds : Nat) (tokens : List Token) : Reading Node :=
  match rounds, tokens with
  | rounds + 1, token :: rest =>
      if token = .value ∨ token = .separator ∨ token = .sequenceEnd then some (missing, rest)
      else read rounds false false (token :: rest)
  | _, _ => none

/-- Read the pairs between braces up to the closing one. -/
def readFlowPairs (rounds : Nat) (isFirst : Bool) (tokens : List Token) :
    Reading (List (Node × Node)) :=
  match rounds, isFirst, tokens with
  | _ + 1, _, .mappingEnd :: rest => some ([], rest)
  | _ + 1, false, .separator :: .mappingEnd :: rest => some ([], rest)
  | rounds + 1, false, .separator :: rest => readFlowPair rounds rest
  | rounds + 1, true, tokens => readFlowPair rounds tokens
  | _, _, _ => none

/-- Read a pair and those that follow it. -/
def readFlowPair (rounds : Nat) (tokens : List Token) : Reading (List (Node × Node)) :=
  match rounds, tokens with
  | rounds + 1, .key :: rest =>
      match readFlowPart rounds .mappingEnd rest with
      | none => none
      | some (key, .value :: rest) =>
          match readFlowPart rounds .mappingEnd rest with
          | none => none
          | some (value, rest) => consPair key value (readFlowPairs rounds false rest)
      | some (key, rest) => consPair key missing (readFlowPairs rounds false rest)
  | rounds + 1, tokens =>
      match read rounds false false tokens with
      | none => none
      | some (key, rest) => consPair key missing (readFlowPairs rounds false rest)
  | 0, _ => none

/-- Read a key or a value between brackets, which may be missing. -/
def readFlowPart (rounds : Nat) (closing : Token) (tokens : List Token) : Reading Node :=
  match rounds, tokens with
  | rounds + 1, token :: rest =>
      if token = .value ∨ token = .separator ∨ token = closing then some (missing, token :: rest)
      else read rounds false false (token :: rest)
  | _, _ => none

end

end Node

end UriExpansion.Yaml
