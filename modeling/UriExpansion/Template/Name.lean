import UriExpansion.Percent.Encoding

/-!
Names of template variables, `varchar *( ["."] varchar )`, where a `varchar` is a
letter, a digit, `_` or an escape.
-/

namespace UriExpansion.VariableName

/-- Whether a character is a `varchar` by itself. -/
def isPlain (c : Char) : Bool :=
  c.isAlphanum || c = '_'

def isNameChar (c : Char) : Bool :=
  isPlain c || c = '.' || c = '%'

/-- Whether a text goes on as a name does, where `expecting` says that a `varchar` has
to come next because a dot or nothing stands before. -/
def continues (expecting : Bool) : List Char → Bool
  | [] => !expecting
  | c :: rest =>
      if isPlain c then continues false rest
      else if c = '.' then !expecting && continues true rest
      else if c = '%' then
        match rest with
        | high :: low :: later =>
            Text.isHexDigit high && Text.isHexDigit low && continues false later
        | _ => false
      else false

def isValid (name : List Char) : Bool :=
  continues true name

end UriExpansion.VariableName
