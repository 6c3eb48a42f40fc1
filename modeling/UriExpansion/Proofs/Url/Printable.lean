import UriExpansion.Proofs.Text.Delimiter
import UriExpansion.Proofs.Text.Utf8
import UriExpansion.Proofs.Template.Name
import UriExpansion.Url.Reading

/-!
The texts of URLs hold no control characters, whatever they were read from: each part is
encoded, written in digits or made up of characters that were looked at one by one.
-/

namespace UriExpansion

/-- There is no control character in a text. -/
def IsPrintable (text : List Char) : Prop :=
  ∀ c ∈ text, 0x20 ≤ c.toNat ∧ c.toNat ≠ 0x7F

instance (text : List Char) : Decidable (IsPrintable text) :=
  List.decidableBAll _ text

namespace IsPrintable

variable {left right : List Char}

theorem nil : IsPrintable [] := fun _ => nofun

theorem subset (printable : IsPrintable right) (part : left ⊆ right) : IsPrintable left :=
  fun c membership => printable c (part membership)

theorem append (leftPrintable : IsPrintable left) (rightPrintable : IsPrintable right) :
    IsPrintable (left ++ right) :=
  List.forall_mem_append.mpr ⟨leftPrintable, rightPrintable⟩

theorem cons {c : Char} (here : IsPrintable [c]) (rest : IsPrintable right) :
    IsPrintable (c :: right) :=
  here.append rest

theorem reverse (printable : IsPrintable left) : IsPrintable left.reverse :=
  fun c membership => printable c (List.mem_reverse.mp membership)

theorem ascii_of_isAlphanum {c : Char} (alphanum : c.isAlphanum = true) : c.toNat < 0x80 :=
  VariableName.ascii_of_isPlain (VariableName.isPlain_eq_true_iff.mpr (.inl alphanum))

/-- Characters of schemes, in lowercase. -/
theorem toLower {c : Char}
    (isSchemeChar : (c.isAlphanum || c = '+' || c = '-' || c = '.') = true) :
    IsPrintable [c.toLower] := by
  have ascii : c.toNat < 0x80 := by
    simp only [Bool.or_eq_true, decide_eq_true_eq] at isSchemeChar
    rcases isSchemeChar with ((alphanum | rfl) | rfl) | rfl
    · exact ascii_of_isAlphanum alphanum
    all_goals decide
  exact Text.Utf8.forall_ascii
    (motive := fun c => (c.isAlphanum || c = '+' || c = '-' || c = '.') = true →
      IsPrintable [c.toLower])
    (by decide) ascii isSchemeChar

theorem toDigits {base : Nat} (large : 1 < base) (small : base ≤ 16) (number : Nat) :
    IsPrintable (Nat.toDigits base number) := by
  have ofDigit : ∀ digit < 16, IsPrintable [digit.digitChar] := by decide
  induction number using Nat.strongRecOn with
  | ind number inductionHypothesis =>
      rw [Nat.toDigits_eq_if large]
      split
      next isDigit => exact ofDigit number (by omega)
      next notLast =>
        have smaller : number / base < number := Nat.div_lt_self (by omega) large
        have isDigit : number % base < base := Nat.mod_lt _ (by omega)
        exact (inductionHypothesis _ smaller).append (ofDigit _ (by omega))

theorem intercalate {delimiter : String} (ofDelimiter : IsPrintable delimiter.toList)
    {parts : List String} (ofParts : ∀ part ∈ parts, IsPrintable part.toList) :
    IsPrintable (String.intercalate delimiter parts).toList := by
  rw [String.toList_intercalate]
  exact Text.intercalate_induction nil append ofDelimiter (List.forall_mem_map.mpr ofParts)

theorem escape (byte : UInt8) : IsPrintable (Percent.escape byte) := by
  have ofDigit : ∀ {number : UInt8}, number < 16 → IsPrintable [Percent.hexDigit number] :=
    Percent.forall_digit (motive := fun number => IsPrintable [Percent.hexDigit number])
      (by decide)
  have percent : IsPrintable ['%'] := by decide
  exact percent.cons ((ofDigit (Percent.highDigit_lt byte)).cons
    (ofDigit (Percent.lowDigit_lt byte)))

theorem encode (set : Url.EncodeSet) (text : List Char) : IsPrintable (set.encode text) := by
  have copied : ∀ byte : UInt8, ¬(byte < 0x20 ∨ 0x7E < byte) → IsPrintable [Char.ofUInt8 byte] :=
    Text.Utf8.forall_byte (by decide +kernel)
  intro c membership
  obtain ⟨byte, -, written⟩ := List.mem_flatMap.mp membership
  split at written
  · exact escape byte c written
  next outside =>
    refine copied byte (fun excluded => outside ?_) c written
    simp [Url.EncodeSet.contains, excluded]

end IsPrintable

/-- Whatever a reading returns has a property. -/
def Returns {ε α : Type} (reading : Except ε α) (good : α → Prop) : Prop :=
  ∀ result, reading = .ok result → good result

namespace Returns

variable {ε α β : Type} {good : α → Prop} {middle : β → Prop} {reading : Except ε α}

theorem ok {result : α} (isGood : good result) : Returns (.ok result : Except ε α) good := by
  rintro _ ⟨⟩
  exact isGood

theorem error (error : ε) : Returns (.error error) good := nofun

theorem bind {first : Except ε β} {next : β → Except ε α} (firstReturns : Returns first middle)
    (nextReturns : ∀ result, middle result → Returns (next result) good) :
    Returns (first >>= next) good := by
  cases first with
  | error => exact error _
  | ok result => exact nextReturns result (firstReturns result rfl)

theorem any : Returns reading fun _ => True := fun _ _ => trivial

end Returns

namespace Url

open IsPrintable

namespace Host

end Host

namespace Path.Builder

variable {reversed : List Char}

end Path.Builder

namespace Path

open Builder

end Path

namespace Authority

/-- An authority that is made up of printable parts. -/
structure HasPrintableParts (authority : Authority) : Prop where
  username : IsPrintable authority.username.toList
  password : IsPrintable authority.password.toList
  host : IsPrintable authority.host.text.toList

theorem HasPrintableParts.text {authority : Authority} (parts : authority.HasPrintableParts) :
    IsPrintable authority.text.toList := by
  have colon : IsPrintable ":".toList := by decide
  have atSign : IsPrintable "@".toList := by decide
  have slashes : IsPrintable "//".toList := by decide
  have userinfo : IsPrintable authority.userinfo.toList := by
    rw [Authority.userinfo]
    split
    · exact nil
    split
    · rw [String.toList_append]
      exact parts.username.append atSign
    · simp only [String.toList_append]
      exact ((parts.username.append colon).append parts.password).append atSign
  simp only [Authority.text, String.toList_append]
  refine ((slashes.append userinfo).append parts.host).append ?_
  split
  next => exact nil
  next port isThere =>
    have digits : IsPrintable (String.ofList (Nat.toDigits 10 port)).toList := by
      rw [String.toList_ofList]
      exact toDigits (by decide) (by decide) port
    rw [String.toList_append]
    exact colon.append digits

end Authority

/-- A URL that is made up of printable parts. -/
structure HasPrintableParts (url : Url) : Prop where
  scheme : IsPrintable url.scheme.toList
  authority : ∀ authority, url.authority? = some authority → authority.HasPrintableParts
  path : IsPrintable url.path.toList
  query : ∀ query, url.query? = some query → IsPrintable query.toList
  fragment : ∀ fragment, url.fragment? = some fragment → IsPrintable fragment.toList

theorem HasPrintableParts.text {url : Url} (parts : url.HasPrintableParts) :
    IsPrintable url.text.toList := by
  have colon : IsPrintable ":".toList := by decide
  have beforePath : IsPrintable url.beforePath.toList := by
    rw [Url.beforePath]
    split
    next authority isThere => exact (parts.authority authority isThere).text
    next =>
      split
      · decide
      · exact nil
  simp only [Url.text, String.toList_append]
  refine ((((parts.scheme.append colon).append beforePath).append parts.path).append ?_).append ?_
  · split
    next => exact nil
    next query isThere =>
      rw [String.toList_append]
      exact IsPrintable.append (by decide) (parts.query query isThere)
  · split
    next => exact nil
    next fragment isThere =>
      rw [String.toList_append]
      exact IsPrintable.append (by decide) (parts.fragment fragment isThere)

end Url

end UriExpansion
