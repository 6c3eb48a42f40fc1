import UriExpansion.Template.Reading
import UriExpansion.Proofs.Text.Utf8
import Mathlib.Algebra.Group.Nat.Defs
import Mathlib.Data.List.Induction

/-!
Prefix lengths and the digits that spell them. A number has many numerals, which differ
in leading zeros, and one without; that one is its canonical numeral.
-/

namespace UriExpansion

theorem digitValue_le {c : Char} (digit : c.isDigit = true) : c.toNat - '0'.toNat ≤ 9 := by
  have upper := (Char.isDigit_iff_toNat.mp digit).2
  have nine : '9'.toNat = '0'.toNat + 9 := rfl
  omega

theorem digitChar_of_isDigit {c : Char} (digit : c.isDigit = true) :
    Nat.digitChar (c.toNat - '0'.toNat) = c := by
  have ascii : c.toNat < 0x80 :=
    Nat.lt_of_le_of_lt (Char.isDigit_iff_toNat.mp digit).2 (by decide)
  exact Text.Utf8.forall_ascii
    (motive := fun c => c.isDigit = true → Nat.digitChar (c.toNat - '0'.toNat) = c)
    (by decide) ascii digit

theorem decimalNumber_lt {digits : List Char}
    (allDigits : ∀ c ∈ digits, c.isDigit = true) :
    decimalNumber digits < 10 ^ digits.length := by
  unfold decimalNumber
  induction digits with
  | nil => simp
  | cons c rest inductionHypothesis =>
      have restBelow := inductionHypothesis fun c membership =>
        allDigits c (List.mem_cons_of_mem _ membership)
      have value := digitValue_le (allDigits c List.mem_cons_self)
      rw [Nat.ofDigitChars_cons, Nat.mul_zero, Nat.zero_add,
        Nat.ofDigitChars_eq_ofDigitChars_zero, List.length_cons, Nat.pow_succ]
      have leading : 10 ^ rest.length * (c.toNat - '0'.toNat) ≤ 10 ^ rest.length * 9 :=
        Nat.mul_le_mul_left _ value
      omega

@[simp]
theorem decimalNumber_toDigits (number : Nat) :
    decimalNumber (Nat.toDigits 10 number) = number :=
  Nat.ofDigitChars_ten_toDigits

theorem decimalNumber_append (digits : List Char) (c : Char) :
    decimalNumber (digits ++ [c]) = 10 * decimalNumber digits + (c.toNat - '0'.toNat) := by
  simp [decimalNumber, Nat.ofDigitChars_append, Nat.ofDigitChars_cons]

/-- A numeral without leading zeros is the one that its number is written with. -/
theorem toDigits_decimalNumber {digits : List Char}
    (allDigits : ∀ c ∈ digits, c.isDigit = true) (nonempty : digits ≠ [])
    (noZero : digits.head? ≠ some '0') : Nat.toDigits 10 (decimalNumber digits) = digits := by
  induction digits using List.reverseRecOn with
  | nil => exact absurd rfl nonempty
  | append_singleton earlier c inductionHypothesis =>
      have digit := allDigits c (List.mem_append_right _ List.mem_cons_self)
      have small : c.toNat - '0'.toNat < 10 := Nat.lt_succ_of_le (digitValue_le digit)
      have last : Nat.toDigits 10 (c.toNat - '0'.toNat) = [c] := by
        rw [Nat.toDigits_of_lt_base small, digitChar_of_isDigit digit]
      rw [decimalNumber_append]
      cases earlier with
      | nil => simpa [decimalNumber] using last
      | cons first rest =>
          have written := inductionHypothesis
            (fun c membership => allDigits c (List.mem_append_left _ membership))
            (List.cons_ne_nil _ _) noZero
          have positive : 0 < decimalNumber (first :: rest) := by
            apply Nat.pos_of_ne_zero
            intro zero
            rw [zero, Nat.toDigits_zero] at written
            exact noZero (written ▸ rfl)
          rw [← Nat.toDigits_append_toDigits (by decide) positive small, written, last]

theorem head?_toDigits {number : Nat} (positive : 0 < number) :
    (Nat.toDigits 10 number).head? ≠ some '0' := by
  intro zero
  cases written : Nat.toDigits 10 number with
  | nil => exact Nat.toDigits_ne_nil written
  | cons first rest =>
      rw [written] at zero
      cases zero
      have value : number = decimalNumber rest := by
        rw [← decimalNumber_toDigits number, written]
        simp [decimalNumber, Nat.ofDigitChars_cons]
      -- Without its zero the numeral would be too short for the number.
      have below := decimalNumber_lt fun c membership => Nat.isDigit_of_mem_toDigits
        (by decide) (by decide) (written ▸ List.mem_cons_of_mem '0' membership)
      have shorter : (Nat.toDigits 10 number).length ≤ rest.length := by
        refine (Nat.length_toDigits_le_iff (by decide) ?_).mpr (value ▸ below)
        apply Nat.pos_of_ne_zero
        intro empty
        rw [empty] at below
        omega
      rw [written, List.length_cons] at shorter
      omega

/-- One to four decimal digits of a number that is not zero. -/
@[ext]
structure LengthSpelling where
  digits : List Char
  allDigits : ∀ c ∈ digits, c.isDigit = true
  nonempty : 1 ≤ digits.length
  atMostFour : digits.length ≤ 4
  positive : 1 ≤ decimalNumber digits

theorem LengthSpelling.bounded (spelling : LengthSpelling) :
    decimalNumber spelling.digits ≤ 9999 := by
  have below := decimalNumber_lt spelling.allDigits
  have power : 10 ^ spelling.digits.length ≤ 10 ^ 4 :=
    Nat.pow_le_pow_right (by decide) spelling.atMostFour
  omega

namespace LengthSpelling

/-- The same length without leading zeros. -/
def canonical (spelling : LengthSpelling) : LengthSpelling where
  digits := Nat.toDigits 10 (decimalNumber spelling.digits)
  allDigits := fun _ membership =>
    Nat.isDigit_of_mem_toDigits (by decide) (by decide) membership
  nonempty := Nat.length_toDigits_pos
  atMostFour := (Nat.length_toDigits_le_iff (by decide) (by decide)).mpr
    (Nat.lt_succ_of_le spelling.bounded)
  positive := by
    rw [decimalNumber_toDigits]
    exact spelling.positive

theorem canonical_eq_self_iff (spelling : LengthSpelling) :
    spelling.canonical = spelling ↔ spelling.digits.head? ≠ some '0' := by
  constructor
  · intro same
    rw [← same]
    exact head?_toDigits spelling.positive
  · intro noZero
    exact LengthSpelling.ext (toDigits_decimalNumber spelling.allDigits
      (List.length_pos_iff.mp spelling.nonempty) noZero)

end LengthSpelling

end UriExpansion
