import Mathlib.Algebra.Group.Nat.Defs
import Mathlib.Data.Nat.Basic
import Mathlib.Data.List.Basic
import Mathlib.Data.Int.Basic

namespace DigitText

/-- The decimal digits of a number, without leading zeros. -/
def digits (n : ℕ) : List Char := Nat.toDigits 10 n

/-- The number that a text of digits stands for. -/
def value (text : List Char) : ℕ := Nat.ofDigitChars 10 text 0

/-- The digits of a number with zeros in front up to a width. -/
def padded (width n : ℕ) : List Char := List.replicate (width - (digits n).length) '0' ++ digits n

variable {n m width : ℕ} {c : Char} {text rest : List Char}

@[simp] theorem value_digits : value (digits n) = n := Nat.ofDigitChars_toDigits (by decide) (by decide)

theorem isDigit_of_mem_digits (h : c ∈ digits n) : c.isDigit = true :=
  Nat.isDigit_of_mem_toDigits (by decide) (by decide) h

theorem digits_ne_nil : digits n ≠ [] := Nat.toDigits_ne_nil

theorem digits_zero : digits 0 = ['0'] := Nat.toDigits_zero 10

/-- Only zero starts with a zero. -/
theorem head_digits (h : digits n = '0' :: rest) : n = 0 := by
  induction n using Nat.strongRecOn generalizing rest with
  | ind n ih =>
    unfold digits at h
    by_cases hlt : n < 10
    · rw [Nat.toDigits_of_lt_base hlt] at h
      have hdigits : ∀ d < 10, Nat.digitChar d = '0' → d = 0 := by decide
      exact hdigits n hlt (List.cons.inj h).1
    · have hle : 10 ≤ n := not_lt.mp hlt
      rw [Nat.toDigits_of_base_le (by decide) hle] at h
      have hpos : 0 < n / 10 := Nat.div_pos hle (by decide)
      cases hfront : Nat.toDigits 10 (n / 10) with
      | nil => exact absurd hfront Nat.toDigits_ne_nil
      | cons first others =>
        rw [hfront, List.cons_append] at h
        obtain ⟨rfl, -⟩ := List.cons.inj h
        have hzero := ih (n / 10) (Nat.div_lt_self (by omega) (by decide)) hfront
        omega

@[simp] theorem value_padded : value (padded width n) = n := by
  unfold value padded
  rw [Nat.ofDigitChars_append, Nat.ofDigitChars_replicate_zero, Nat.mul_zero]
  exact value_digits

theorem padded_injective : Function.Injective (padded width) := by
  intro n m h
  have hvalue := congrArg value h
  rwa [value_padded, value_padded] at hvalue

theorem length_padded (hpos : 0 < width) (hlt : n < 10 ^ width) : (padded width n).length = width := by
  have hle : (digits n).length ≤ width := (Nat.length_toDigits_le_iff (by decide) hpos).mpr hlt
  unfold padded
  rw [List.length_append, List.length_replicate]
  omega

theorem isDigit_of_mem_padded (h : c ∈ padded width n) : c.isDigit = true := by
  rcases List.mem_append.mp h with hzero | hdigit
  · rw [(List.mem_replicate.mp hzero).2]
    rfl
  · exact isDigit_of_mem_digits hdigit

end DigitText

namespace DecimalText

open DigitText

/-- A decimal: a signed coefficient times a power of ten, or a special value. -/
inductive Decimal
  | finite (negative : Bool) (coefficient : ℕ) (exponent : ℤ)
  | infinity (negative : Bool)
  | nan (negative signaling : Bool) (payload : ℕ)
  deriving DecidableEq

namespace Decimal

def sign (negative : Bool) : List Char := if negative then ['-'] else []

/-- An exponent with its sign. -/
def signedDigits : ℤ → List Char
  | .ofNat n => '+' :: digits n
  | .negSucc n => '-' :: digits (n + 1)

/-- The digits of a coefficient with a point after the given number of them. -/
def placePoint (int : List Char) (dotplace : ℤ) : List Char :=
  if dotplace ≤ 0 then '0' :: '.' :: (List.replicate (-dotplace).toNat '0' ++ int)
  else if (int.length : ℤ) ≤ dotplace then int ++ List.replicate (dotplace - int.length).toNat '0'
  else int.take dotplace.toNat ++ '.' :: int.drop dotplace.toNat

/-- The scientific text. -/
def str : Decimal → List Char
  | .infinity negative => sign negative ++ ['I', 'n', 'f', 'i', 'n', 'i', 't', 'y']
  | .nan negative signaling payload =>
    sign negative ++ (if signaling then ['s', 'N', 'a', 'N'] else ['N', 'a', 'N']) ++
      if payload = 0 then [] else digits payload
  | .finite negative coefficient exponent =>
    let int := digits coefficient
    let leftdigits := exponent + int.length
    let dotplace := if exponent ≤ 0 ∧ -6 < leftdigits then leftdigits else 1
    sign negative ++ placePoint int dotplace ++
      if leftdigits = dotplace then [] else 'E' :: signedDigits (leftdigits - dotplace)

example : str (.finite true 1230 (-2)) = ['-', '1', '2', '.', '3', '0'] := by decide +kernel

end Decimal

end DecimalText
