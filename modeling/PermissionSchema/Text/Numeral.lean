import PermissionSchema.Text.Basic

/-!
# Numerals

The numbers that digits stand for, in any base up to sixteen. Writing a number in digits and reading
them gives it back (`value_toDigits`), so different numbers have different digits.
-/

namespace PermissionSchema.Numeral

/-- The value of a digit, of which the letters are digits above nine. -/
def digit? (c : Char) : Option Nat :=
  if c.isDigit then some (c.toNat - '0'.toNat)
  else if 'a' ≤ c && c ≤ 'f' then some (c.toNat - 'a'.toNat + 10)
  else if 'A' ≤ c && c ≤ 'F' then some (c.toNat - 'A'.toNat + 10)
  else none

/-- The number that digits stand for in a base; what is no digit counts as zero. -/
def value (base : Nat) (digits : Text) : Nat :=
  digits.foldl (fun n c => base * n + (digit? c).getD 0) 0

/-- The number that decimal digits stand for; a plus sign may stand before them. -/
def natural? (text : Text) : Option Nat :=
  let digits := if text.head? = some '+' then text.tail else text
  if digits.isEmpty || !digits.all Char.isDigit then none else some (value 10 digits)

theorem value_append (base : Nat) (front back : Text) :
    value base (front ++ back) =
      back.foldl (fun n c => base * n + (digit? c).getD 0) (value base front) :=
  List.foldl_append

@[simp] theorem value_replicate_zero (base count : Nat) :
    value base (List.replicate count '0') = 0 := by
  induction count with
  | zero => rfl
  | succ count ih =>
    rw [List.replicate_succ', value_append, ih]
    exact Nat.mul_zero base

/-- Zeros before the digits do not count. -/
theorem value_replicate_zero_append (base count : Nat) (digits : Text) :
    value base (List.replicate count '0' ++ digits) = value base digits := by
  rw [value_append, value_replicate_zero]
  rfl

theorem digit?_digitChar {d : Nat} (h : d < 16) : digit? (Nat.digitChar d) = some d := by
  have hall : ∀ d < 16, digit? (Nat.digitChar d) = some d := by decide
  exact hall d h

section

variable {base : Nat} (hone : 1 < base) (hbase : base ≤ 16)
include hone hbase

/-- Digits stand for the number that they were written for. -/
theorem value_toDigits (n : Nat) : value base (Nat.toDigits base n) = n := by
  induction n using Nat.base_induction base hone with
  | single m hm =>
    simp [Nat.toDigits_of_lt_base hm, value, digit?_digitChar (Nat.lt_of_lt_of_le hm hbase)]
  | digit m k hk hm ih =>
    rw [← Nat.toDigits_append_toDigits hone hm hk, value_append, ih, Nat.toDigits_of_lt_base hk]
    simp [digit?_digitChar (Nat.lt_of_lt_of_le hk hbase)]

theorem toDigits_inj {n m : Nat} (h : Nat.toDigits base n = Nat.toDigits base m) : n = m := by
  rw [← value_toDigits hone hbase n, h, value_toDigits hone hbase m]

theorem isSome_digit?_of_mem_toDigits {n : Nat} {c : Char} (hmem : c ∈ Nat.toDigits base n) :
    (digit? c).isSome = true := by
  induction n using Nat.base_induction base hone with
  | single m hm =>
    rw [Nat.toDigits_of_lt_base hm, List.mem_singleton] at hmem
    rw [hmem, digit?_digitChar (Nat.lt_of_lt_of_le hm hbase)]
    rfl
  | digit m k hk hm ih =>
    rw [← Nat.toDigits_append_toDigits hone hm hk, List.mem_append, Nat.toDigits_of_lt_base hk,
      List.mem_singleton] at hmem
    rcases hmem with hmem | rfl
    · exact ih hmem
    · rw [digit?_digitChar (Nat.lt_of_lt_of_le hk hbase)]
      rfl

end

/-- Only zero is written with a zero before all other digits. -/
theorem head?_toDigits_ne_zero {base n : Nat} (hone : 1 < base) (hn : 0 < n) :
    (Nat.toDigits base n).head? ≠ some '0' := by
  induction n using Nat.base_induction base hone with
  | single m hm =>
    rw [Nat.toDigits_of_lt_base hm, List.head?_cons, Ne, Option.some.injEq,
      Nat.digitChar_eq_zero]
    exact Nat.ne_of_gt hn
  | digit m k hk hm ih =>
    obtain ⟨first, digits, hdigits⟩ :=
      List.exists_cons_of_ne_nil (Nat.toDigits_ne_nil (b := base) (n := m))
    rw [← Nat.toDigits_append_toDigits hone hm hk]
    rw [hdigits] at ih ⊢
    exact ih hm

end PermissionSchema.Numeral
