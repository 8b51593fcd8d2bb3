namespace ModelRuns

/-!
# Digits

Whole numbers are written with digits in some base up to sixteen.  A letter
stands for the same digit in either case.
-/

/-- The value of a hexadecimal digit. -/
def hexValue? (c : Char) : Option Nat :=
  if '0' ≤ c ∧ c ≤ '9' then some (c.toNat - '0'.toNat)
  else if 'a' ≤ c ∧ c ≤ 'f' then some (c.toNat - 'a'.toNat + 10)
  else if 'A' ≤ c ∧ c ≤ 'F' then some (c.toNat - 'A'.toNat + 10)
  else none

/-- The number that digits write in a base, if all of them are digits of that
base.  No digits write zero. -/
def numberIn? (base : Nat) (digits : List Char) : Option Nat :=
  digits.foldlM (fun value c =>
    (hexValue? c).bind fun digit =>
      if digit < base then some (value * base + digit) else none) 0

end ModelRuns
