namespace SpendRules
namespace Text

/-!
# Numerals

Natural numbers as digits in a base up to thirty-six.  Letters stand for the digits from ten
on, in either case.
-/

def digitValue (char : Char) : Nat :=
  if '0' ≤ char ∧ char ≤ '9' then char.toNat - '0'.toNat
  else if 'a' ≤ char ∧ char ≤ 'z' then char.toNat - 'a'.toNat + 10
  else if 'A' ≤ char ∧ char ≤ 'Z' then char.toNat - 'A'.toNat + 10
  else 36

def isDigitIn (base : Nat) (char : Char) : Bool :=
  decide (digitValue char < base)

/-- The number that digits stand for, the most significant first; none unless all are digits
and there is one. -/
def numeral? (base : Nat) (chars : List Char) : Option Nat :=
  if !chars.isEmpty && chars.all (isDigitIn base) then
    some (chars.foldl (fun value char => base * value + digitValue char) 0)
  else none

/-- The digit of a number below thirty-six. -/
def digitChar (value : Nat) : Char :=
  if value < 10 then Char.ofNat (48 + value) else Char.ofNat (87 + value)

/-- The digits of a number without leading zeros, in front of given characters. -/
def digitsOnto (base : Nat) (large : 1 < base) (value : Nat) (rest : List Char) : List Char :=
  if value < base then digitChar value :: rest
  else digitsOnto base large (value / base) (digitChar (value % base) :: rest)
termination_by value
decreasing_by exact Nat.div_lt_self (by omega) large

def decimal (value : Nat) : List Char :=
  digitsOnto 10 (by decide) value []

def hexadecimal (value : Nat) : List Char :=
  digitsOnto 16 (by decide) value []

/-- A number written for a machine word: digits, with a plus sign in front or without. -/
def unsigned? (base : Nat) (chars : List Char) : Option Nat :=
  match chars with
  | '+' :: digits => numeral? base digits
  | digits => numeral? base digits

end Text
end SpendRules
