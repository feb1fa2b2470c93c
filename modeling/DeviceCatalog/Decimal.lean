import DeviceCatalog.Numeral

/-!
# Decimal numbers

A decimal number is a coefficient times a power of ten. It is read from digits
around an optional point, and written either in positional notation or with
one digit in front of the point and an exponent.
-/
namespace DeviceCatalog

/-- The number `coefficient * 10 ^ exponent`. -/
structure Decimal where
  coefficient : Nat
  exponent : Int
  deriving DecidableEq, Repr

namespace Decimal

def numerator (d : Decimal) : Nat := d.coefficient * Nat.pow 10 d.exponent.toNat

def denominator (d : Decimal) : Nat := Nat.pow 10 (-d.exponent).toNat

theorem denominator_pos (d : Decimal) : 0 < d.denominator := Nat.pow_pos (by decide)

/-- Reads digits with at most one point before, between or after them. -/
def read? (s : String) : Option Decimal :=
  match s.toList.splitOn '.' with
  | [whole] => (Numeral.digits? 10 whole).map fun n => ⟨n, 0⟩
  | [whole, fraction] => (Numeral.digits? 10 (whole ++ fraction)).map fun n => ⟨n, -fraction.length⟩
  | _ => none

/-- The same number with the zeros at the end of its coefficient moved into the exponent. -/
def normalize (d : Decimal) : Decimal :=
  if d.coefficient ≠ 0 ∧ d.coefficient % 10 = 0 then
    normalize ⟨d.coefficient / 10, d.exponent + 1⟩
  else d
termination_by d.coefficient
decreasing_by omega

def digits (d : Decimal) : List Char := Nat.toDigits 10 d.coefficient

theorem digits_ne_nil (d : Decimal) : d.digits ≠ [] := Nat.toDigits_ne_nil

/-- Positional notation. The point is written only when digits follow it. -/
def positional (d : Decimal) : String :=
  let places := (-d.exponent).toNat
  let lead := d.digits.length - places
  String.ofList <|
    if places = 0 then d.digits ++ List.replicate d.exponent.toNat '0'
    else if lead = 0 then
      '0' :: '.' :: (List.replicate (places - d.digits.length) '0' ++ d.digits)
    else d.digits.take lead ++ '.' :: d.digits.drop lead

/-- Exponent notation, with one digit in front of the point. -/
def scientific (d : Decimal) : String :=
  let mantissa :=
    match d.digits with
    | first :: second :: rest => first :: '.' :: second :: rest
    | short => short
  String.ofList (mantissa ++ ['e']) ++ toString (d.exponent + (d.digits.length - 1 : Nat))

end Decimal

end DeviceCatalog
