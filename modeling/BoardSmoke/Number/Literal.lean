namespace BoardSmoke

-- The number `significand * 10 ^ exponent`, or its negative.
structure Decimal where
  negative : Bool
  significand : Nat
  exponent : Int
  deriving DecidableEq, Repr

inductive Literal where
  | decimal (decimal : Decimal)
  | infinite (negative : Bool)
  | notNumber
  deriving DecidableEq, Repr

namespace Literal

def digitValue (c : Char) : Nat := c.toNat - '0'.toNat

-- The number that decimal digits write, after the digits of `start`.
def ofDigitsFrom (start : Nat) (digits : List Char) : Nat :=
  digits.foldl (fun value c => value * 10 + digitValue c) start

def ofDigits (digits : List Char) : Nat := ofDigitsFrom 0 digits

-- A sign, if there is one: whether it is a minus, and the rest.
def cutSign : List Char → Bool × List Char
  | '-' :: rest => (true, rest)
  | '+' :: rest => (false, rest)
  | rest => (false, rest)

def cutDigits (text : List Char) : List Char × List Char := text.span Char.isDigit

-- An exponent, which needs a digit. No exponent is zero.
def exponent? : List Char → Option Int
  | [] => some 0
  | mark :: rest =>
    if mark = 'e' ∨ mark = 'E' then
      let (negative, rest) := cutSign rest
      let (digits, rest) := cutDigits rest
      if digits = [] ∨ rest ≠ [] then none
      else some (if negative then -(ofDigits digits : Int) else ofDigits digits)
    else none

def cutFraction : List Char → List Char × List Char
  | '.' :: rest => cutDigits rest
  | rest => ([], rest)

-- Digits with an optional point among them, at least one, and an optional exponent.
def decimal? (negative : Bool) (text : List Char) : Option Decimal := do
  let (whole, rest) := cutDigits text
  let (fraction, rest) := cutFraction rest
  let exponent ← exponent? rest
  if whole = [] ∧ fraction = [] then none
  else some {
    negative
    significand := ofDigits (whole ++ fraction)
    exponent := exponent - fraction.length }

-- The words that write no decimal number. Their case does not matter.
def word? (negative : Bool) (text : List Char) : Option Literal :=
  let lower := String.ofList (text.map Char.toLower)
  if lower = "inf" ∨ lower = "infinity" then some (.infinite negative)
  else if lower = "nan" then some .notNumber
  else none

def parse? (text : String) : Option Literal :=
  let (negative, rest) := cutSign text.toList
  match decimal? negative rest with
  | some number => some (.decimal number)
  | none => word? negative rest

end Literal

end BoardSmoke
