/-
**Numbers in decimal digits.**

A number is written in decimal digits, with an optional sign in front, and must fit into 64 bits.
Whether an argument *looks like* a negative number is a separate and looser question, which
decides whether it is an option: there a fraction and an exponent are allowed too.

Main definitions:

* `Tabular.Number.parseInteger`, `Tabular.Number.parseCount` — **signed and unsigned numbers**;
* `Tabular.Number.isNumeric` — whether characters look like a number;
* `Tabular.Number.isReal` — whether characters are a real number, infinite ones included.
-/

set_option autoImplicit false

namespace Tabular

namespace Number

/-- The smallest number of 64 bits with a sign. -/
def minInteger : Int := -9223372036854775808

/-- The largest number of 64 bits with a sign. -/
def maxInteger : Int := 9223372036854775807

/-- The largest number of 64 bits without a sign. -/
def maxCount : Nat := 18446744073709551615

/-- The number that digits stand for, the most significant first. -/
def ofDigits (ds : List Char) : Nat := ds.foldl (fun n d => 10 * n + (d.toNat - '0'.toNat)) 0

/-- The number written as one or more digits. -/
def digits? (cs : List Char) : Option Nat :=
  if cs.isEmpty || !cs.all Char.isDigit then none else some (ofDigits cs)

/-- **A number of 64 bits with a sign.** -/
def parseInteger (arg : String) : Option Int := do
  let n ← match arg.toList with
    | '-' :: ds => (digits? ds).map fun n => -(n : Int)
    | '+' :: ds => (digits? ds).map Int.ofNat
    | ds => (digits? ds).map Int.ofNat
  if minInteger ≤ n ∧ n ≤ maxInteger then some n else none

/-- **A number of 64 bits without a sign.** -/
def parseCount (arg : String) : Option Nat := do
  let n ← match arg.toList with
    | '+' :: ds => digits? ds
    | ds => digits? ds
  if n ≤ maxCount then some n else none

/-- Whether characters are an exponent, or nothing. -/
def isExponent : List Char → Bool
  | [] => true
  | c :: ds => (c == 'e' || c == 'E') && !ds.isEmpty && ds.all Char.isDigit

/-- **Whether characters look like a number**: digits, then perhaps a point and more digits, then
perhaps an exponent. -/
def isNumeric (cs : List Char) : Bool :=
  !(cs.takeWhile Char.isDigit).isEmpty &&
    match cs.dropWhile Char.isDigit with
    | '.' :: rest => isExponent (rest.dropWhile Char.isDigit)
    | rest => isExponent rest

/-- Whether characters are digits, perhaps with a point before, among or after them, and then
perhaps an exponent, which may have a sign. -/
def isUnsignedReal (cs : List Char) : Bool :=
  let rest := cs.dropWhile Char.isDigit
  let fraction := if rest.head? == some '.' then rest.drop 1 else []
  let exponent := if rest.head? == some '.' then fraction.dropWhile Char.isDigit else rest
  ((cs.takeWhile Char.isDigit) ++ (fraction.takeWhile Char.isDigit)).length != 0
    && match exponent with
      | e :: '+' :: ds => isExponent (e :: ds)
      | e :: '-' :: ds => isExponent (e :: ds)
      | exponent => isExponent exponent

/-- **Whether characters are a real number**: digits with a point among them or none, and perhaps
an exponent, or a word for what is infinite or no number; with a sign or without. -/
def isReal (cs : List Char) : Bool :=
  let body := if cs.head? == some '+' || cs.head? == some '-' then cs.drop 1 else cs
  ["inf", "infinity", "nan"].contains (String.ofList body).toLower || isUnsignedReal body

end Number

end Tabular
