import TabularReport.Text.Basic

/-!
# Reading decimals as floating-point numbers

`nearest` rounds a decimal once, to the nearest floating-point number. `scaled` is the reading of number
literals inside documents: the leading digits as one 64-bit integer, then one multiplication or division
by a power of ten, each step rounded. `parse?` reads a whole text.
-/

namespace TabularReport.Decimal

open Text

/-- The floating-point number nearest to `m · 10^e`; infinite when it is too large. -/
def nearest (m : Nat) (e : Int) : Float :=
  let digits : Int := (Nat.toDigits 10 m).length
  if m = 0 then 0
  else if digits + e > 400 then Float.ofBits 0x7FF0000000000000
  else if digits + e < -400 then 0
  else if e < 0 then Float.ofScientific m true (-e).toNat
  else Float.ofScientific m false e.toNat

/-- The power `10^n` as a floating-point number. -/
def powerOfTen (n : Nat) : Float := nearest 1 n

/-- Divide by `1e308` as often as the exponent needs before one power of ten is left; nothing is left of
zero. -/
def scaleDown (f : Float) (n : Nat) : Nat → Float
  | 0 => f
  | fuel + 1 =>
    if n ≤ 308 then f / powerOfTen n
    else if f == 0 then f
    else scaleDown (f / powerOfTen 308) (n - 308) fuel

/-- The value `m · 10^e` of a literal's digits; nothing when it is beyond the range. -/
def scaled? (m : Nat) (e : Int) : Option Float :=
  let f := Float.ofNat m
  if e < 0 then some (scaleDown f (-e).toNat 4)
  else if m = 0 then some f
  else if e > 308 then none
  else
    let g := f * powerOfTen e.toNat
    if g.isInf then none else some g

/-- The first digits of a literal that fit 64 bits, and how many digits follow them. -/
def leadingDigits : List Char → Nat → Nat × Nat
  | [], m => (m, 0)
  | c :: cs, m =>
    let next := m * 10 + digitValue c
    if next < Nat.pow 2 64 then leadingDigits cs next else (m, (c :: cs).length)

/-- The parts of a decimal text: digits before and after the point, and the exponent. -/
structure Literal where
  whole : List Char
  fraction : List Char
  exponent : Int

/-- The sign of a signed part: whether it is negative, and what follows it. -/
def sign : List Char → Bool × List Char
  | '-' :: cs => (true, cs)
  | '+' :: cs => (false, cs)
  | cs => (false, cs)

/-- Read an exponent part: nothing, or a mark with a signed run of digits to the end of the text. -/
def exponentPart? : List Char → Option Int
  | [] => some 0
  | c :: cs =>
    if c = 'e' || c = 'E' then
      let (negative, ds) := sign cs
      if ds.isEmpty || !ds.all isDigit then none
      else
        let n : Int := digitsValue ds
        some (if negative then -n else n)
    else none

/-- Read an unsigned decimal: digits on at least one side of an optional point, then an exponent. -/
def literal? (cs : List Char) : Option Literal :=
  let whole := cs.takeWhile isDigit
  match cs.dropWhile isDigit with
  | '.' :: rest =>
    let fraction := rest.takeWhile isDigit
    if whole.isEmpty && fraction.isEmpty then none
    else (exponentPart? (rest.dropWhile isDigit)).map fun e => ⟨whole, fraction, e⟩
  | rest => if whole.isEmpty then none else (exponentPart? rest).map fun e => ⟨whole, [], e⟩

/-- The floating-point number nearest to a literal. -/
def Literal.value (l : Literal) : Float :=
  nearest (digitsValue (l.whole ++ l.fraction)) (l.exponent - l.fraction.length)

/-- Read a finite number from a text that holds nothing else. -/
def parse? (cs : List Char) : Option Float :=
  let (negative, rest) := sign cs
  match literal? rest with
  | none => none
  | some l =>
    let x := l.value
    if x.isFinite then some (if negative then -x else x) else none

end TabularReport.Decimal
