/-!
# Shortest decimal digits of a binary floating-point number

A positive finite number is `m · 2^e`. Every real number closer to it than to its neighbours reads back
as the same number; the two midpoints do so when `m` is even. `shortest` gives the decimal `c · 10^k` in
that interval with the fewest digits, and of those the nearest. On each decimal grid it is enough to
test the two points next to the number: if any point of the grid lies in the interval, one of them does.
-/

namespace TabularReport.Decimal

/-- The number `m · 2^e`, with the flag that its lower neighbour is only half as far as its upper one. -/
structure Binary where
  m : Nat
  e : Int
  narrowBelow : Bool
deriving DecidableEq, Repr

/-- The absolute value of a finite floating-point number from its 64 bits. -/
def Binary.ofBits (bits : UInt64) : Binary :=
  let n := bits.toNat
  let fraction : Nat := n % Nat.pow 2 52
  let exponent : Nat := n / Nat.pow 2 52 % Nat.pow 2 11
  if exponent = 0 then ⟨fraction, -1074, false⟩
  else ⟨Nat.pow 2 52 + fraction, (exponent : Int) - 1075, fraction == 0 && exponent != 1⟩

/-- Numerator and denominator of `m · 2^e`. -/
def Binary.ratio (b : Binary) : Nat × Nat :=
  (b.m * Nat.pow 2 b.e.toNat, Nat.pow 2 (-b.e).toNat)

/-- The number of leading zeros after the point of a fraction `num / den` below one, at most `fuel`. -/
def zerosAfterPoint (num den : Nat) : Nat → Nat
  | 0 => 0
  | fuel + 1 => if num * 10 < den then zerosAfterPoint (num * 10) den fuel + 1 else 0

/-- The position `p` of the first digit: `10^(p-1) ≤ x < 10^p`. -/
def Binary.magnitude (b : Binary) : Int :=
  let (num, den) := b.ratio
  if den ≤ num then ((Nat.toDigits 10 (num / den)).length : Int)
  else -(zerosAfterPoint num den 400 : Int)

/-- Whether `c · 10^k` reads back as the number. All three sides are multiples of `2^(e-2)`: the number
is `4m` of them. -/
def Binary.covers (b : Binary) (c : Nat) (k : Int) : Bool :=
  let u := b.e - 2
  let point := c * Nat.pow 10 k.toNat * Nat.pow 2 (-u).toNat
  let unit := Nat.pow 10 (-k).toNat * Nat.pow 2 u.toNat
  let low := (if b.narrowBelow then 4 * b.m - 1 else 4 * b.m - 2) * unit
  let high := (4 * b.m + 2) * unit
  if b.m % 2 = 0 then low ≤ point && point ≤ high else low < point && point < high

/-- The grid point of `10^k` just below or at the number. -/
def Binary.floorAt (b : Binary) (k : Int) : Nat :=
  let (num, den) := b.ratio
  num * Nat.pow 10 (-k).toNat / (den * Nat.pow 10 k.toNat)

/-- Whether the number is at least as close to the lower grid point `c` as to `c + 1`. -/
def Binary.nearerBelow (b : Binary) (c : Nat) (k : Int) : Bool :=
  let (num, den) := b.ratio
  2 * (num * Nat.pow 10 (-k).toNat) ≤ (2 * c + 1) * (den * Nat.pow 10 k.toNat)

/-- Strip the trailing zeros of `c`, raising the exponent by one for each. -/
def stripZeros (c : Nat) (k : Int) : Nat → Nat × Int
  | 0 => (c, k)
  | fuel + 1 => if c != 0 && c % 10 == 0 then stripZeros (c / 10) (k + 1) fuel else (c, k)

/-- The nearest point of the grid of `10^k` that reads back, if one does. -/
def Binary.onGrid? (b : Binary) (k : Int) : Option Nat :=
  let c := b.floorAt k
  match b.covers c k, b.covers (c + 1) k with
  | true, true => some (if b.nearerBelow c k then c else c + 1)
  | true, false => some c
  | false, true => some (c + 1)
  | false, false => none

/-- The first grid with a hit, from `digits` digits on. -/
def Binary.search (b : Binary) (magnitude : Int) (digits : Nat) : Nat → Nat × Int
  | 0 => (b.floorAt (magnitude - digits), magnitude - digits)
  | fuel + 1 =>
    match b.onGrid? (magnitude - digits) with
    | some c => stripZeros c (magnitude - digits) 20
    | none => b.search magnitude (digits + 1) fuel

/-- Digits `c` without trailing zeros and exponent `k` of the shortest decimal `c · 10^k` that reads back
as the number. Seventeen digits always suffice. -/
def Binary.shortest (b : Binary) : Nat × Int :=
  b.search b.magnitude 1 17

end TabularReport.Decimal
