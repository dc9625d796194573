import TabularReport.Decimal.Shortest

/-!
# Decimal notation of floating-point numbers

A style says where positional writing ends and whether a whole number shows a point. The library has
two: `NumberStyle.value` for numbers inside documents, where a float is always told apart from an integer by
a point or an exponent, and `NumberStyle.plain` for numbers inside messages.
-/

namespace TabularReport.Decimal

/-- The decisions of a written number. -/
structure NumberStyle where
  /-- A whole number ends in a point and a zero. -/
  pointed : Bool
  /-- The exponents of the first digit that are written positionally: from the first up to, but not
  including, the second. Without bounds every number is written positionally. -/
  positional : Option (Int × Int)

/-- Numbers in documents: positional from `1e-5` to below `1e16`, else an exponent with its sign. -/
def NumberStyle.value : NumberStyle := ⟨true, some (-5, 16)⟩

/-- Numbers in messages: always positional, and no point in a whole number. -/
def NumberStyle.plain : NumberStyle := ⟨false, none⟩

/-- Write the decimal with digits `ds` whose point stands `point` places after the first digit's left edge. -/
def NumberStyle.place (n : NumberStyle) (ds : List Char) (point : Int) : List Char :=
  if point ≤ 0 then '0' :: '.' :: (List.replicate (-point).toNat '0' ++ ds)
  else
    let p := point.toNat
    if ds.length ≤ p then
      ds ++ List.replicate (p - ds.length) '0' ++ (if n.pointed then ['.', '0'] else [])
    else ds.take p ++ '.' :: ds.drop p

/-- Write the decimal with digits `ds` and exponent `exponent` of its first digit. -/
def scientific (ds : List Char) (exponent : Int) : List Char :=
  let tail := match ds.tail with
    | [] => []
    | more => '.' :: more
  ds.take 1 ++ tail ++ 'e' :: (if exponent < 0 then '-' else '+') :: Nat.toDigits 10 exponent.natAbs

/-- Write the positive decimal `c · 10^k`. -/
def NumberStyle.digits (n : NumberStyle) (c : Nat) (k : Int) : List Char :=
  let ds := Nat.toDigits 10 c
  let point := k + ds.length
  match n.positional with
  | none => n.place ds point
  | some (first, last) =>
    if first ≤ point - 1 && point - 1 < last then n.place ds point else scientific ds (point - 1)

/-- Write a finite floating-point number. -/
def NumberStyle.write (n : NumberStyle) (x : Float) : String :=
  let bits := x.toBits
  let sign := if bits.toNat < Nat.pow 2 63 then [] else ['-']
  let b := Binary.ofBits bits
  let body :=
    if b.m = 0 then n.place ['0'] 1
    else
      let (c, k) := b.shortest
      n.digits c k
  String.ofList (sign ++ body)

end TabularReport.Decimal
