/-!
# Shortest decimals of floating-point numbers

A finite number other than zero is `mantissa · 2 ^ exponent`. Around it lies an interval of reals
that are all read back as this number; its ends belong to it when the mantissa is even. `shortest`
looks for a decimal in the interval on the grids of one, two, … significant digits and takes the
first grid that has one, there the nearer of the two neighbours of the number, and in a tie the even
one.
-/

namespace DagAccess.Number

/-- The size of a finite floating-point number. -/
structure Binary where
  mantissa : Nat
  exponent : Int
  /-- The next smaller number is only half as far away as the next greater one. -/
  narrowBelow : Bool

/-- The size of the finite number with these 64 bits. -/
def Binary.ofBits (bits : UInt64) : Binary :=
  let n := bits.toNat
  let fraction := n % Nat.pow 2 52
  let e := n / Nat.pow 2 52 % Nat.pow 2 11
  if e = 0 then ⟨fraction, -1074, false⟩
  else ⟨Nat.pow 2 52 + fraction, (e : Int) - 1075, fraction = 0 && 1 < e⟩

/-- A quotient of natural numbers that equals `a · 2 ^ x / 10 ^ k`. -/
def onGrid (a : Nat) (x k : Int) : Nat × Nat :=
  (a * Nat.pow 2 x.toNat * Nat.pow 10 (-k).toNat, Nat.pow 2 (-x).toNat * Nat.pow 10 k.toNat)

/-- The number is less than `10 ^ e`. -/
def Binary.below (b : Binary) (e : Int) : Bool :=
  let (num, den) := onGrid b.mantissa b.exponent e
  num < den

/-- The number of digits before the decimal point, negative for zeros after it: the least `e` with
the number less than `10 ^ e`. -/
def Binary.point (b : Binary) : Int :=
  let guess := (b.exponent + b.mantissa.log2) * 30103 / 100000
  (([-2, -1, 0, 1, 2] : List Int).map (guess + ·)).find? b.below |>.getD (guess + 3)

/-- The best decimal of the grid of multiples of `10 ^ k` that is read back as the number. -/
def Binary.onGrid? (b : Binary) (k : Int) : Option Nat :=
  let low := 4 * b.mantissa - (if b.narrowBelow then 1 else 2)
  let (ln, den) := onGrid low (b.exponent - 2) k
  let (mn, _) := onGrid (4 * b.mantissa) (b.exponent - 2) k
  let (hn, _) := onGrid (4 * b.mantissa + 2) (b.exponent - 2) k
  let fits (d : Nat) : Bool :=
    if b.mantissa % 2 = 0 then ln ≤ d * den && d * den ≤ hn else ln < d * den && d * den < hn
  let d := mn / den
  match fits d, fits (d + 1) with
  | false, false => none
  | true, false => some d
  | false, true => some (d + 1)
  | true, true =>
    let rest := 2 * (mn % den)
    if rest < den || (rest = den && d % 2 = 0) then some d else some (d + 1)

/-- A decimal: digits and the power of ten that the last of them counts. -/
structure Decimal where
  digits : Nat
  power : Int
  deriving DecidableEq, Repr

/-- The shortest decimal that is read back as the number. -/
def Binary.shortest (b : Binary) : Decimal :=
  let tries := (List.range 17).findSome? fun n =>
    let k := b.point - (n + 1 : Nat)
    (b.onGrid? k).map (Decimal.mk · k)
  tries.getD ⟨0, 0⟩

end DagAccess.Number
