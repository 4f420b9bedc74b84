import DagAccess.Number.Integer
import DagAccess.Number.Shortest

/-!
# Written real numbers

A real number is written with an optional sign as digits with an optional point and an optional
power of ten, or as `inf`, `infinity` or `nan` in letters of either case. Finite numbers are written
with the fewest digits that are read back.
-/

namespace DagAccess.Number

/-! ## Reading -/

/-- Reads decimal digits. -/
def readDigits (cs : List Char) : List Char × List Char :=
  cs.span Char.isDigit

/-- The value of decimal digits. -/
def digitsValue (cs : List Char) : Nat :=
  cs.foldl (fun n c => n * 10 + (c.toNat - 0x30)) 0

/-- The float nearest to `digits · 10 ^ power`. -/
def ofDecimal (digits : Nat) (power : Int) : Float :=
  let size := power + (toString digits).length
  if digits = 0 || size < -400 then 0.0
  else if 400 < size then 1.0 / 0.0
  else Float.ofScientific digits (power < 0) power.natAbs

/-- Reads a power of ten, if one is written. -/
def readPower : List Char → Option (Int × List Char)
  | c :: cs =>
    if c = 'e' || c = 'E' then
      let (sign, cs) := readSign cs
      match readDigits cs with
      | ([], _) => none
      | (ds, rest) => some (sign * digitsValue ds, rest)
    else some (0, c :: cs)
  | [] => some (0, [])

/-- Reads a number without its sign. -/
def readMagnitude (cs : List Char) : Option (Float × List Char) :=
  let named (name : String) : Bool := (cs.take name.length).map Char.toLower = name.toList
  if named "infinity" then some (1.0 / 0.0, cs.drop 8)
  else if named "inf" then some (1.0 / 0.0, cs.drop 3)
  else if named "nan" then some (0.0 / 0.0, cs.drop 3)
  else
    let (whole, rest) := readDigits cs
    let (part, rest) := match rest with
      | '.' :: rest => readDigits rest
      | rest => ([], rest)
    if whole.isEmpty && part.isEmpty then none
    else (readPower rest).map fun (power, rest) =>
      (ofDecimal (digitsValue (whole ++ part)) (power - part.length), rest)

/-- Reads a whole text as a real number. -/
def readReal (cs : List Char) : Option Float :=
  let (sign, cs) := readSign ((plainForm cs).dropWhile isPlainBlank)
  match readMagnitude cs with
  | some (value, rest) =>
    if rest.all isPlainBlank then some (if sign < 0 then -value else value) else none
  | none => none

/-! ## Writing -/

/-- How a real number is laid out. -/
structure Layout where
  /-- The least position of the point that is written without a power of ten. -/
  leastPoint : Int
  /-- The greatest such position. -/
  greatestPoint : Int
  /-- The least number of digits of a power of ten. -/
  powerWidth : Nat

/-- The digits with the point put in at a position, or with a power of ten. -/
def Layout.write (l : Layout) (digits : List Char) (point : Int) : List Char :=
  if point < l.leastPoint || l.greatestPoint < point then
    let power := point - 1
    let ds := (toString power.natAbs).toList
    let tail := match digits.drop 1 with
      | [] => []
      | more => '.' :: more
    digits.take 1 ++ tail ++ ['e', if power < 0 then '-' else '+']
      ++ List.replicate (l.powerWidth - ds.length) '0' ++ ds
  else if point ≤ 0 then
    '0' :: '.' :: List.replicate point.natAbs '0' ++ digits
  else if digits.length ≤ point.toNat then
    digits ++ List.replicate (point.toNat - digits.length) '0' ++ ['.', '0']
  else digits.take point.toNat ++ '.' :: digits.drop point.toNat

/-- A real number in the layout. -/
def Layout.text (l : Layout) (x : Float) : String :=
  if x.isNaN then "nan"
  else
    let sign := if x.toBits.toNat / Nat.pow 2 63 = 1 then "-" else ""
    if x.isInf then sign ++ "inf"
    else
      let b := Binary.ofBits x.toBits
      let d := b.shortest
      let all := (toString d.digits).toList
      let digits := (all.reverse.dropWhile (· = '0')).reverse
      let body := if b.mantissa = 0 then l.write ['0'] 1 else l.write digits (all.length + d.power)
      sign ++ String.ofList body

/-- Positions of the point from −3 to 16 are written out, powers of ten have two digits or more. -/
def layout : Layout := ⟨-3, 16, 2⟩

/-- The float equals the integer. -/
def equalsInt (x : Float) (n : Int) : Bool :=
  if x.isNaN || x.isInf then false
  else
    let b := Binary.ofBits x.toBits
    let size := n.natAbs
    let agrees := b.mantissa * Nat.pow 2 b.exponent.toNat = size * Nat.pow 2 (-b.exponent).toNat
    agrees && (size = 0 || (n < 0) = (x < 0))

end DagAccess.Number
