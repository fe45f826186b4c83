/-
This file holds double-precision numbers as exact fractions. A finite double is a whole number
times a power of two, so arithmetic on doubles is arithmetic on fractions followed by one
rounding, to the nearest double and from a tie to the even one. Reading a decimal literal takes
two such steps: the digits become a double, which is then multiplied or divided by the double of
a power of ten.

The shortest decimal text of a double is found on the decimal grids: among the numbers with one
digit, then with two, and so on, the first grid that has a point closer to this double than to
any other gives the digits.
-/

namespace ParamChain.Number

/-- The finite double `± mantissa · 2 ^ (exponent - 1074)`. -/
structure Binary64 where
  negative : Bool
  mantissa : Nat
  exponent : Nat
  deriving DecidableEq, Repr, Inhabited

/-- The quotient rounded to the nearest whole number, a tie to the even one. -/
def roundQuotient (num den : Nat) : Nat :=
  let q := num / den
  let twice := 2 * (num % den)
  if twice < den then q
  else if den < twice then q + 1
  else if q % 2 = 0 then q else q + 1

/-- The least `e` for which the quotient, in units of `2 ^ (e - 1074)`, is below `2 ^ 53`. -/
def unitExponent (num den : Nat) : Nat :=
  let scaled := num * Nat.pow 2 1074 / den
  if scaled < Nat.pow 2 53 then 0 else scaled.log2 - 52

namespace Binary64

/-- Zero with a sign. -/
def zero (negative : Bool) : Binary64 := ⟨negative, 0, 0⟩

/-- The double nearest to a fraction, `none` beyond the largest double. -/
def ofFraction (negative : Bool) (num den : Nat) : Option Binary64 :=
  let e := unitExponent num den
  let m := roundQuotient (num * Nat.pow 2 1074) (den * Nat.pow 2 e)
  let (m, e) := if m = Nat.pow 2 53 then (Nat.pow 2 52, e + 1) else (m, e)
  if 2045 < e then none else some ⟨negative, m, e⟩

/-- The power of ten as a double, for exponents up to 308. -/
def powerOfTen (k : Nat) : Binary64 :=
  (ofFraction false (Nat.pow 10 k) 1).getD (zero false)

/-- The product of the magnitudes, with the sign of the first factor. -/
def scaleUp (x y : Binary64) : Option Binary64 :=
  ofFraction x.negative (x.mantissa * y.mantissa * Nat.pow 2 (x.exponent + y.exponent))
    (Nat.pow 2 2148)

/-- The quotient of the magnitudes, with the sign of the dividend. -/
def scaleDown (x y : Binary64) : Option Binary64 :=
  ofFraction x.negative (x.mantissa * Nat.pow 2 x.exponent) (y.mantissa * Nat.pow 2 y.exponent)

/-- Divide by `10 ^ k`, in steps of at most `10 ^ 308`. -/
def divideByPower : Nat → Binary64 → Nat → Option Binary64
  | 0, x, _ => some x
  | fuel + 1, x, k =>
    if k ≤ 308 then x.scaleDown (powerOfTen k)
    else if x.mantissa = 0 then some x
    else (x.scaleDown (powerOfTen 308)).bind fun y => divideByPower fuel y (k - 308)

/-- The double of `± digits · 10 ^ exponent`, `none` beyond the largest double. -/
def ofDecimal (negative : Bool) (digits : Nat) (exponent : Int) : Option Binary64 :=
  (ofFraction negative digits 1).bind fun x =>
    if 0 ≤ exponent then
      if exponent ≤ 308 then x.scaleUp (powerOfTen exponent.toNat)
      else if x.mantissa = 0 then some x
      else none
    else divideByPower (exponent.natAbs / 308 + 1) x exponent.natAbs

/-! ### Shortest decimal text -/

/-- Whether `num / den` is closer to the double than to its neighbours, or as close and the
double has an even mantissa. All three fractions are in units of a quarter of the last place. -/
def roundsTo (x : Binary64) (num den : Nat) : Bool :=
  let unit := Nat.pow 2 x.exponent
  let value := 4 * (num * Nat.pow 2 1074)
  let high := (4 * x.mantissa + 2) * unit * den
  let down := if x.mantissa = Nat.pow 2 52 && 0 < x.exponent then 1 else 2
  let low := (4 * x.mantissa - down) * unit * den
  if x.mantissa % 2 = 0 then low ≤ value && value ≤ high else low < value && value < high

/-- The number of decimal digits before the point of a positive fraction, less one; negative for
fractions below one. -/
def decimalExponent (num den : Nat) : Int :=
  if den ≤ num then ((toString (num / den)).length : Int) - 1
  else -(((toString ((den + num - 1) / num - 1)).length : Int))

/-- The double in units of `10 ^ grid`, as numerator and denominator. -/
def gridFraction (x : Binary64) (grid : Int) : Nat × Nat :=
  let num := x.mantissa * Nat.pow 2 x.exponent
  let den := Nat.pow 2 1074
  if 0 ≤ grid then (num, den * Nat.pow 10 grid.toNat) else (num * Nat.pow 10 grid.natAbs, den)

/-- Whether the grid point reads back as the double. -/
def gridPointRoundsTo (x : Binary64) (grid : Int) (point : Nat) : Bool :=
  if 0 ≤ grid then x.roundsTo (point * Nat.pow 10 grid.toNat) 1
  else x.roundsTo point (Nat.pow 10 grid.natAbs)

/-- The grid point next to the double that reads back as it, if there is one: the nearer of the
two neighbours, from a tie the even one. -/
def nearestOnGrid (x : Binary64) (grid : Int) : Option Nat :=
  let (num, den) := x.gridFraction grid
  let low := num / den
  let near := roundQuotient num den
  let far := if near = low then low + 1 else low
  if x.gridPointRoundsTo grid near then some near
  else if x.gridPointRoundsTo grid far then some far
  else none

/-- Search the grids with `count`, `count + 1`, … digits, `fuel` of them. -/
def searchGrids (x : Binary64) (exponent : Int) : Nat → Nat → Nat × Int
  | 0, _ => (0, 0)
  | fuel + 1, count =>
    let grid := exponent - (count : Int) + 1
    match x.nearestOnGrid grid with
    | some point => (point, grid)
    | none => searchGrids x exponent fuel (count + 1)

/-- The shortest decimal `digits · 10 ^ grid` that reads back as a positive double. -/
def shortest (x : Binary64) : Nat × Int :=
  searchGrids x (decimalExponent (x.mantissa * Nat.pow 2 x.exponent) (Nat.pow 2 1074)) 17 1

/-- Drop trailing zeros, raising the exponent. -/
def dropZeros : Nat → Nat → Int → Nat × Int
  | 0, digits, grid => (digits, grid)
  | fuel + 1, digits, grid =>
    if digits % 10 = 0 && 0 < digits then dropZeros fuel (digits / 10) (grid + 1)
    else (digits, grid)

/-- The text of a double: plain digits with a point for decimal exponents from -5 to 15, and
scientific notation with a signed exponent outside. -/
def render (x : Binary64) : String :=
  let sign := if x.negative then "-" else ""
  if x.mantissa = 0 then sign ++ "0.0"
  else
    let (point, pointGrid) := x.shortest
    let (digits, grid) := dropZeros 20 point pointGrid
    let text := (toString digits).toList
    let exponent := grid + (text.length : Int) - 1
    if -5 ≤ exponent && exponent ≤ 15 then
      if 0 ≤ grid then
        sign ++ String.ofList (text ++ List.replicate grid.toNat '0') ++ ".0"
      else if 0 ≤ exponent then
        let whole := exponent.toNat + 1
        sign ++ String.ofList (text.take whole ++ '.' :: text.drop whole)
      else
        sign ++ "0." ++ String.ofList (List.replicate (exponent.natAbs - 1) '0' ++ text)
    else
      let mark := if exponent < 0 then "e-" else "e+"
      let fraction := if text.length = 1 then text else text.take 1 ++ '.' :: text.drop 1
      sign ++ String.ofList fraction ++ mark ++ toString exponent.natAbs

end Binary64

end ParamChain.Number
