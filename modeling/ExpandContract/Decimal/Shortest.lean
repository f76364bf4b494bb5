/-!
# The shortest decimal text of a floating-point number

A double stands for a whole interval of real numbers: all those that are rounded to it. Its shortest
decimal is the decimal with the fewest digits inside the interval, and of those with equally few
digits the one nearest to the double.

A positive double is a product `m · 2 ^ q`. The search works with whole numbers only: the double and
the two ends of its interval are brought over one common denominator, and for each number of
decimal places, from few to many, the two neighbours of the double on that decimal grid are tried.
-/

set_option autoImplicit false

namespace ExpandContract.Decimal

/-- A positive rational interval around a value, over a common denominator. -/
structure Interval where
  low : Nat
  value : Nat
  high : Nat
  denominator : Nat
  /-- Whether the two ends belong to the interval. -/
  closed : Bool
deriving DecidableEq, Repr

/-- The reals that are rounded to the double `m · 2 ^ q`. Below a power of two the doubles lie twice
as close, so the interval is shorter on that side. -/
def roundingInterval (m : Nat) (q : Int) : Interval :=
  let lower := if m = Nat.pow 2 52 ∧ q > -1074 then 4 * m - 1 else 4 * m - 2
  let up := if 0 ≤ q then Nat.pow 2 q.toNat else 1
  let down := if 0 ≤ q then 4 else 4 * Nat.pow 2 (-q).toNat
  { low := lower * up
    value := 4 * m * up
    high := (4 * m + 2) * up
    denominator := down
    closed := m % 2 = 0 }

/-- Whether the decimal `n · 10 ^ e` lies in the interval. -/
def Interval.holds (i : Interval) (n : Nat) (e : Int) : Bool :=
  let num := if 0 ≤ e then n * Nat.pow 10 e.toNat * i.denominator else n * i.denominator
  let den := if 0 ≤ e then 1 else Nat.pow 10 (-e).toNat
  if i.closed then i.low * den ≤ num && num ≤ i.high * den
  else i.low * den < num && num < i.high * den

/-- The double's neighbour from below on the grid of the multiples of `10 ^ e`, and the distances to
the neighbours from below and above, in a common unit. -/
def Interval.neighbour (i : Interval) (e : Int) : Nat × Nat × Nat :=
  let num := if 0 ≤ e then i.value else i.value * Nat.pow 10 (-e).toNat
  let den := if 0 ≤ e then i.denominator * Nat.pow 10 e.toNat else i.denominator
  (num / den, num % den, den - num % den)

/-- The decimal of the grid of the multiples of `10 ^ e` that reads back, if there is one: the
nearer neighbour where both do, and the even one where both are equally near. -/
def Interval.onGrid (i : Interval) (e : Int) : Option Nat :=
  let (below, distance, rest) := i.neighbour e
  let lowHolds := below != 0 && i.holds below e
  let highHolds := i.holds (below + 1) e
  if lowHolds && highHolds then
    if distance < rest then some below
    else if rest < distance then some (below + 1)
    else if below % 2 = 0 then some below else some (below + 1)
  else if lowHolds then some below
  else if highHolds then some (below + 1)
  else none

/-- Tries the grids from `e` downwards and gives the first decimal that reads back. -/
def Interval.search (i : Interval) : Nat → Int → Nat × Int
  | 0, e => (i.value / i.denominator, e)
  | fuel + 1, e =>
      match i.onGrid e with
      | some n => (n, e)
      | none => i.search fuel (e - 1)

/-- The shortest decimal `n · 10 ^ e` of the positive double `m · 2 ^ q`. No double lies above
`10 ^ 309`, and none needs a place beyond `10 ^ (-324)`. -/
def shortest (m : Nat) (q : Int) : Nat × Int :=
  (roundingInterval m q).search 640 309

/-! ## Text -/

/-- The digits of the fraction and the exponent of two in the bits of a positive double. -/
def decode (bits : Nat) : Nat × Int :=
  let fraction : Nat := bits % Nat.pow 2 52
  let exponent : Nat := bits / Nat.pow 2 52 % Nat.pow 2 11
  if exponent = 0 then (fraction, -1074)
  else (fraction + Nat.pow 2 52, (exponent : Int) - 1075)

/-- Digits without the zeros at their end, and the number of zeros taken away. -/
def dropZeros (digits : List Char) : List Char × Nat :=
  let kept := digits.reverse.dropWhile (· == '0')
  (kept.reverse, digits.length - kept.length)

/-- Digits in positional notation, with at least one digit on each side of the point; `point` is
the number of digits before the point, negative where zeros follow it. -/
def positional (digits : List Char) (point : Int) : List Char :=
  if point ≤ 0 then '0' :: '.' :: List.replicate (-point).toNat '0' ++ digits
  else
    let whole := digits.take point.toNat
    let zeros := List.replicate (point.toNat - digits.length) '0'
    let rest := digits.drop point.toNat
    whole ++ zeros ++ '.' :: (if rest.isEmpty then ['0'] else rest)

/-- Digits in scientific notation, one of them before the point. -/
def scientific (digits : List Char) (point : Int) : List Char :=
  digits.take 1 ++ (if digits.length ≤ 1 then [] else '.' :: digits.drop 1) ++
    'e' :: (toString (point - 1)).toList

/-- The text of a double that is not negative: positional from `10 ^ (-4)` to below `10 ^ 16`, and
scientific outside of that. -/
def textOfBits (bits : Nat) : List Char :=
  let (m, q) := decode bits
  if m = 0 then ['0', '.', '0']
  else
    let (n, e) := shortest m q
    let (digits, zeros) := dropZeros (Nat.toDigits 10 n)
    let point : Int := digits.length + e + zeros
    if -3 ≤ point ∧ point ≤ 16 then positional digits point else scientific digits point

/-- The shortest text that reads back as the finite double. -/
def ofFloat (x : Float) : String :=
  let bits := x.toBits.toNat
  let text := textOfBits (bits % Nat.pow 2 63)
  String.ofList (if bits < Nat.pow 2 63 then text else '-' :: text)

end ExpandContract.Decimal
