import ServiceContract.Decimal.Binary64

/-!
# The shortest decimal that reads back

Among the decimals that round to a double, `shortest` chooses one with the fewest digits and of
those the nearest, an even last digit deciding a tie. The search goes over ever finer decimal grids
and looks only at the two grid points beside the number: if any point of a grid rounds to it, one of
these two does.
-/

namespace ServiceContract.Decimal

/-- A positive number and the interval that rounds to it, over one denominator. -/
structure Span where
  low : Nat
  value : Nat
  high : Nat
  denominator : Nat
  /-- The ends belong to the interval. -/
  closed : Bool

/-- The interval of the positive double `significand · 2 ^ exponent`: half-way to each neighbour,
where the lower neighbour of a power of two is only half as far. -/
def Binary64.span (x : Binary64) : Span :=
  let quarter := x.exponent - 2
  let scale := Nat.pow 2 quarter.toNat
  let below := if x.significand = leastFullSignificand && leastExponent < x.exponent then 1 else 2
  { low := (4 * x.significand - below) * scale
    value := 4 * x.significand * scale
    high := (4 * x.significand + 2) * scale
    denominator := Nat.pow 2 (-quarter).toNat
    closed := x.significand % 2 = 0 }

/-- A decimal: `digits · 10 ^ exponent`. -/
structure Point where
  digits : Nat
  exponent : Int

/-- The point as a fraction over `denominator`, with the power of ten that this fraction and the
span's numbers have in common left out: first the point, then the factor for the others. -/
def Point.over (p : Point) (denominator : Nat) : Nat × Nat :=
  (p.digits * denominator * Nat.pow 10 p.exponent.toNat, Nat.pow 10 (-p.exponent).toNat)

/-- Whether the point lies in the span. -/
def Span.holds (s : Span) (p : Point) : Bool :=
  let (point, factor) := p.over s.denominator
  let low := s.low * factor
  let high := s.high * factor
  if s.closed then low ≤ point && point ≤ high else low < point && point < high

/-- The exponent `k` with `10 ^ k ≤ value < 10 ^ (k + 1)`. -/
def Span.floorLog10 (s : Span) : Int :=
  if s.denominator ≤ s.value then
    (Nat.toDigits 10 (s.value / s.denominator)).length - 1
  else
    match (List.range 330).find? fun k => s.denominator ≤ s.value * Nat.pow 10 k with
    | some k => -k
    | none => 0

/-- The two points beside the value on the grid `10 ^ exponent`. -/
def Span.neighbours (s : Span) (exponent : Int) : Point × Point :=
  let whole :=
    s.value * Nat.pow 10 (-exponent).toNat / (s.denominator * Nat.pow 10 exponent.toNat)
  (⟨whole, exponent⟩, ⟨whole + 1, exponent⟩)

/-- The nearer of the two points beside the value, with the even one on a tie. -/
def Span.nearer (s : Span) (lower upper : Point) : Point :=
  let (below, factor) := lower.over s.denominator
  let (above, _) := upper.over s.denominator
  let value := s.value * factor
  if value - below < above - value then lower
  else if above - value < value - below then upper
  else if lower.digits % 2 = 0 then lower
  else upper

/-- The point to write on the grid `10 ^ exponent`, if one of the two beside the value will do. -/
def Span.onGrid? (s : Span) (exponent : Int) : Option Point :=
  let (lower, upper) := s.neighbours exponent
  match s.holds lower, s.holds upper with
  | true, true => some (s.nearer lower upper)
  | true, false => some lower
  | false, true => some upper
  | false, false => none

/-- Moves zeros at the end of the digits into the exponent. -/
def Point.trim : (steps : Nat) → Point → Point
  | 0, p => p
  | steps + 1, p =>
    if p.digits ≠ 0 ∧ p.digits % 10 = 0 then Point.trim steps ⟨p.digits / 10, p.exponent + 1⟩ else p

/-- The shortest decimal for the absolute value of `x`. Seventeen digits always suffice. -/
def Binary64.shortest (x : Binary64) : Point :=
  if x.significand = 0 then ⟨0, 0⟩
  else
    let s := x.span
    -- the grid with one digit first, then ever finer ones
    let top := s.floorLog10
    match (List.range 17).findSome? fun (count : Nat) => s.onGrid? (top - count) with
    | some p => p.trim 20
    | none => ⟨0, 0⟩

/-- How a number in decimal notation is laid out. -/
structure NumberFormat where
  /-- The exponents of the leading digit that are written positionally: first and last. -/
  positional : Int × Int
  /-- The mark between the digits and a positive exponent. -/
  positiveExponent : String
  /-- The mark between the digits and a negative exponent. -/
  negativeExponent : String

/-- The decimal places `digits`, of which the first stands at `10 ^ leading`. -/
def NumberFormat.write (format : NumberFormat) (digits : List Char) (leading : Int) : String :=
  if format.positional.1 ≤ leading ∧ leading ≤ format.positional.2 then
    if leading < 0 then
      "0." ++ String.ofList (List.replicate (-leading - 1).toNat '0' ++ digits)
    else
      let whole := leading.toNat + 1
      let padded := digits ++ List.replicate (whole - digits.length) '0'
      let fraction := padded.drop whole
      String.ofList (padded.take whole) ++ "."
        ++ (if fraction.isEmpty then "0" else String.ofList fraction)
  else
    let mantissa := match digits with
      | [] => "0"
      | [d] => d.toString
      | d :: rest => d.toString ++ "." ++ String.ofList rest
    mantissa ++ (if leading < 0 then format.negativeExponent ++ toString (-leading).toNat
      else format.positiveExponent ++ toString leading.toNat)

/-- The text of `x` in the given format, with at least one decimal place or an exponent. -/
def Binary64.write (format : NumberFormat) (x : Binary64) : String :=
  let p := x.shortest
  let digits := Nat.toDigits 10 p.digits
  (if x.negative then "-" else "") ++ format.write digits (digits.length - 1 + p.exponent)

end ServiceContract.Decimal
