/-!
# Double-precision numbers, exactly

A finite double is a sign and `significand · 2 ^ exponent` with a significand below `2 ^ 53`. All of
its arithmetic here is on `Nat` and `Int`, so that what a decimal text denotes and how a number is
written can be computed and reasoned about without the machine's operations.
-/

namespace ServiceContract.Decimal

/-- A finite double. Two of them with one value differ only in the sign of zero. -/
structure Binary64 where
  negative : Bool
  significand : Nat
  exponent : Int
  deriving DecidableEq, Repr, Inhabited

/-- All significands are below this, the 53rd power of two. -/
def significandBound : Nat := 0x20000000000000

/-- The least significand of a number with all its bits, the 52nd power of two. -/
def leastFullSignificand : Nat := 0x10000000000000

/-- The least exponent, that of the numbers next to zero. -/
def leastExponent : Int := -1074

/-- The greatest exponent of a finite number. -/
def greatestExponent : Int := 971

/-- `num / den` rounded to a whole number, a half to the even neighbour. -/
def roundQuotient (num den : Nat) : Nat :=
  let whole := num / den
  let rest := 2 * (num % den)
  if rest < den then whole
  else if den < rest then whole + 1
  else whole + whole % 2

/-- The exponent `e` with `2 ^ e ≤ num / den < 2 ^ (e + 1)`, for positive arguments. -/
def floorLog2 (num den : Nat) : Int :=
  let guess : Int := num.log2 - den.log2
  let reached :=
    if 0 ≤ guess then den * Nat.pow 2 guess.toNat ≤ num else den ≤ num * Nat.pow 2 (-guess).toNat
  if reached then guess else guess - 1

namespace Binary64

/-- Zero with the given sign. -/
def zero (negative : Bool) : Binary64 := ⟨negative, 0, leastExponent⟩

/-- The double nearest to `num / den`; none if it is beyond the finite ones. -/
def ofQuotient? (negative : Bool) (num den : Nat) : Option Binary64 :=
  if num = 0 then some (zero negative)
  else
    -- 53 bits of significand, fewer next to zero
    let exponent := max leastExponent (floorLog2 num den - 52)
    let significand :=
      if 0 ≤ exponent then roundQuotient num (den * Nat.pow 2 exponent.toNat)
      else roundQuotient (num * Nat.pow 2 (-exponent).toNat) den
    -- rounding up may need one bit more
    let rounded : Binary64 :=
      if significand = significandBound then ⟨negative, leastFullSignificand, exponent + 1⟩
      else ⟨negative, significand, exponent⟩
    if greatestExponent < rounded.exponent then none else some rounded

/-- The double nearest to `digits · 10 ^ exponent`; none if it is beyond the finite ones. Exponents
so far out that the digits cannot matter are not computed with. -/
def ofDecimal? (negative : Bool) (digits : Nat) (exponent : Int) : Option Binary64 :=
  if digits = 0 then some (zero negative)
  else
    let magnitude : Int := (Nat.toDigits 10 digits).length + exponent
    if 320 < magnitude then none
    else if magnitude < -340 then some (zero negative)
    else if 0 ≤ exponent then ofQuotient? negative (digits * Nat.pow 10 exponent.toNat) 1
    else ofQuotient? negative digits (Nat.pow 10 (-exponent).toNat)

end Binary64

end ServiceContract.Decimal
