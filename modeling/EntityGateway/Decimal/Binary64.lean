/-!
# Binary64 numbers

A finite binary64 number is a sign and a magnitude `mant * 2 ^ exp` with `mant < 2 ^ 53` and
`-1074 ≤ exp ≤ 971`. `Binary64.nearest` rounds a rational to the nearest such number, a tie going
to the even significand, and answers `none` when the rational lies beyond the largest finite
value, where binary64 arithmetic would give an infinity.
-/

namespace EntityGateway

/-- A finite binary64 number: `(-1) ^ neg * mant * 2 ^ exp`. -/
structure Binary64 where
  /-- The sign bit. -/
  neg : Bool
  /-- The significand, below `2 ^ 53`. -/
  mant : Nat
  /-- The binary exponent of the significand's last place. -/
  exp : Int
  deriving DecidableEq, Repr

namespace Binary64

/-- The least exponent of a last place, that of the subnormal numbers. -/
def minExp : Int := -1074

/-- The greatest exponent of a last place. -/
def maxExp : Int := 971

/-- The exact value. -/
def toRat (x : Binary64) : Rat :=
  (if x.neg then -1 else 1) * ((x.mant : Rat) * (2 : Rat) ^ x.exp)

/-- The magnitude, as an exact rational. -/
def magnitude (x : Binary64) : Rat := (x.mant : Rat) * (2 : Rat) ^ x.exp

/-- A natural number nearest to a non-negative rational, a tie going to the even one. -/
def roundEven (q : Rat) : Nat :=
  let f := q.floor.toNat
  let r := q - (f : Rat)
  if r < 1 / 2 then f
  else if 1 / 2 < r then f + 1
  else if f % 2 = 0 then f else f + 1

/-- The exponent `e` with `2 ^ e ≤ q < 2 ^ (e + 1)`, for a positive rational `q`. The
estimate from the bit lengths of numerator and denominator is exact or one too large. -/
def log2Floor (q : Rat) : Int :=
  let e : Int := (Nat.log2 q.num.natAbs : Int) - (Nat.log2 q.den : Int)
  if (2 : Rat) ^ e ≤ q then e else e - 1

/-- The binary64 number nearest to `q ≥ 0`, with the sign `neg`; a tie goes to the even
significand. `none` when `q` rounds beyond the largest finite value. -/
def nearest (neg : Bool) (q : Rat) : Option Binary64 :=
  if q ≤ 0 then some ⟨neg, 0, 0⟩
  else
    let e := max (log2Floor q - 52) minExp
    let m := roundEven (q / (2 : Rat) ^ e)
    let (m, e) := if m = Nat.pow 2 53 then (Nat.pow 2 52, e + 1) else (m, e)
    if m = 0 then some ⟨neg, 0, 0⟩
    else if maxExp < e then none
    else some ⟨neg, m, e⟩

/-- The number is zero, of either sign. -/
def isZero (x : Binary64) : Bool := x.mant == 0

end Binary64

end EntityGateway
