import EntityGateway.Decimal.Binary64

/-!
# Scaling by a power of ten

`Binary64.scaleByTen m e` reads the decimal `m * 10 ^ e` the quick way a 64-bit reader of JSON
does: `m` is first rounded to binary64, then multiplied (for `e ≥ 0`) or divided (for `e < 0`)
by the binary64 nearest to `10 ^ |e|`, each step rounded to nearest. An exponent below `-308`
first divides by the binary64 nearest to `10 ^ 308` until it comes within range or the value is
zero. A product beyond the largest finite value, or an exponent above `308` with a non-zero
value, is out of range (`none`). The two roundings can miss the binary64 nearest to `m * 10 ^ e`
by one unit in the last place, and that is the value this reading gives.
-/

namespace EntityGateway

namespace Binary64

/-- The product of two numbers, rounded to nearest; `none` beyond the largest finite value. -/
def mul (x y : Binary64) : Option Binary64 := nearest (x.neg != y.neg) (x.magnitude * y.magnitude)

/-- The quotient of two numbers, the divisor non-zero, rounded to nearest. -/
def div (x y : Binary64) : Option Binary64 := nearest (x.neg != y.neg) (x.magnitude / y.magnitude)

/-- The binary64 number nearest to `10 ^ k`, for `k ≤ 308`. -/
def tenPower (k : Nat) : Binary64 := (nearest false ((10 : Rat) ^ (k : Int))).getD ⟨false, 0, 0⟩

/-- Scale `f` by `10 ^ e`, dividing by `10 ^ 308` at most `fuel` times first. -/
def scaleLoop : Nat → Binary64 → Int → Option Binary64
  | 0, f, _ => some f
  | fuel + 1, f, e =>
    if e.natAbs ≤ 308 then
      if 0 ≤ e then mul f (tenPower e.toNat) else div f (tenPower e.natAbs)
    else if f.isZero then some f
    else if 0 ≤ e then none
    else
      match div f (tenPower 308) with
      | some g => scaleLoop fuel g (e + 308)
      | none => none

/-- The decimal `m * 10 ^ e`, for `m < 2 ^ 64`, read by rounding `m` and then scaling it by one
rounded power of ten. Three divisions by `10 ^ 308` bring any such `m` to zero, so four steps
always finish. -/
def scaleByTen (m : Nat) (e : Int) : Option Binary64 :=
  match nearest false (m : Rat) with
  | some f => scaleLoop 4 f e
  | none => none

end Binary64

end EntityGateway
