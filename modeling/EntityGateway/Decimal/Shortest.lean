import EntityGateway.Decimal.Binary64

/-!
# Shortest decimal form

`Binary64.shortest x` gives the decimal `digits * 10 ^ k` with the fewest significant digits that
rounds back to `x`; of two such decimals it takes the one nearer to `x`, and of two equally near
the one with the even last digit. Every real strictly between the midpoints to `x`'s two
neighbours rounds to `x`, and so do the midpoints themselves when `x`'s significand is even.

`Binary64.jsonText` writes that decimal the way JSON writers print a float: positionally with
a decimal point when the number is at least `10 ^ -5` and below `10 ^ 16`, with `.0` after a
whole number, and otherwise as `d.ddde-7` with the fewest exponent digits and no `+`.
-/

namespace EntityGateway

namespace Binary64

/-- The ends of the interval of reals that round to a positive `x`. -/
def roundingInterval (x : Binary64) : Rat × Rat :=
  let v := x.magnitude
  let up := ((x.mant + 1 : Nat) : Rat) * (2 : Rat) ^ x.exp
  let down :=
    if x.mant = Nat.pow 2 52 ∧ minExp < x.exp then ((2 * x.mant - 1 : Nat) : Rat) * (2 : Rat) ^ (x.exp - 1)
    else ((x.mant - 1 : Nat) : Rat) * (2 : Rat) ^ x.exp
  ((v + down) / 2, (v + up) / 2)

/-- The exponent `t` with `10 ^ t ≤ q < 10 ^ (t + 1)` for a positive rational `q`, from an
estimate by the binary exponent, corrected by at most three steps each way. -/
def log10Floor (q : Rat) : Int :=
  let t := (log2Floor q * 30103) / 100000
  let down := fun (t : Int) => if q < (10 : Rat) ^ t then t - 1 else t
  let up := fun (t : Int) => if (10 : Rat) ^ (t + 1) ≤ q then t + 1 else t
  up (up (up (down (down (down t)))))

/-- Drop the trailing zeros of `c * 10 ^ k`, by at most `fuel` places. -/
def stripZeros : Nat → Nat → Int → Nat × Int
  | 0, c, k => (c, k)
  | fuel + 1, c, k => if c ≠ 0 ∧ c % 10 = 0 then stripZeros fuel (c / 10) (k + 1) else (c, k)

/-- The shortest decimal `(digits, k)` with `digits * 10 ^ k` rounding to a positive `x`,
trying 1 to 17 significant digits; 17 always suffice. -/
def shortest (x : Binary64) : Nat × Int :=
  let v := x.magnitude
  let (lo, hi) := x.roundingInterval
  let even := x.mant % 2 = 0
  let inside := fun (r : Rat) => (lo < r ∧ r < hi) ∨ (even ∧ (r = lo ∨ r = hi))
  let top := log10Floor v
  let rec attempt : Nat → Nat → Nat × Int
    | 0, _ => (0, 0)
    | fuel + 1, n =>
      let p : Int := top - (n : Int) + 1
      let s := (10 : Rat) ^ p
      let d := (v / s).floor.toNat
      let a := (d : Rat) * s
      let b := ((d + 1 : Nat) : Rat) * s
      let pick :=
        if inside a ∧ inside b then
          if v - a < b - v then some d
          else if b - v < v - a then some (d + 1)
          else if d % 2 = 0 then some d else some (d + 1)
        else if inside a then some d
        else if inside b then some (d + 1)
        else none
      match pick with
      | some c => stripZeros 20 c p
      | none => attempt fuel (n + 1)
  attempt 17 1

/-- The text of a finite binary64 as JSON writers print it. -/
def jsonText (x : Binary64) : String :=
  let sign := if x.neg then "-" else ""
  if x.mant = 0 then sign ++ "0.0"
  else
    let (c, k) := x.shortest
    let ds := Nat.toDigits 10 c
    let n : Int := ds.length
    let kk := n + k
    let zeros := fun (i : Nat) => String.ofList (List.replicate i '0')
    let body :=
      if 0 ≤ k ∧ kk ≤ 16 then String.ofList ds ++ zeros k.toNat ++ ".0"
      else if 0 < kk ∧ kk ≤ 16 then
        String.ofList (ds.take kk.toNat) ++ "." ++ String.ofList (ds.drop kk.toNat)
      else if -5 < kk ∧ kk ≤ 0 then "0." ++ zeros (-kk).toNat ++ String.ofList ds
      else
        let mantissa := if n = 1 then String.ofList ds
          else String.ofList (ds.take 1) ++ "." ++ String.ofList (ds.drop 1)
        mantissa ++ (if 0 < kk then "e+" else "e") ++ toString (kk - 1)
    sign ++ body

end Binary64

end EntityGateway
