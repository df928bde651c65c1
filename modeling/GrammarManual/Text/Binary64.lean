/-!
# Text/Binary64: numbers as a double holds them

A double is a natural number of at most 53 binary digits times a power of two, its exponent between
-1074 and 971. `Binary64.ofRatio` is the double nearest to a positive fraction, a tie going to the
even neighbour.
-/

namespace GrammarManual

/-- A double. -/
inductive Binary64 where
  /-- `mantissa * 2 ^ exponent`. -/
  | finite (mantissa : Int) (exponent : Int)
  | infinite (negative : Bool)
  | nan
  deriving DecidableEq, Repr, Inhabited

namespace Binary64

/-- The nearest natural number to `n / d`, ties to even. -/
def roundRatio (n d : Nat) : Nat :=
  let q := n / d
  let twice := 2 * (n % d)
  if twice > d ∨ (twice = d ∧ q % 2 = 1) then q + 1 else q

/-- The double nearest to `n / d`, for positive `d`. -/
def ofRatio (n d : Nat) : Binary64 :=
  if n = 0 then .finite 0 0
  else
    let scaled (e : Int) : Nat × Nat :=
      if 0 ≤ e then (n, d * Nat.pow 2 e.toNat) else (n * Nat.pow 2 (-e).toNat, d)
    let guess : Int := (n.log2 : Int) - d.log2 - 53
    let fits (e : Int) : Bool := (scaled e).1 / (scaled e).2 < Nat.pow 2 53
    let e := max (-1074) (if fits guess then guess else guess + 1)
    let m := roundRatio (scaled e).1 (scaled e).2
    if e > 971 ∨ (e = 971 ∧ Nat.pow 2 53 ≤ m) then .infinite false else .finite m e

/-- The number with the opposite sign. -/
def neg : Binary64 → Binary64
  | .finite m e => .finite (-m) e
  | .infinite negative => .infinite !negative
  | .nan => .nan

/-- The double nearest to `digits * 10 ^ exponent`. Exponents beyond the range of doubles are cut
    off, so that they cost nothing. -/
def ofDecimal (digits : Nat) (exponent : Int) : Binary64 :=
  let size : Int := (toString digits).length
  if digits = 0 ∨ exponent + size < -400 then .finite 0 0
  else if exponent + size > 400 then .infinite false
  else if 0 ≤ exponent then ofRatio (digits * Nat.pow 10 exponent.toNat) 1
  else ofRatio digits (Nat.pow 10 (-exponent).toNat)

/-- The integer that a double is, if it is one. -/
def toInt? : Binary64 → Option Int
  | .finite m e =>
    if 0 ≤ e then some (m * Nat.pow 2 e.toNat)
    else
      let unit : Int := Nat.pow 2 (-e).toNat
      if m % unit = 0 then some (m / unit) else none
  | _ => none

end Binary64

end GrammarManual
