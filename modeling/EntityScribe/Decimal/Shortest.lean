/-!
# Shortest decimals

The decimal with the fewest digits that reads back to a given double, found by exact arithmetic.
A double stands for the interval of reals that round to it, ends included exactly when its
significand is even; the first decimal grid that has a point in that interval gives the digits.
-/

namespace EntityScribe.Decimal

/-- A finite positive double, `significand * 2 ^ exponent`. -/
structure Binary where
  significand : Nat
  exponent : Int
  /-- Whether the gap to the double below is half the gap to the double above. -/
  narrowBelow : Bool

/-- The decimal `digits * 10 ^ exponent`. -/
structure Scaled where
  digits : Nat
  exponent : Int
  deriving DecidableEq

/-- Compares `a * 10 ^ i` with `b * 2 ^ j`. -/
def compareScaled (a : Nat) (i : Int) (b : Nat) (j : Int) : Ordering :=
  compare (a * Nat.pow 10 i.toNat * Nat.pow 2 (-j).toNat)
    (b * Nat.pow 2 j.toNat * Nat.pow 10 (-i).toNat)

namespace Binary

/-- The value that the bits of a finite double stand for, its sign left out. -/
def ofBits (bits : UInt64) : Binary :=
  let biased := ((bits >>> 52) &&& 0x7FF).toNat
  let fraction := (bits &&& 0xFFFFFFFFFFFFF).toNat
  if biased == 0 then ⟨fraction, -1074, false⟩
  else ⟨0x10000000000000 + fraction, (biased : Int) - 1075, fraction == 0 && biased > 1⟩

/-- Whether a decimal lies in the interval of reals that round to this double. -/
def holds (x : Binary) (d : Scaled) : Bool :=
  let low := 4 * x.significand - (if x.narrowBelow then 1 else 2)
  let high := 4 * x.significand + 2
  let closed := x.significand % 2 == 0
  let fromLow := compareScaled d.digits d.exponent low (x.exponent - 2)
  let fromHigh := compareScaled d.digits d.exponent high (x.exponent - 2)
  (fromLow == .gt || (closed && fromLow == .eq)) && (fromHigh == .lt || (closed && fromHigh == .eq))

/-- The number of digits before the decimal point, the least `k` with the value below `10 ^ k`. -/
def magnitude (x : Binary) : Int :=
  let binaryDigits := (x.significand.log2 : Int) + x.exponent
  let guess := Int.fdiv (binaryDigits * 30103) 100000
  match [guess, guess + 1, guess + 2].find?
      (fun k => compareScaled 1 k x.significand x.exponent == .gt) with
  | some k => k
  | none => guess + 3

/-- The value divided by `10 ^ e`, rounded down. -/
def quotient (x : Binary) (e : Int) : Nat :=
  (x.significand * Nat.pow 2 x.exponent.toNat * Nat.pow 10 (-e).toNat) /
    (Nat.pow 2 (-x.exponent).toNat * Nat.pow 10 e.toNat)

/-- The point of the grid `10 ^ e` that reads back and is nearest; a tie goes to the even digit. -/
def onGrid? (x : Binary) (e : Int) : Option Scaled :=
  let below := x.quotient e
  match x.holds ⟨below, e⟩, x.holds ⟨below + 1, e⟩ with
  | true, true =>
      match compareScaled (2 * below + 1) e (2 * x.significand) x.exponent with
      | .gt => some ⟨below, e⟩
      | .lt => some ⟨below + 1, e⟩
      | .eq => some ⟨if below % 2 == 0 then below else below + 1, e⟩
  | true, false => some ⟨below, e⟩
  | false, true => some ⟨below + 1, e⟩
  | false, false => none

/-- The exact value as a decimal. -/
def exactDecimal (x : Binary) : Scaled :=
  ⟨x.significand * Nat.pow 2 x.exponent.toNat * Nat.pow 5 (-x.exponent).toNat, min x.exponent 0⟩

/-- The decimal with the fewest digits that reads back, of those the nearest; seventeen digits
suffice for every double. -/
def shortest (x : Binary) : Scaled :=
  match (List.range 17).findSome? (fun n => x.onGrid? (x.magnitude - (n + 1 : Nat))) with
  | some d => d
  | none => x.exactDecimal

end Binary

/-- Takes trailing zeros off the digits; the bound on the number of zeros is the first argument. -/
def stripZeros : Nat → Scaled → Scaled
  | 0, d => d
  | limit + 1, d =>
      if d.digits ≠ 0 ∧ d.digits % 10 = 0 then
        stripZeros limit ⟨d.digits / 10, d.exponent + 1⟩
      else d

end EntityScribe.Decimal
