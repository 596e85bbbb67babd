/-!
# Shortest decimal digits

A finite double is a value `m · 2^q`, and it stands for every real number that rounds to it:
the interval from halfway to its lower neighbour to halfway to its upper neighbour, both ends
included exactly when `m` is even. At the bottom of a binade the lower neighbour is twice as
close as the upper one (`narrowBelow`).

`Decimal.shortest` picks the decimal `d · 10^e` in that interval with the fewest significant
digits, and of two such the one nearer to `m · 2^q`, an exact tie going to the even `d`. It
tries the decimal grids `10^(k - n)` for `n = 1, 2, …, 17` digits, where `10^k` is the least
power of ten above the value; on each grid it tests the value's two neighbours, by exact
natural-number arithmetic. Seventeen digits always suffice for a double; should the search
still fail, the exact decimal value is returned rather than a guess.
-/

namespace ListingMap

namespace Decimal

/-- A finite positive double as `mantissa · 2^exponent`. -/
structure Binary where
  /-- The integer significand. -/
  mantissa : Nat
  /-- The binary exponent. -/
  exponent : Int
  /-- The gap to the value below is half the gap to the value above. -/
  narrowBelow : Bool
deriving Repr, DecidableEq

/-- The value of the bits of a finite double, sign ignored. -/
def Binary.ofBits (bits : UInt64) : Binary :=
  let biased := ((bits >>> 52) &&& 0x7FF).toNat
  let fraction := (bits &&& 0xFFFFFFFFFFFFF).toNat
  if biased == 0 then ⟨fraction, -1074, false⟩
  else ⟨Nat.pow 2 52 + fraction, (biased : Int) - 1075, fraction == 0 && biased > 1⟩

/-- A decimal `digits · 10^exponent`. -/
structure Scientific where
  /-- The significant digits, as a number. -/
  digits : Nat
  /-- The power of ten they are scaled by. -/
  exponent : Int
deriving Repr, DecidableEq

/-- `a · 10^i` compared with `n · 2^j`, exactly. -/
def compareScaled (a : Nat) (i : Int) (n : Nat) (j : Int) : Ordering :=
  compare (a * Nat.pow 10 i.toNat * Nat.pow 2 (-j).toNat)
    (n * Nat.pow 2 j.toNat * Nat.pow 10 (-i).toNat)

/-- `d · 10^i` lies among the reals that round to the double, to nearest with ties to even. -/
def Binary.readsBack (x : Binary) (d : Nat) (i : Int) : Bool :=
  let lo := if x.narrowBelow then 4 * x.mantissa - 1 else 4 * x.mantissa - 2
  let hi := 4 * x.mantissa + 2
  let inclusive := x.mantissa % 2 == 0
  let belowLo := compareScaled d i lo (x.exponent - 2)
  let belowHi := compareScaled d i hi (x.exponent - 2)
  (belowLo == .gt || (inclusive && belowLo == .eq)) && (belowHi == .lt || (inclusive && belowHi == .eq))

/-- The least `k` from `guess` on, within `fuel` steps, with `x < 10^k`. -/
def scaleUp (x : Binary) : (fuel : Nat) → (guess : Int) → Int
  | 0, guess => guess
  | fuel + 1, guess =>
      if compareScaled 1 guess x.mantissa x.exponent == .gt then guess else scaleUp x fuel (guess + 1)

/-- The least power `k` with `x < 10^k`, from an estimate by the binary logarithm. -/
def Binary.scale (x : Binary) : Int :=
  let bits : Int := (Nat.log2 x.mantissa : Int) + 1 + x.exponent
  -- ⌊bits · log10 2⌋ is at most a few steps below the answer
  let estimate := (bits * 30103) / 100000 - 2
  scaleUp x 8 estimate

/-- `⌊x / 10^i⌋`. -/
def Binary.floorOn (x : Binary) (i : Int) : Nat :=
  (x.mantissa * Nat.pow 2 x.exponent.toNat * Nat.pow 10 (-i).toNat) /
    (Nat.pow 2 (-x.exponent).toNat * Nat.pow 10 i.toNat)

/-- The neighbour of `x` on the grid `10^i` that lies in its interval; of two, the nearer, and
the even one on a tie. -/
def Binary.pickOn (x : Binary) (i : Int) : Option Nat :=
  let below := x.floorOn i
  let above := below + 1
  match x.readsBack below i, x.readsBack above i with
  | true, true =>
      match compareScaled (2 * below + 1) i (2 * x.mantissa) x.exponent with
      | .gt => some below
      | .lt => some above
      | .eq => some (if below % 2 == 0 then below else above)
  | true, false => some below
  | false, true => some above
  | false, false => none

/-- Moves trailing zeros of the digits into the exponent. -/
def strip (digits : Nat) (exponent : Int) : (fuel : Nat) → Scientific
  | 0 => ⟨digits, exponent⟩
  | fuel + 1 =>
      if digits != 0 && digits % 10 == 0 then strip (digits / 10) (exponent + 1) fuel
      else ⟨digits, exponent⟩

/-- The exact decimal value of `x`. -/
def Binary.exact (x : Binary) : Scientific :=
  if 0 ≤ x.exponent then ⟨x.mantissa * Nat.pow 2 x.exponent.toNat, 0⟩
  else ⟨x.mantissa * Nat.pow 5 (-x.exponent).toNat, x.exponent⟩

/-- The decimal with the fewest significant digits that reads back as `x`, which must be
positive. -/
def shortest (x : Binary) : Scientific :=
  let k := x.scale
  let grid (n : Nat) : Int := k - ((n + 1 : Nat) : Int)
  match (List.range 17).findSome? fun n => (x.pickOn (grid n)).map fun d => (d, grid n) with
  | some (d, i) => strip d i 17
  | none => let e := x.exact; strip e.digits e.exponent 1100

end Decimal

end ListingMap
