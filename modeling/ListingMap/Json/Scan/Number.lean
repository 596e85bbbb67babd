import ListingMap.Json.Scan.Basic

/-!
# Numbers

A number is an optional minus, an integer part without leading zeros, an optional fraction and
an optional exponent. A typed reader sees it as one of three kinds:

* an integer without minus below `2^64` is `unsigned`;
* an integer with minus whose magnitude is between `1` and `2^63` is `signed`;
* everything else is a `float`: numbers with a fraction or an exponent, `-0`, and integers too
  large for the two kinds above.

A float is built from the decimal digits as read: up to the first digit that would take the
digit string past `2^64 - 1`, the later integer digits counting as powers of ten and later
fraction digits being dropped. That digit string, as the nearest double, is then multiplied or
divided by the nearest double of the power of ten, in steps of `10^308` when the power is
larger. A product that overflows is out of range; a quotient may fall to zero. Exponents are
kept within 32-bit signed range.

`skipNumber` checks the form of a number that is only stepped over, without computing it.
-/

namespace ListingMap

namespace Json

/-- A number as typed readers see it. -/
inductive Number where
  /-- A non-negative integer below `2^64`. -/
  | unsigned (value : Nat)
  /-- A negative integer not below `-2^63`. -/
  | signed (value : Int)
  /-- Any other number, as a double. -/
  | float (value : Float)
deriving Inhabited

/-- How a message names a number found. -/
def Number.found : Number → Found
  | .unsigned value => .unsigned value
  | .signed value => .signed value
  | .float value => .float value

/-- The largest value of a 64-bit digit string. -/
def significandLimit : Nat := Nat.pow 2 64 - 1

/-- The largest exponent a number keeps. -/
def exponentLimit : Nat := Nat.pow 2 31 - 1

/-- The double nearest to a natural number, a tie going to the even significand. -/
def nearestDouble (n : Nat) : Float :=
  if n < Nat.pow 2 53 then n.toUInt64.toFloat
  else
    let shift := Nat.log2 n - 52
    let top := n >>> shift
    let rest := n - (top <<< shift)
    let half := Nat.pow 2 (shift - 1)
    let rounded := if rest > half || (rest == half && top % 2 == 1) then top + 1 else top
    rounded.toUInt64.toFloat.scaleB shift

/-- The nearest double to `10^k`, for `k` up to 308. -/
def powerOfTen (k : Nat) : Float := nearestDouble (Nat.pow 10 k)

/-- Scales a double by a power of ten: by one multiplication or division when the power is at
most 308, otherwise by divisions by `10^308` until it is, or until the value is zero. `none`
when a product overflows. -/
def scaleByTen (value : Float) (exponent : Int) : (fuel : Nat) → Option Float
  | 0 => some value
  | fuel + 1 =>
      if exponent.natAbs ≤ 308 then
        if 0 ≤ exponent then
          let product := value * powerOfTen exponent.toNat
          if product.isInf then none else some product
        else some (value / powerOfTen exponent.natAbs)
      else if value == 0 then some value
      else if 0 ≤ exponent then none
      else scaleByTen (value / powerOfTen 308) (exponent + 308) fuel

/-- The double of `± digits · 10^exponent`, or the fault when it overflows. -/
def floatOfParts (positive : Bool) (digits : Nat) (exponent : Int) (index : Nat) : Scanned Number :=
  match scaleByTen (nearestDouble digits) exponent 8 with
  | some value => .ok (.float (if positive then value else -value), index)
  | none => .error (.numberOutOfRange, index)

/-- An exponent kept within 32-bit signed range. -/
def clampExponent (exponent : Int) : Int :=
  let bound : Int := Nat.pow 2 31
  max (-bound) (min exponent (bound - 1))

/-- Reads exponent digits from `index`, `value` holding those read so far. -/
def exponentDigits (input : ByteArray) (index value : Nat) : Nat × Nat × Bool :=
  if h : index < input.size then
    let byte := input[index]
    if isDigit byte then
      let next := value * 10 + (byte.toNat - 48)
      if next > exponentLimit then (value, index, true)
      else exponentDigits input (index + 1) next
    else (value, index, false)
  else (value, index, false)
termination_by input.size - index

/-- Reads an exponent from its `e` at `index`, for a number whose digits and exponent so far
are given. -/
def scanExponent (input : ByteArray) (positive : Bool) (digits : Nat) (exponent : Int)
    (index : Nat) : Scanned Number :=
  let afterMark := index + 1
  let (positiveExponent, signEnd) := match input[afterMark]? with
    | some 43 => (true, afterMark + 1)
    | some 45 => (false, afterMark + 1)
    | _ => (true, afterMark)
  match input[signEnd]? with
  | none => .error (.eofWhileParsingValue, signEnd)
  | some first =>
      if !isDigit first then .error (.invalidNumber, signEnd + 1)
      else
        match exponentDigits input (signEnd + 1) (first.toNat - 48) with
        | (_, stop, true) =>
            -- the digit that overflows is taken before the range is checked
            if digits != 0 && positiveExponent then .error (.numberOutOfRange, stop + 1)
            else .ok (.float (if positive then 0.0 else -0.0), digitEnd input stop)
        | (value, stop, false) =>
            let total := if positiveExponent then exponent + value else exponent - value
            floatOfParts positive digits (clampExponent total) stop

/-- Reads significand digits from `index` while they fit in 64 bits; returns the digits, the
index reached and how many digits the value has so far. -/
def significandDigits (input : ByteArray) (index digits places : Nat) : Nat × Nat × Nat × Bool :=
  if h : index < input.size then
    let byte := input[index]
    if isDigit byte then
      let next := digits * 10 + (byte.toNat - 48)
      if next > significandLimit then (digits, index, places, true)
      else significandDigits input (index + 1) next (places + 1)
    else (digits, index, places, false)
  else (digits, index, places, false)
termination_by input.size - index

/-- Reads a fraction from its `.` at `index`. -/
def scanFraction (input : ByteArray) (positive : Bool) (digits : Nat) (exponent : Int)
    (index : Nat) : Scanned Number :=
  let (digits, stop, places, overflow) := significandDigits input (index + 1) digits 0
  let exponent := exponent - places
  let stop := if overflow then digitEnd input stop else stop
  if !overflow && places == 0 then
    match input[stop]? with
    | some _ => .error (.invalidNumber, aheadOf input stop)
    | none => .error (.eofWhileParsingValue, aheadOf input stop)
  else
    match input[stop]? with
    | some 101 | some 69 => scanExponent input positive digits exponent stop
    | _ => floatOfParts positive digits exponent stop

/-- Reads what follows the integer part, at `index`. -/
def scanAfterInteger (input : ByteArray) (positive : Bool) (digits : Nat) (exponent : Int)
    (index : Nat) (whole : Bool) : Scanned Number :=
  match input[index]? with
  | some 46 => scanFraction input positive digits exponent index
  | some 101 | some 69 => scanExponent input positive digits exponent index
  | _ =>
      if !whole then floatOfParts positive digits exponent index
      else if positive then .ok (.unsigned digits, index)
      else if digits == 0 || digits > Nat.pow 2 63 then
        .ok (.float (-(nearestDouble digits)), index)
      else .ok (.signed (-(digits : Int)), index)

/-- Reads a number for a typed value from its first digit at `index`; the minus, if any, is
already read and `positive` is false. -/
def scanNumber (positive : Bool) (input : ByteArray) (index : Nat) : Scanned Number :=
  match input[index]? with
  | none => .error (.eofWhileParsingValue, index)
  | some 48 =>
      match input[index + 1]? with
      | some next =>
          if isDigit next then .error (.invalidNumber, aheadOf input (index + 1))
          else scanAfterInteger input positive 0 0 (index + 1) true
      | none => scanAfterInteger input positive 0 0 (index + 1) true
  | some first =>
      if !isDigit first then .error (.invalidNumber, index + 1)
      else
        let (digits, stop, _, overflow) := significandDigits input (index + 1) (first.toNat - 48) 1
        if overflow then
          let rest := digitEnd input stop
          scanAfterInteger input positive digits (rest - stop : Nat) rest false
        else scanAfterInteger input positive digits 0 stop true

/-- Steps over a number from its first digit at `index`, checking only its form. -/
def skipNumber (input : ByteArray) (index : Nat) : Scanned Unit :=
  let integerEnd : Except (Fault × Nat) Nat :=
    match input[index]? with
    | some 48 =>
        match input[index + 1]? with
        | some next => if isDigit next then .error (.invalidNumber, aheadOf input (index + 1)) else .ok (index + 1)
        | none => .ok (index + 1)
    | some first => if isDigit first then .ok (digitEnd input (index + 1)) else .error (.invalidNumber, index + 1)
    | none => .error (.invalidNumber, index)
  let exponentEnd (mark : Nat) : Scanned Unit :=
    let signEnd := match input[mark + 1]? with
      | some 43 | some 45 => mark + 2
      | _ => mark + 1
    match input[signEnd]? with
    | some first => if isDigit first then .ok ((), digitEnd input (signEnd + 1)) else .error (.invalidNumber, signEnd + 1)
    | none => .error (.invalidNumber, signEnd)
  match integerEnd with
  | .error fault => .error fault
  | .ok afterInteger =>
      match input[afterInteger]? with
      | some 46 =>
          let fractionEnd := digitEnd input (afterInteger + 1)
          if fractionEnd == afterInteger + 1 then .error (.invalidNumber, aheadOf input fractionEnd)
          else
            match input[fractionEnd]? with
            | some 101 | some 69 => exponentEnd fractionEnd
            | _ => .ok ((), fractionEnd)
      | some 101 | some 69 => exponentEnd afterInteger
      | _ => .ok ((), afterInteger)

end Json

end ListingMap
