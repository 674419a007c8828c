/-!
# Decimal texts of floating point numbers

From the bits of a number to the shortest digits that read back as it, and from these to its text.
-/

namespace Rowsmith
namespace Decimal

/-!
# Binary floating point formats

A format is fixed by the widths of its fraction and its exponent. The bits of a number are its
sign, its exponent and its fraction; a finite number other than zero is a significand times a
power of two.
-/

structure BinaryFormat where
  fractionBits : Nat
  exponentBits : Nat
  deriving DecidableEq, Repr

def binary32 : BinaryFormat := ⟨23, 8⟩

def binary64 : BinaryFormat := ⟨52, 11⟩

/-- A positive number `significand * 2 ^ exponent`. The neighbour below is nearer than the one
above exactly when the number is a power of two and not the least of them. -/
structure Magnitude where
  significand : Nat
  exponent : Int
  nearerBelow : Bool
  deriving DecidableEq, Repr

inductive Reading where
  | notANumber
  | infinite
  | zero
  | finite (magnitude : Magnitude)
  deriving DecidableEq, Repr

namespace BinaryFormat

def isNegative (format : BinaryFormat) (bits : Nat) : Bool :=
  bits / Nat.pow 2 (format.fractionBits + format.exponentBits) % 2 == 1

def fraction (format : BinaryFormat) (bits : Nat) : Nat :=
  bits % Nat.pow 2 format.fractionBits

def biasedExponent (format : BinaryFormat) (bits : Nat) : Nat :=
  bits / Nat.pow 2 format.fractionBits % Nat.pow 2 format.exponentBits

/-- The exponent of a subnormal number, the least one. -/
def leastExponent (format : BinaryFormat) : Int :=
  2 - (Nat.pow 2 (format.exponentBits - 1) : Nat) - format.fractionBits

def read (format : BinaryFormat) (bits : Nat) : Reading :=
  let fraction := format.fraction bits
  let biased := format.biasedExponent bits
  if biased = Nat.pow 2 format.exponentBits - 1 then
    if fraction = 0 then .infinite else .notANumber
  else if biased = 0 then
    if fraction = 0 then .zero else .finite ⟨fraction, format.leastExponent, false⟩
  else
    .finite
      ⟨Nat.pow 2 format.fractionBits + fraction, format.leastExponent + (biased - 1 : Nat),
        fraction = 0 && 1 < biased⟩

end BinaryFormat

/-!
# The shortest decimal that reads back

A number owns the interval of reals that round to it: half the way to either neighbour, the ends
included when its significand is even. On the decimal grid with a given count of digits, the two
grid points around the number are the only candidates, since a grid point in the interval that
lies farther away has one of these two between itself and the number. The least count with a
candidate in the interval gives the digits; of two candidates the nearer is taken, and the upper
one when they are equally near.
-/

/-- The number `digits * 10 ^ exponent`. -/
structure Number where
  digits : Nat
  exponent : Int
  deriving DecidableEq, Repr

/-- The ratio of two natural numbers, the second positive. -/
structure Ratio where
  numerator : Nat
  denominator : Nat
  deriving DecidableEq, Repr

def Ratio.scale (r : Ratio) (base : Nat) (exponent : Int) : Ratio :=
  match exponent with
  | .ofNat n => ⟨r.numerator * Nat.pow base n, r.denominator⟩
  | .negSucc n => ⟨r.numerator, r.denominator * Nat.pow base (n + 1)⟩

def Ratio.le (r s : Ratio) : Bool :=
  r.numerator * s.denominator ≤ s.numerator * r.denominator

def Ratio.lt (r s : Ratio) : Bool :=
  r.numerator * s.denominator < s.numerator * r.denominator

namespace Magnitude

/-- A count of quarters of the last binary place, as a ratio. -/
def quarters (m : Magnitude) (count : Nat) : Ratio :=
  Ratio.scale ⟨count, 1⟩ 2 (m.exponent - 2)

def value (m : Magnitude) : Ratio :=
  m.quarters (4 * m.significand)

def lowerEnd (m : Magnitude) : Ratio :=
  m.quarters (4 * m.significand - if m.nearerBelow then 1 else 2)

def upperEnd (m : Magnitude) : Ratio :=
  m.quarters (4 * m.significand + 2)

def readsBack (m : Magnitude) (d : Number) : Bool :=
  let r := Ratio.scale ⟨d.digits, 1⟩ 10 d.exponent
  if m.significand % 2 = 0 then m.lowerEnd.le r && r.le m.upperEnd
  else m.lowerEnd.lt r && r.lt m.upperEnd

end Magnitude

/-- The number of decimal places after which the ratio has a digit before the point, tried from
none up to the fuel. -/
def Ratio.leadingZeros (r : Ratio) : Nat → Nat
  | 0 => 0
  | fuel + 1 =>
      if r.denominator ≤ r.numerator then 0
      else leadingZeros ⟨r.numerator * 10, r.denominator⟩ fuel + 1

/-- The exponent `p` with `10 ^ (p - 1) ≤ r < 10 ^ p`. A ratio below one has at most as many
leading zeros as its denominator has binary digits. -/
def Ratio.pointPosition (r : Ratio) : Int :=
  if r.denominator ≤ r.numerator then
    ((Nat.toDigits 10 (r.numerator / r.denominator)).length : Int)
  else
    1 - (r.leadingZeros (r.denominator.log2 + 2) : Int)

def Ratio.floor (r : Ratio) : Nat :=
  r.numerator / r.denominator

/-- Whether the ratio lies strictly nearer to the first whole number than to the next. -/
def Ratio.isNearerTo (r : Ratio) (whole : Nat) : Bool :=
  2 * r.numerator < (2 * whole + 1) * r.denominator

/-- The candidates with the given count of digits that read back, the better one first. -/
def candidates (m : Magnitude) (count : Nat) : List Number :=
  let exponent := m.value.pointPosition - count
  let scaled := m.value.scale 10 (-exponent)
  let below := scaled.floor
  let both :=
    if scaled.isNearerTo below then [below, below + 1] else [below + 1, below]
  (both.map (⟨·, exponent⟩)).filter m.readsBack

/-- The search for the least count of digits; the last argument bounds how many counts are
tried, from the given one on. -/
def shortestFrom (m : Magnitude) (count : Nat) : Nat → Number
  | 0 => ⟨m.value.floor, 0⟩
  | fuel + 1 =>
      match candidates m count with
      | best :: _ => best
      | [] => shortestFrom m (count + 1) fuel

/-- Seventeen digits are enough for every number of the wider format. -/
def shortest (m : Magnitude) : Number :=
  shortestFrom m 1 17

/-!
# The text of a floating point number

The shortest digits are written with a point from one ten-thousandth up to, and without, ten to
the sixteenth; outside that range an exponent follows them. A number written with a point keeps
at least one digit after it.
-/

structure NumberFormat where
  /-- The least point position that is written with an exponent. -/
  firstLarge : Int
  /-- The greatest point position that is written with an exponent. -/
  lastSmall : Int
  exponentMark : Char
  notANumber : String
  infinity : String

def standardFormat : NumberFormat :=
  ⟨17, -4, 'e', "NaN", "inf"⟩

def zeros (n : Nat) : List Char :=
  List.replicate n '0'

def dropTrailingZeros (digits : List Char) : List Char :=
  (digits.reverse.dropWhile (· == '0')).reverse

/-- The digits stand for `0.d₁d₂… * 10 ^ point`. -/
def positional (digits : List Char) (point : Int) : List Char :=
  if point ≤ 0 then
    ['0', '.'] ++ zeros (-point).toNat ++ digits
  else if digits.length ≤ point.toNat then
    digits ++ zeros (point.toNat - digits.length) ++ ['.', '0']
  else
    digits.take point.toNat ++ ['.'] ++ digits.drop point.toNat

def scientific (format : NumberFormat) (digits : List Char) (point : Int) : List Char :=
  digits.take 1 ++ (if digits.length ≤ 1 then [] else '.' :: digits.drop 1) ++
    format.exponentMark :: (toString (point - 1)).toList

def NumberFormat.layout (format : NumberFormat) (d : Number) : List Char :=
  let written := Nat.toDigits 10 d.digits
  let point := (written.length : Int) + d.exponent
  let digits := dropTrailingZeros written
  if format.firstLarge ≤ point ∨ point ≤ format.lastSmall then
    scientific format digits point
  else
    positional digits point

def NumberFormat.text (format : NumberFormat) (binary : BinaryFormat) (bits : Nat) : String :=
  let sign := if binary.isNegative bits then "-" else ""
  match binary.read bits with
  | .notANumber => format.notANumber
  | .infinite => sign ++ format.infinity
  | .zero => sign ++ "0.0"
  | .finite m => sign ++ String.ofList (format.layout (shortest m))

end Decimal
end Rowsmith
