/-!
# Floating-point numbers in decimal

A floating-point number is written with the fewest digits from which it can be read back, and of
those with the ones nearest to it. A number stands for all reals that are rounded to it, an
interval whose ends belong to it if its mantissa is even. A grid of decimal numbers, the
multiples of a power of ten, has the number's text on it if one of the two neighbours of the
number on the grid lies in the interval; the coarsest such grid gives the fewest digits.

The text never has an exponent. It has a point only before digits other than zero.
-/
namespace AstView

/-- A decimal number: digits times a power of ten. -/
structure Decimal where
  /-- The digits as a number. -/
  digits : Nat
  /-- The power of ten. -/
  exponent : Int
  deriving Repr, DecidableEq

namespace Decimal

/-- The size of a finite number other than zero: a mantissa times a power of two. -/
structure Size where
  /-- The mantissa. -/
  mantissa : Nat
  /-- The power of two. -/
  exponent : Int
  /-- Whether the next smaller number is only half as far away as the next greater one. -/
  narrow : Bool
  deriving Repr, DecidableEq

/-- What the bits of a number say besides the sign. -/
inductive Reading where
  /-- No number. -/
  | nan
  /-- Infinity. -/
  | infinity
  /-- Zero. -/
  | zero
  /-- Any other number. -/
  | finite (size : Size)
  deriving Repr, DecidableEq

/-- How many fractions there are: two to the power of 52. -/
def fractionCount : Nat := 4503599627370496

/-- How many exponents there are: two to the power of eleven. -/
def exponentCount : Nat := 2048

/-- The value of the highest of the 64 bits. -/
def signBit : Nat := 9223372036854775808

/-- Reads the eleven bits of the exponent and the 52 bits of the fraction. -/
def Reading.ofBits (bits : Nat) : Reading :=
  let fraction : Nat := bits % fractionCount
  let biased : Nat := bits / fractionCount % exponentCount
  if biased = 2047 then (if fraction = 0 then .infinity else .nan)
  else if biased = 0 then (if fraction = 0 then .zero else .finite ⟨fraction, -1074, false⟩)
  else .finite ⟨fractionCount + fraction, biased - 1075, fraction == 0 && biased != 1⟩

/-- A power of a base as a fraction, numerator first. -/
def powerParts (base : Nat) (exponent : Int) : Nat × Nat :=
  (base.pow exponent.toNat, base.pow (-exponent).toNat)

/-- The number on a grid of decimal numbers that lies in the interval of a size, the one nearer
to it if both neighbours do and the upper one if they are equally near. -/
def onGrid (size : Size) (grid : Int) : Option Nat :=
  let (up, down) := powerParts 2 (size.exponent - 2)
  let (gridUp, gridDown) := powerParts 10 grid
  let scale := up * gridDown
  let unit := down * gridUp
  let center := 4 * size.mantissa * scale
  let low := (4 * size.mantissa - if size.narrow then 1 else 2) * scale
  let high := (4 * size.mantissa + 2) * scale
  let inside (digits : Nat) : Bool :=
    if size.mantissa % 2 = 0 then decide (low ≤ digits * unit) && decide (digits * unit ≤ high)
    else decide (low < digits * unit) && decide (digits * unit < high)
  let below := center / unit
  let above := below + 1
  if inside below then
    if inside above && decide (above * unit - center ≤ center - below * unit) then some above
    else some below
  else if inside above then some above
  else none

/-- The first number found on ever finer grids. -/
def search (size : Size) : Nat → Int → Decimal
  | 0, grid => ⟨0, grid⟩
  | tries + 1, grid =>
    match onGrid size grid with
    | some digits => ⟨digits, grid⟩
    | none => search size tries (grid - 1)

/-- A power of ten that no number of a size reaches; 30103 / 100000 is a little more than the
decimal logarithm of two. -/
def startGrid (size : Size) : Int :=
  (size.exponent + size.mantissa.log2 + 1) * 30103 / 100000 + 2

/-- The decimal number with the fewest digits that is read back as a size. Seventeen digits
always do, and the search begins at most four places above the first of them. -/
def shortest (size : Size) : Decimal := search size 24 (startGrid size)

/-- The text of a decimal number without an exponent. -/
def text (decimal : Decimal) : List Char :=
  let digits := Nat.toDigits 10 decimal.digits
  if 0 ≤ decimal.exponent then digits ++ List.replicate decimal.exponent.toNat '0'
  else
    let places := (-decimal.exponent).toNat
    if places < digits.length then
      digits.take (digits.length - places) ++ '.' :: digits.drop (digits.length - places)
    else '0' :: '.' :: (List.replicate (places - digits.length) '0' ++ digits)

/-- The text of a number. -/
def floatText (value : Float) : String :=
  let bits := value.toBits.toNat
  let sign := if signBit ≤ bits then ['-'] else []
  match Reading.ofBits bits with
  | .nan => "NaN"
  | .infinity => String.ofList (sign ++ ['i', 'n', 'f'])
  | .zero => String.ofList (sign ++ ['0'])
  | .finite size => String.ofList (sign ++ (shortest size).text)

end Decimal

end AstView
