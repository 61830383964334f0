import AstView.Toml.Text

/-!
# Numbers in TOML

A whole number is decimal, with a sign if need be and no zero in front of other digits, or
hexadecimal, octal or binary after `0x`, `0o` or `0b`; single underscores may stand between
digits, and the number has to fit in 64 bits with a sign. A floating-point number is a decimal
number with a fraction, an exponent or both, or one of the words `inf` and `nan`; digits that
come out as positive infinity are refused.
-/
namespace AstView.Toml

/-- Digits of a kind, with single underscores between them, which are left out. -/
def digits (property : Char → Bool) : Scan (List Char) := do
  let head ← Scan.one property
  let rest ← Scan.many (Scan.either (Scan.one property) (do
    let _ ← Scan.char '_'
    Scan.one property))
  return head :: rest

/-- A sign, if there is one, and whether it is a minus. -/
def sign : Scan (Option Bool) :=
  Scan.maybe (do return (← Scan.one fun char => char == '+' || char == '-') == '-')

/-- The digits of a decimal number without a needless zero in front. -/
def decimalDigits : Scan (List Char) := fun input =>
  match input with
  | '0' :: rest => some (['0'], rest)
  | _ => digits isDigit input

/-- The whole number that digits spell, if it fits in 64 bits with a sign. -/
def fitted (value : Int) : Option Int :=
  if -9223372036854775808 ≤ value ∧ value ≤ 9223372036854775807 then some value else none

/-- A whole number in a base other than ten. -/
def basedInteger (letter : Char) (base : Nat) : Scan Int := do
  Scan.word ['0', letter]
  let found ← digits fun char => (hexValue? char).any (· < base)
  Scan.ofOption (fitted (numberOf base found))

/-- A decimal whole number. -/
def decimalInteger : Scan Int := do
  let minus ← sign
  let found ← decimalDigits
  let size : Int := numberOf 10 found
  Scan.ofOption (fitted (if minus = some true then -size else size))

/-- A whole number. -/
def integer : Scan Int :=
  Scan.firstOf [basedInteger 'x' 16, basedInteger 'o' 8, basedInteger 'b' 2, decimalInteger]

/-- The digits after a point. -/
def fraction : Scan (List Char) := do
  let _ ← Scan.char '.'
  digits isDigit

/-- The number after the letter of an exponent. -/
def exponent : Scan Int := do
  let _ ← Scan.one fun char => char == 'e' || char == 'E'
  let minus ← sign
  let found ← digits isDigit
  let size : Int := numberOf 10 found
  return if minus = some true then -size else size

/-- A bound on the exponents that make a difference, for a number of digits. -/
def exponentBound (count : Nat) : Int := count + 400

/-- The floating-point number nearest to digits times a power of ten. -/
def nearest (found : List Char) (power : Int) : Float :=
  let bound := exponentBound found.length
  let power := max (-bound) (min bound power)
  let value := numberOf 10 found
  if power < 0 then Float.ofScientific value true power.natAbs
  else Float.ofScientific value false power.natAbs

/-- A floating-point number in digits. -/
def decimalFloat : Scan Float := do
  let minus ← sign
  let whole ← decimalDigits
  let (part, power) ← Scan.either
    (do return ([], ← exponent))
    (do
      let part ← fraction
      let power ← Scan.maybe exponent
      return (part, power.getD 0))
  let size := nearest (whole ++ part) (power - part.length)
  let value := if minus = some true then -size else size
  Scan.guarded (value.isNaN || value < 0 || value.isFinite)
  return value

/-- Infinity or what is no number, with a sign if need be. -/
def specialFloat : Scan Float := do
  let minus ← sign
  let size ← Scan.either
    (do Scan.word ['i', 'n', 'f']; return 1.0 / 0.0)
    (do Scan.word ['n', 'a', 'n']; return 0.0 / 0.0)
  return if minus = some true then -size else size

/-- A floating-point number. -/
def float : Scan Float := Scan.either decimalFloat specialFloat

end AstView.Toml
