import EntityScribe.Decimal.Shortest

/-!
# Layout of floating-point numbers

How the digits of a double are laid out is kept in one record; reading a decimal gives the nearest
double.
-/

namespace EntityScribe.Decimal

/-- Decisions of a number format. The exponent of a number is that of its leading digit. -/
structure Layout where
  /-- The least exponent written with a plain decimal point. -/
  plainFrom : Int
  /-- The least exponent above that range. -/
  plainBelow : Int
  exponentMark : Char
  /-- The least number of digits of a written exponent. -/
  exponentWidth : Nat
  infinity : String
  notANumber : String

namespace Layout

/-- Digits with the point at the given place, which may lie outside them. -/
def plain (digits : List Char) (point : Int) : List Char :=
  if point ≤ 0 then '0' :: '.' :: List.replicate (-point).toNat '0' ++ digits
  else if point.toNat < digits.length then
    digits.take point.toNat ++ '.' :: digits.drop point.toNat
  else digits ++ List.replicate (point.toNat - digits.length) '0' ++ ['.', '0']

/-- Digits with the point after the first, and a signed exponent. -/
def scientific (style : Layout) (digits : List Char) (exponent : Int) : List Char :=
  let mantissa :=
    match digits with
    | first :: second :: rest => first :: '.' :: second :: rest
    | short => short
  let power := Nat.toDigits 10 exponent.natAbs
  mantissa ++ style.exponentMark :: (if exponent < 0 then '-' else '+') ::
    List.replicate (style.exponentWidth - power.length) '0' ++ power

def write (style : Layout) (d : Scaled) : List Char :=
  let digits := Nat.toDigits 10 d.digits
  let point := digits.length + d.exponent
  if style.plainFrom ≤ point - 1 ∧ point - 1 < style.plainBelow then plain digits point
  else style.scientific digits (point - 1)

/-- The text of a double. -/
def render (style : Layout) (x : Float) : String :=
  let bits := x.toBits
  let negative := bits >>> 63 == 1
  let sign := if negative then "-" else ""
  if x.isNaN then style.notANumber
  else if x.isInf then sign ++ style.infinity
  else if bits <<< 1 == 0 then sign ++ "0.0"
  else sign ++ String.ofList (style.write (stripZeros 20 (Binary.ofBits bits).shortest))

end Layout

/-- The double nearest to `mantissa * 10 ^ exponent`. Values beyond the range of doubles are
settled by their number of digits, before a power of ten is computed. -/
def nearest (mantissa : Nat) (exponent : Int) : Float :=
  let size := (Nat.toDigits 10 mantissa).length + exponent
  if mantissa = 0 ∨ size < -400 then 0.0
  else if size > 400 then 1.0 / 0.0
  else Float.ofScientific mantissa (exponent < 0) exponent.natAbs

end EntityScribe.Decimal
