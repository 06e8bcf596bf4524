import EntityScribe.Decimal.Layout
import EntityScribe.Text.Blank
import EntityScribe.Text.Digit
import EntityScribe.Text.LetterCase
import EntityScribe.Text.Split
import EntityScribe.Yaml.Character
import EntityScribe.Yaml.Problem

/-!
# Numbers

Integers are written in base 2, 8, 10 or 16, or in base 60 with colons between the places; floats
have a point, or also places of base 60 before it. Underscores count for nothing. Which texts are
numbers without a tag is narrower than what a tag makes a number of.
-/

namespace EntityScribe.Yaml.Number

/-! ## Texts that are numbers without a tag -/

def withoutSign (cs : List Char) : List Char :=
  match cs with
  | '+' :: rest => rest
  | '-' :: rest => rest
  | other => other

def isDigitOrLow (c : Char) : Bool :=
  c.isDigit || c == '_'

/-- A digit with digits and underscores after it. -/
def isRun (cs : List Char) : Bool :=
  match cs with
  | first :: rest => first.isDigit && rest.all isDigitOrLow
  | [] => false

/-- A run whose first digit is not zero. -/
def isPositiveRun (cs : List Char) : Bool :=
  isRun cs && cs.head? != some '0'

/-- One or two digits for a number below sixty. -/
def isPlace (cs : List Char) : Bool :=
  match cs with
  | [ones] => ones.isDigit
  | [tens, ones] => tens.isDigit && tens.toNat ≤ '5'.toNat && ones.isDigit
  | _ => false

/-- A first place that satisfies a test, and at least one more. -/
def hasPlaces (first : List Char → Bool) (cs : List Char) : Bool :=
  match Text.splitChars ':' cs with
  | leading :: second :: rest => first leading && (second :: rest).all isPlace
  | _ => false

def isNonempty (p : Char → Bool) (cs : List Char) : Bool :=
  cs != [] && cs.all p

def isInteger (cs : List Char) : Bool :=
  let body := withoutSign cs
  match body with
  | '0' :: 'b' :: rest => isNonempty (fun c => c == '0' || c == '1' || c == '_') rest
  | '0' :: 'x' :: rest => isNonempty (fun c => (hexValue? c).isSome || c == '_') rest
  | ['0'] => true
  | '0' :: rest => rest.all fun c => (c.isDigit && c.toNat ≤ '7'.toNat) || c == '_'
  | _ => isPositiveRun body || hasPlaces isPositiveRun body

/-- Nothing, or an exponent with a sign. -/
def isExponent (cs : List Char) : Bool :=
  match cs with
  | [] => true
  | mark :: sign :: digits =>
      (mark == 'e' || mark == 'E') && (sign == '+' || sign == '-') && isNonempty Char.isDigit digits
  | _ => false

/-- Digits and underscores with an exponent after them, if there is one. -/
def isFraction (cs : List Char) : Bool :=
  isExponent (cs.dropWhile isDigitOrLow)

def isFloat (cs : List Char) : Bool :=
  let body := withoutSign cs
  let whole := body.takeWhile (· != '.')
  match body.dropWhile (· != '.') with
  | '.' :: fraction =>
      (isRun whole && isFraction fraction) ||
        (hasPlaces isRun whole && fraction.all isDigitOrLow) ||
        (whole == [] && body == cs && fraction.head?.any Char.isDigit && isFraction fraction) ||
        (whole == [] && ["inf", "Inf", "INF"].any (·.toList == fraction)) ||
        (whole == [] && body == cs && ["nan", "NaN", "NAN"].any (·.toList == fraction))
  | _ => false

/-! ## Values -/

/-- Blanks of ASCII. -/
def isPlainBlank (c : Char) : Bool :=
  c == ' ' || ('\t' ≤ c && c ≤ '\r')

/-- Blanks and digits of all scripts as those of ASCII; no other character beyond ASCII is part of a
number. -/
def plainCharacter (c : Char) : Char :=
  if c.toNat < 0x7F then c
  else if Text.isBlank c then ' '
  else
    match Text.digitValue? c with
    | some n => Char.ofNat ('0'.toNat + n)
    | none => '?'

/-- A text in ASCII without the blanks at its ends. A text that is in ASCII already stays as it is
otherwise. -/
def plainBody (cs : List Char) : List Char :=
  let plain := if cs.all fun c => c.toNat < 0x80 then cs else cs.map plainCharacter
  ((plain.dropWhile isPlainBlank).reverse.dropWhile isPlainBlank).reverse

/-- Digits and letters up to the base. -/
def digitIn? (base : Nat) (c : Char) : Option Nat :=
  (hexValue? c).filter fun n => n < base

/-- The digits without the mark of their base, which may be left out. -/
def withoutBaseMark (base : Nat) (cs : List Char) : List Char :=
  match cs with
  | '0' :: mark :: rest =>
      if (base = 16 ∧ (mark = 'x' ∨ mark = 'X')) ∨ (base = 8 ∧ (mark = 'o' ∨ mark = 'O')) ∨
          (base = 2 ∧ (mark = 'b' ∨ mark = 'B')) then rest
      else cs
  | other => other

/-- An integer in a base, between blanks and with a sign or without. Only decimal digits can be too
many, and they are before it shows what comes after them. -/
def integer (base : Nat) (cs : List Char) : Except ValueFault Int :=
  let body := plainBody cs
  let isDigit (c : Char) : Bool := (digitIn? base c).isSome
  let size := withoutBaseMark base (withoutSign body)
  let digits := size.takeWhile isDigit
  if base = 10 ∧ digits.length > Text.digitLimit then .error (.tooManyDigits digits.length)
  else if digits = [] ∨ size.any (!isDigit ·) then .error (.notInteger (String.ofList cs) base)
  else
    let n : Int := (digitsValue? (digitIn? base) base digits).getD 0
    .ok (if body.head? = some '-' then -n else n)

/-- The integer that a text stands for under the tag of integers. -/
def integerOf (text : String) : Except ValueFault Int :=
  let cs := text.toList.filter (· != '_')
  match cs with
  | [] => .error .emptyNumber
  | first :: _ =>
      let body := withoutSign cs
      let signed (n : Int) : Int := if first = '-' then -n else n
      match body with
      | [] => .error .emptyNumber
      | ['0'] => .ok 0
      | '0' :: 'b' :: rest => (integer 2 rest).map signed
      | '0' :: 'x' :: rest => (integer 16 rest).map signed
      | '0' :: _ => (integer 8 body).map signed
      | _ =>
          if body.contains ':' then
            ((Text.splitChars ':' body).mapM (integer 10)).map fun places =>
              signed (places.foldl (fun total place => total * 60 + place) 0)
          else (integer 10 body).map signed

/-- The mantissa and the decimal exponent of digits with or without a point and an exponent. -/
def decimal? (cs : List Char) : Option (Nat × Int) :=
  let whole := cs.takeWhile Char.isDigit
  let (fraction, rest) :=
    match cs.dropWhile Char.isDigit with
    | '.' :: rest => (rest.takeWhile Char.isDigit, rest.dropWhile Char.isDigit)
    | rest => ([], rest)
  let exponent? : Option Int :=
    match rest with
    | [] => some 0
    | 'e' :: power =>
        let digits := withoutSign power
        if digits = [] then none
        else
          (digitsValue? (digitIn? 10) 10 digits).map fun n =>
            if power.head? = some '-' then -(n : Int) else n
    | _ => none
  if whole ++ fraction = [] then none
  else
    match digitsValue? (digitIn? 10) 10 (whole ++ fraction), exponent? with
    | some mantissa, some exponent => some (mantissa, exponent - fraction.length)
    | _, _ => none

def infinity : Float := 1.0 / 0.0

def notANumber : Float := 0.0 / 0.0

/-- A float between blanks and with a sign or without, in lower case. -/
def float (cs : List Char) : Except ValueFault Float :=
  let body := plainBody cs
  let size := withoutSign body
  let signed (x : Float) : Float := if body.head? = some '-' then -x else x
  if size = "inf".toList ∨ size = "infinity".toList then .ok (signed infinity)
  else if size = "nan".toList then .ok notANumber
  else
    match decimal? size with
    | some (mantissa, exponent) => .ok (signed (Decimal.nearest mantissa exponent))
    | none => .error (.notFloat (String.ofList cs))

/-- The values of places in base 60, given from the lowest on, with the exponent of that. A place
that is too high for any float has no value, whatever stands there. -/
def placeValues : Nat → List Float → Except ValueFault (List Float)
  | _, [] => .ok []
  | exponent, place :: higher => do
      let weight := Decimal.nearest (Nat.pow 60 exponent) 0
      if weight.isInf then throw .hugePlace
      return place * weight :: (← placeValues (exponent + 1) higher)

/-- The value of places in base 60, added up from the lowest. -/
def sumPlaces (places : List Float) : Except ValueFault Float :=
  (placeValues 0 places.reverse).map fun values => values.foldl (· + ·) 0.0

/-- The characters that count for a float, in lower case. -/
def floatCharacters (text : String) : List Char :=
  (Text.lowerAll (String.ofList (text.toList.filter (· != '_')))).toList

/-- Whether a text is the name of what is not a number. -/
def isNotANumber (text : String) : Bool :=
  withoutSign (floatCharacters text) == ".nan".toList

/-- The float that a text stands for under the tag of floats. -/
def floatOf (text : String) : Except ValueFault Float :=
  let cs := floatCharacters text
  match cs with
  | [] => .error .emptyNumber
  | first :: _ =>
      let body := withoutSign cs
      let signed (x : Float) : Float := if first = '-' then -x else x
      if body = ".inf".toList then .ok (signed infinity)
      else if isNotANumber text then .ok notANumber
      else if body.contains ':' then
        (((Text.splitChars ':' body).mapM float).bind sumPlaces).map signed
      else (float body).map signed

end EntityScribe.Yaml.Number
