import EntityScribe.Text.Printable

/-!
# Quoted text

A quoted text stands between single quotes, or between double quotes if it holds a single quote and
no double one. The quote, the backslash and all that is not printable are escaped.
-/

namespace EntityScribe.Text

/-- A number in hexadecimal digits, filled up with zeros on the left. -/
def hexDigits (width n : Nat) : List Char :=
  let digits := Nat.toDigits 16 n
  List.replicate (width - digits.length) '0' ++ digits

/-- The quote for a text that holds the given characters. -/
def quoteFor (cs : List Char) : Char :=
  if cs.contains '\'' && !cs.contains '"' then '"' else '\''

/-- One character of a quoted text. -/
def escape (quote c : Char) : List Char :=
  if c = quote || c = '\\' then ['\\', c]
  else if c = '\n' then ['\\', 'n']
  else if c = '\r' then ['\\', 'r']
  else if c = '\t' then ['\\', 't']
  else if isPrintable c then [c]
  else if c.toNat < 0x100 then '\\' :: 'x' :: hexDigits 2 c.toNat
  else if c.toNat < 0x10000 then '\\' :: 'u' :: hexDigits 4 c.toNat
  else '\\' :: 'U' :: hexDigits 8 c.toNat

def quotedChars (cs : List Char) : List Char :=
  let quote := quoteFor cs
  quote :: cs.flatMap (escape quote) ++ [quote]

def quoted (s : String) : String :=
  String.ofList (quotedChars s.toList)

/-- Bytes are quoted like text, with a mark in front; all bytes beyond ASCII are escaped. -/
def quotedBytes (bytes : List UInt8) : String :=
  let cs := bytes.map fun byte => Char.ofNat byte.toNat
  let quote := quoteFor cs
  let body := cs.flatMap fun c =>
    if c.toNat < 0x80 then escape quote c else '\\' :: 'x' :: hexDigits 2 c.toNat
  String.ofList ('b' :: quote :: body ++ [quote])

end EntityScribe.Text
