import EntityScribe.Calendar
import EntityScribe.Text.Quoted

/-!
# Problems with YAML text

Bytes that are no text are one kind of problem and a text that is not well formed another; a third
is a well-formed text with a scalar that its tag does not allow. Only the last kind says what is
wrong.
-/

namespace EntityScribe.Yaml

/-- What is wrong with a value in a well-formed text. -/
inductive ValueFault where
  | notInteger (text : String) (base : Nat)
  | notFloat (text : String)
  /-- A number without any characters. -/
  | emptyNumber
  | notTruthValue (text : String)
  | notTimestamp
  /-- A mapping where the text of a timestamp is looked for. -/
  | timestampInMapping
  | calendar (fault : Calendar.Fault)
  /-- An integer with too many decimal digits. -/
  | tooManyDigits (count : Nat)
  /-- An escape sequence for a number beyond all characters. -/
  | noCharacter
  /-- An escape sequence for a number that does not even fit a machine word. -/
  | hugeCharacter
  /-- A place of a number in base 60 that is beyond all floats. -/
  | hugePlace
  deriving DecidableEq, Repr

namespace ValueFault

/-- The quoted text of an integer in a message, at most 200 characters of it. -/
def excerpt (text : String) : String :=
  String.ofList ((Text.quotedChars text.toList).take 200)

def message : ValueFault → String
  | notInteger text base =>
      "invalid literal for int() with base " ++ toString base ++ ": " ++ excerpt text
  | notFloat text => "could not convert string to float: " ++ Text.quoted text
  | emptyNumber => "string index out of range"
  | notTruthValue text => text
  | notTimestamp => "not a timestamp"
  | timestampInMapping => "not a text"
  | calendar fault => fault.message
  | tooManyDigits count =>
      "Exceeds the limit (4300 digits) for integer string conversion: value has " ++
        toString count ++ " digits; use sys.set_int_max_str_digits() to increase the limit"
  | noCharacter => "chr() arg not in range(0x110000)"
  | hugeCharacter => "Python int too large to convert to C int"
  | hugePlace => "int too large to convert to float"

end ValueFault

inductive Problem where
  /-- The text is not well formed. -/
  | malformed
  /-- There are bytes that are no text. -/
  | undecodable
  /-- Lists and mappings stand too deep inside one another. -/
  | tooDeep
  | value (fault : ValueFault)
  deriving DecidableEq, Repr

end EntityScribe.Yaml
