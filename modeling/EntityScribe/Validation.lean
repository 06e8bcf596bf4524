/-!
# Records that do not fit

A record is built only from parts of the right kind. All parts are looked at, and each that does not
fit gives one complaint, in the order of the parts.
-/

namespace EntityScribe

/-- The kinds of record whose parts are checked. -/
inductive RecordKind where
  | field
  | component
  | artifact
  | settings
  deriving DecidableEq, Repr

/-- One step on the way to a part: a named part of a record, or an item of a list. -/
inductive PartStep where
  | part (name : String)
  | item (index : Nat)
  deriving DecidableEq, Repr

inductive Violation where
  /-- Neither a text nor bytes that encode one. -/
  | notText
  | notList
  | rejected (reason : String)
  deriving DecidableEq, Repr

def Violation.message : Violation → String
  | notText => "Input should be a valid string"
  | notList => "Input should be a valid list"
  | rejected reason => "Value error, " ++ reason

structure Complaint where
  place : List PartStep
  violation : Violation
  deriving DecidableEq, Repr

/-- Why a record could not be built. -/
structure Invalid where
  record : RecordKind
  complaints : List Complaint
  deriving DecidableEq, Repr

/-- The complaints are listed apart; in a sentence only a mark stands for them. -/
def Invalid.message (_ : Invalid) : String := "<validation error>"

end EntityScribe
