import EntityScribe.Calendar
import EntityScribe.Decimal.Shortest

/-!
# Scalars

The values without parts. They are also the keys of mappings, whose entries keep the order in which
their keys first came.
-/

namespace EntityScribe

open Calendar (Date Moment)

inductive Scalar where
  | null
  | bool (b : Bool)
  | int (n : Int)
  | float (x : Float)
  /-- A float that is not a number. It is the same only as one with its mark. -/
  | notANumber (mark : Nat)
  | text (s : String)
  | date (d : Date)
  | moment (m : Moment)
  | bytes (bytes : List UInt8)
  | path (p : String)

namespace Scalar

/-- Whether a float is a whole number with the given value. -/
def isWhole (x : Float) (n : Int) : Bool :=
  if x.isNaN || x.isInf then false
  else
    let size := Decimal.Binary.ofBits x.toBits
    let signed : Int := if x.toBits >>> 63 == 1 then -size.significand else size.significand
    signed * Int.pow 2 size.exponent.toNat == n * Int.pow 2 (-size.exponent).toNat

/-- A truth value counts as the number 0 or 1. -/
def whole? : Scalar → Option Int
  | bool b => some (if b then 1 else 0)
  | int n => some n
  | _ => none

/-- Whether two scalars are the same key. Numbers are compared by value whatever their kind. -/
def same (a b : Scalar) : Bool :=
  match a, b with
  | null, null => true
  | text s, text t => s == t
  | date d, date e => d == e
  | moment m, moment n => m.same n
  | bytes s, bytes t => s == t
  | path p, path q => p == q
  | notANumber m, notANumber n => m == n
  | float x, float y => x == y
  | float x, other => other.whole?.any (isWhole x)
  | other, float y => other.whole?.any (isWhole y)
  | _, _ =>
      match a.whole?, b.whole? with
      | some m, some n => m == n
      | _, _ => false

theorem same_text (s t : String) : same (text s) (text t) = (s == t) := rfl

/-- Null, false, zero and the empty text. -/
def isVoid : Scalar → Bool
  | null => true
  | bool b => !b
  | int n => n == 0
  | float x => x == 0.0
  | notANumber _ => false
  | text s => s.isEmpty
  | bytes bs => bs.isEmpty
  | date _ => false
  | moment _ => false
  | path _ => false

/-- What a record that asks for a text takes a scalar for: a text for itself, and bytes for the text
that they encode, if they encode one. -/
def recordText? : Scalar → Option String
  | text s => some s
  | bytes bs => String.fromUTF8? ⟨bs.toArray⟩
  | _ => none

@[simp]
theorem recordText?_text (s : String) : (text s).recordText? = some s := rfl

end Scalar

/-- The entries of a mapping, in order. -/
abbrev Entries (α : Type) := List (Scalar × α)

namespace Entries

variable {α : Type}

/-- Gives a key a value. A key that is present keeps its place and its spelling. -/
def put : Entries α → Scalar → α → Entries α
  | [], key, value => [(key, value)]
  | (k, v) :: rest, key, value =>
      if k.same key then (k, value) :: rest else (k, v) :: put rest key value

/-- The entries that a sequence of pairs comes to. -/
def ofPairs (pairs : List (Scalar × α)) : Entries α :=
  pairs.foldl (fun entries pair => put entries pair.1 pair.2) []

/-- The value of a key that is a text. -/
def get? : Entries α → String → Option α
  | [], _ => none
  | (.text s, value) :: rest, name => if s = name then some value else get? rest name
  | (_, _) :: rest, name => get? rest name

end Entries

end EntityScribe
