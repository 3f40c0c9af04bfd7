import DatasetLint.Decimal.Numeral
import DatasetLint.Problem

/-!
# Types of scalars

How the text of a scalar becomes a value. Texts and paths are taken as they stand; other types look past
the blanks around the text.
-/

namespace DatasetLint.Binding

open Decimal

/-- A type that is written as a scalar: its name in messages, how it is read or why it cannot be, and
the value that an empty node stands for, if there is one. -/
structure ScalarType (α : Type) where
  expected : String
  read : String → Except String α
  null : Option α

namespace ScalarType

def text : ScalarType String := ⟨"string", .ok, none⟩

def path : ScalarType String := ⟨"path", .ok, none⟩

def readBoolean (s : String) : Except String Bool :=
  let w := Text.loose s
  if w = "true" ∨ w = "yes" ∨ w = "on" then .ok true
  else if w = "false" ∨ w = "no" ∨ w = "off" then .ok false
  else .error "expected true or false"

def boolean : ScalarType Bool := ⟨"boolean", readBoolean, none⟩

/-- The decimal integers of a range. -/
def integer (r : Range) : ScalarType Int :=
  ⟨if r.hasSign then "integer" else "unsigned integer",
    fun s => (r.read? 10 (Text.trim s.toList)).mapError IntegerFault.message, none⟩

/-- The numbers of a binary format. -/
def number (f : Format) : ScalarType Floating :=
  ⟨"number", fun s => (f.read? (Text.trim s.toList)).mapError FloatingFault.message, none⟩

def severity : ScalarType Severity := ⟨"severity", Severity.read, none⟩

/-- A value or none; an empty node stands for none. -/
def optional {α : Type} (t : ScalarType α) : ScalarType (Option α) :=
  ⟨t.expected, fun s => (t.read s).map some, some none⟩

end ScalarType

end DatasetLint.Binding
