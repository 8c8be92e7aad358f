/-
  Addresses as they are written in scenarios.

  An address is a plain integer, or a text: white space at either end is dropped, a leading `0x` or
  `0X` selects base 16, underscores may stand anywhere behind it, and what is left is a number with an
  optional plus sign.
-/
import Iommu.Codec.Basic
import Iommu.Json.Reader
import Iommu.Text.Blank

namespace Iommu.AddressLiteral

open Text (Base NumberError readWord trimmed)

/-- The base that the start of a text selects, and the text behind it. -/
def split : List Char → Base × List Char
  | '0' :: 'x' :: body => (.sixteen, body)
  | '0' :: 'X' :: body => (.sixteen, body)
  | body => (.ten, body)

/-- Reads an address from its characters. -/
def parseChars (cs : List Char) : Except NumberError UInt64 :=
  readWord (split (trimmed cs)).1 ((split (trimmed cs)).2.filter (· ≠ '_'))

/-- Reads an address from a text. -/
def parse (s : String) : Except NumberError UInt64 := parseChars s.toList

/-- Reads an address from a document. -/
def decode : Codec.Decoder UInt64
  | .str (some s) =>
    match parse s with
    | .ok a => .ok a
    | .error e => .error (.address s e)
  | j => Codec.word64 j

/-- Reads an address that is a document of its own.  The value in front is judged before anything
    behind it. -/
def ofDocument (s : String) : Except DecodeError UInt64 :=
  match Json.first? s with
  | none => .error (.expected "a document")
  | some j =>
    match decode j with
    | .error e => .error e
    | .ok a => if (Json.parse? s).isSome then .ok a else .error (.expected "the end of the document")

example : parse " 0x4000_0000\n" = .ok 0x40000000 := by rfl
example : parse "+_5" = .ok 5 := by rfl
example : parse "0x+5" = .ok 5 := by rfl
example : parse "_" = .error .empty := by rfl
example : parse "_0x10" = .error .invalidDigit := by rfl

end Iommu.AddressLiteral
