/-
  Writing a JSON document.

  The written form is spread over lines: an element or member to a line, two blanks deeper than what
  holds it; empty arrays and objects stay on one line.  In strings the quote, the backslash and the
  control characters are escaped, and everything else stands for itself.
-/
import Iommu.Json.Value

namespace Iommu.Json

/-- The decimal digits of a number, most significant first. -/
def decimalDigits (n : Nat) : List Char := Nat.toDigits 10 n

/-- A hexadecimal digit in lower case. -/
def hexChar (n : Nat) : Char := Nat.digitChar (n % 16)

/-- How one character is written in a string. -/
def escaped (c : Char) : List Char :=
  if c = '"' then ['\\', '"']
  else if c = '\\' then ['\\', '\\']
  else if c = '\n' then ['\\', 'n']
  else if c = '\r' then ['\\', 'r']
  else if c = '\t' then ['\\', 't']
  else if c = '\x08' then ['\\', 'b']
  else if c = '\x0c' then ['\\', 'f']
  else if c.toNat < 0x20 then ['\\', 'u', '0', '0', hexChar (c.toNat / 16), hexChar c.toNat]
  else [c]

/-- A string in quotes.  One without a text is written as half of a surrogate pair. -/
def writeString : Option String → List Char
  | some s => '"' :: s.toList.flatMap escaped ++ ['"']
  | none => ['"', '\\', 'u', 'd', '8', '0', '0', '"']

/-- The start of a line at some depth. -/
def newLine (depth : Nat) : List Char := '\n' :: List.replicate (2 * depth) ' '

mutual

/-- A value as text, at some depth. -/
def write (depth : Nat) : Json → List Char
  | .null => ['n', 'u', 'l', 'l']
  | .bool true => ['t', 'r', 'u', 'e']
  | .bool false => ['f', 'a', 'l', 's', 'e']
  | .natural n => decimalDigits n
  | .number literal => literal.toList
  | .str s => writeString s
  | .arr [] => ['[', ']']
  | .arr (x :: xs) =>
    '[' :: newLine (depth + 1) ++ write (depth + 1) x ++ writeElements (depth + 1) xs
      ++ newLine depth ++ [']']
  | .obj [] => ['\x7b', '\x7d']
  | .obj ((key, v) :: ms) =>
    '\x7b' :: newLine (depth + 1) ++ writeString key ++ [':', ' '] ++ write (depth + 1) v
      ++ writeMembers (depth + 1) ms ++ newLine depth ++ ['\x7d']

/-- The elements behind the first, each with the comma before it. -/
def writeElements (depth : Nat) : List Json → List Char
  | [] => []
  | x :: xs => ',' :: newLine depth ++ write depth x ++ writeElements depth xs

/-- The members behind the first, each with the comma before it. -/
def writeMembers (depth : Nat) : List (Option String × Json) → List Char
  | [] => []
  | (key, v) :: ms =>
    ',' :: newLine depth ++ writeString key ++ [':', ' '] ++ write depth v ++ writeMembers depth ms

end

/-- A document as text. -/
def render (j : Json) : String := String.ofList (write 0 j)

end Iommu.Json
