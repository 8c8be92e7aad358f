/-
  Texts as they appear inside messages: in double quotes, with everything that would be unreadable
  escaped, and numbers in hexadecimal with a leading `0x`.

  A quote mark and a backslash get a backslash; newline, return, tab and the zero character have
  letters of their own; every other character that `isNumbered` becomes its code point in braces.
-/
import Iommu.Text.Printable

namespace Iommu.Text

/-- The lower-case hexadecimal digits of a number, without leading zeros. -/
def hexDigits (n : Nat) : List Char := Nat.toDigits 16 n

/-- A number in hexadecimal, such as `0x1f`. -/
def hex (n : Nat) : String := "0x" ++ String.ofList (hexDigits n)

/-- How one character is shown inside quotes. -/
def quotedChar (c : Char) : List Char :=
  match c with
  | '"' => ['\\', '"']
  | '\\' => ['\\', '\\']
  | '\n' => ['\\', 'n']
  | '\r' => ['\\', 'r']
  | '\t' => ['\\', 't']
  | '\x00' => ['\\', '0']
  | c => if isNumbered c then ['\\', 'u', '\x7b'] ++ hexDigits c.toNat ++ ['\x7d'] else [c]

/-- A text in double quotes. -/
def quoted (s : String) : String :=
  String.ofList (['"'] ++ s.toList.flatMap quotedChar ++ ['"'])

example : hex 4096 = "0x1000" := by decide
example : hex 0 = "0x0" := by decide
example : quoted "a'b\"\n\x7f" = "\"a'b\\\"\\n\\u\x7b7f\x7d\"" := by decide

end Iommu.Text
