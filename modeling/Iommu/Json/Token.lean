/-
  The tokens of a JSON text.

  The text is cut from the left into marks, literals, numbers and strings; space, tab, newline and
  return may stand between tokens.  Numbers have no leading zeros and digits on both sides of the
  point.  Strings hold no control characters, and every backslash in them starts an escape.
-/
import Iommu.Json.Value

namespace Iommu.Json

/-- A token. -/
inductive Token
  | openBrace
  | closeBrace
  | openBracket
  | closeBracket
  | colon
  | comma
  /-- A string, or none when it holds half of a surrogate pair. -/
  | str (text : Option String)
  /-- A number or one of the three words. -/
  | scalar (value : Json)

/-- The characters that may stand between tokens. -/
def isSpace (c : Char) : Bool := c = ' ' || c = '\t' || c = '\n' || c = '\r'

/-! ## Numbers -/

/-- Cuts off the part before the point: a zero, or digits that do not begin with one. -/
def cutInteger : List Char → Option (List Char × List Char)
  | [] => none
  | c :: r =>
    if c = '0' then some (['0'], r)
    else if c.isDigit then some (c :: r.takeWhile Char.isDigit, r.dropWhile Char.isDigit)
    else none

/-- Cuts off at least one digit. -/
def cutDigits (cs : List Char) : Option (List Char × List Char) :=
  match cs.takeWhile Char.isDigit with
  | [] => none
  | ds => some (ds, cs.dropWhile Char.isDigit)

/-- Cuts off the point and the digits after it, if there is a point. -/
def cutFraction : List Char → Option (List Char × List Char)
  | '.' :: r => (cutDigits r).map fun (ds, rest) => ('.' :: ds, rest)
  | cs => some ([], cs)

/-- Cuts off the exponent, if there is one. -/
def cutExponent : List Char → Option (List Char × List Char)
  | [] => some ([], [])
  | c :: r =>
    if c = 'e' || c = 'E' then
      match r with
      | '+' :: r' => (cutDigits r').map fun (ds, rest) => (c :: '+' :: ds, rest)
      | '-' :: r' => (cutDigits r').map fun (ds, rest) => (c :: '-' :: ds, rest)
      | r => (cutDigits r).map fun (ds, rest) => (c :: ds, rest)
    else some ([], c :: r)

/-- The number that digits denote, most significant first. -/
def naturalOf (ds : List Char) : Nat := ds.foldl (fun n c => n * 10 + (c.toNat - 48)) 0

/-- Cuts off a number. -/
def cutNumber (cs : List Char) : Option (Json × List Char) :=
  let (sign, unsigned) := match cs with
    | '-' :: r => (['-'], r)
    | r => ([], r)
  match cutInteger unsigned with
  | none => none
  | some (whole, r1) =>
    match cutFraction r1 with
    | none => none
    | some (fraction, r2) =>
      match cutExponent r2 with
      | none => none
      | some (exponent, r3) =>
        if sign.isEmpty && fraction.isEmpty && exponent.isEmpty then
          some (.natural (naturalOf whole), r3)
        else
          some (.number (String.ofList (sign ++ whole ++ fraction ++ exponent)), r3)

/-! ## Strings -/

/-- A part of a string: a character, or a 16-bit unit written by number. -/
inductive Piece
  | char (c : Char)
  | unit (n : Nat)
deriving DecidableEq

/-- The value of a hexadecimal digit. -/
def hexDigit? (c : Char) : Option Nat :=
  if c.isDigit then some (c.toNat - 48)
  else if 'a' ≤ c ∧ c ≤ 'f' then some (c.toNat - 87)
  else if 'A' ≤ c ∧ c ≤ 'F' then some (c.toNat - 55)
  else none

/-- The unit that four hexadecimal digits name. -/
def unit? (a b c d : Char) : Option Nat := do
  let a ← hexDigit? a
  let b ← hexDigit? b
  let c ← hexDigit? c
  let d ← hexDigit? d
  return ((a * 16 + b) * 16 + c) * 16 + d

/-- The character that a one-letter escape names. -/
def escape? (c : Char) : Option Char :=
  if c = '"' then some '"'
  else if c = '\\' then some '\\'
  else if c = '/' then some '/'
  else if c = 'b' then some '\x08'
  else if c = 'f' then some '\x0c'
  else if c = 'n' then some '\n'
  else if c = 'r' then some '\r'
  else if c = 't' then some '\t'
  else none

/-- Cuts off the rest of a string, up to its closing quote.  The pieces so far come last first. -/
def cutPieces (pieces : List Piece) : List Char → Option (List Piece × List Char)
  | [] => none
  | '"' :: r => some (pieces.reverse, r)
  | '\\' :: 'u' :: a :: b :: c :: d :: r =>
    match unit? a b c d with
    | some n => cutPieces (.unit n :: pieces) r
    | none => none
  | '\\' :: e :: r =>
    match escape? e with
    | some c => cutPieces (.char c :: pieces) r
    | none => none
  | c :: r => if c.toNat < 0x20 || c = '\\' then none else cutPieces (.char c :: pieces) r

/-- Whether a unit is the first half of a surrogate pair. -/
def isHighHalf (n : Nat) : Bool := 0xD800 ≤ n && n < 0xDC00

/-- Whether a unit is the second half of a surrogate pair. -/
def isLowHalf (n : Nat) : Bool := 0xDC00 ≤ n && n < 0xE000

/-- The character that a surrogate pair stands for. -/
def ofHalves (high low : Nat) : Char :=
  Char.ofNat (0x10000 + (high - 0xD800) * 0x400 + (low - 0xDC00))

/-- The text that pieces make up behind what was read so far, which comes last first; none when a
    half of a pair stands alone. -/
def textOf (read : List Char) : List Piece → Option String
  | [] => some (String.ofList read.reverse)
  | .char c :: r => textOf (c :: read) r
  | [.unit n] =>
    if isHighHalf n || isLowHalf n then none else some (String.ofList (Char.ofNat n :: read).reverse)
  | .unit n :: p :: r =>
    if isHighHalf n then
      match p with
      | .unit m => if isLowHalf m then textOf (ofHalves n m :: read) r else none
      | .char _ => none
    else if isLowHalf n then none
    else textOf (Char.ofNat n :: read) (p :: r)

/-! ## Tokens -/

/-- Cuts a word off the front. -/
def cutWord : List Char → List Char → Option (List Char)
  | [], cs => some cs
  | _ :: _, [] => none
  | w :: ws, c :: cs => if w = c then cutWord ws cs else none

/-- Cuts off the token in front. -/
def cutToken : List Char → Option (Token × List Char)
  | [] => none
  | '\x7b' :: r => some (.openBrace, r)
  | '\x7d' :: r => some (.closeBrace, r)
  | '[' :: r => some (.openBracket, r)
  | ']' :: r => some (.closeBracket, r)
  | ':' :: r => some (.colon, r)
  | ',' :: r => some (.comma, r)
  | '"' :: r => (cutPieces [] r).map fun (pieces, rest) => (.str (textOf [] pieces), rest)
  | 't' :: r => (cutWord ['r', 'u', 'e'] r).map fun rest => (.scalar (.bool true), rest)
  | 'f' :: r => (cutWord ['a', 'l', 's', 'e'] r).map fun rest => (.scalar (.bool false), rest)
  | 'n' :: r => (cutWord ['u', 'l', 'l'] r).map fun rest => (.scalar .null, rest)
  | cs => (cutNumber cs).map fun (n, rest) => (.scalar n, rest)

/-- Cuts tokens off for as long as one begins, behind those found so far, which come last first.  The
    answer is the tokens and the part where none begins.  Every token takes a character, so as many
    steps as there are characters suffice. -/
def cutAll (found : List Token) : Nat → List Char → List Token × List Char
  | 0, cs => (found.reverse, cs)
  | _ + 1, [] => (found.reverse, [])
  | steps + 1, c :: r =>
    if isSpace c then cutAll found steps r
    else match cutToken (c :: r) with
      | some (t, rest) => cutAll (t :: found) steps rest
      | none => (found.reverse, c :: r)

/-- The tokens at the front of a text, and the part where none begins. -/
def cutTokens (s : String) : List Token × List Char :=
  let cs := s.toList
  cutAll [] cs.length cs

/-- The tokens that make up a text. -/
def tokens? (s : String) : Option (List Token) :=
  match cutTokens s with
  | (ts, []) => some ts
  | _ => none

end Iommu.Json
