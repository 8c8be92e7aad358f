/-
  Reading a JSON document.

  The reader takes one token at a time.  It knows what may come next (`Expect`) and which arrays and
  objects are still open (`Frame`), so nesting costs no stack.  `readAll` feeds it a list of tokens;
  a document is complete when a value has ended and nothing is open.
-/
import Iommu.Json.Token

namespace Iommu.Json

/-- An open array or object, with what it holds so far, newest first. -/
inductive Frame
  | element (done : List Json)
  | member (done : List (Option String × Json)) (key : Option String)

/-- What may come next. -/
inductive Expect
  | value
  /-- An element, or the end of an array just opened. -/
  | firstElement
  /-- A key, or the end of an object just opened. -/
  | firstKey
  | key (done : List (Option String × Json))
  | colon (done : List (Option String × Json)) (key : Option String)
  /-- A value has ended; a comma or a closing mark. -/
  | ended (v : Json)

/-- Where the reader stands. -/
structure ReadState where
  expect : Expect
  frames : List Frame

/-- Reads the first token of a value. -/
def readValue (frames : List Frame) : Token → Option ReadState
  | .scalar v => some ⟨.ended v, frames⟩
  | .str s => some ⟨.ended (.str s), frames⟩
  | .openBracket => some ⟨.firstElement, frames⟩
  | .openBrace => some ⟨.firstKey, frames⟩
  | _ => none

/-- Reads what follows a value. -/
def readEnd (v : Json) : List Frame → Token → Option ReadState
  | .element done :: frames, .comma => some ⟨.value, .element (v :: done) :: frames⟩
  | .element done :: frames, .closeBracket => some ⟨.ended (.arr (v :: done).reverse), frames⟩
  | .member done key :: frames, .comma => some ⟨.key ((key, v) :: done), frames⟩
  | .member done key :: frames, .closeBrace =>
    some ⟨.ended (.obj ((key, v) :: done).reverse), frames⟩
  | _, _ => none

/-- Reads one token. -/
def readToken (s : ReadState) (t : Token) : Option ReadState :=
  match s.expect, t with
  | .value, t => readValue s.frames t
  | .firstElement, .closeBracket => some ⟨.ended (.arr []), s.frames⟩
  | .firstElement, t => readValue (.element [] :: s.frames) t
  | .firstKey, .closeBrace => some ⟨.ended (.obj []), s.frames⟩
  | .firstKey, .str key => some ⟨.colon [] key, s.frames⟩
  | .key done, .str key => some ⟨.colon done key, s.frames⟩
  | .colon done key, .colon => some ⟨.value, .member done key :: s.frames⟩
  | .ended v, t => readEnd v s.frames t
  | _, _ => none

/-- Reads a list of tokens. -/
def readAll (s : ReadState) : List Token → Option ReadState
  | [] => some s
  | t :: ts =>
    match readToken s t with
    | some s' => readAll s' ts
    | none => none

/-- The document that a list of tokens makes up. -/
def ofTokens? (ts : List Token) : Option Json :=
  match readAll ⟨.value, []⟩ ts with
  | some ⟨.ended v, []⟩ => some v
  | _ => none

/-- The document that a text denotes. -/
def parse? (s : String) : Option Json :=
  match tokens? s with
  | some ts => ofTokens? ts
  | none => none

/-- Reads tokens until a value has ended and nothing is open. -/
def readFirst (s : ReadState) (ts : List Token) : Option Json :=
  match s, ts with
  | ⟨.ended v, []⟩, _ => some v
  | _, [] => none
  | s, t :: ts =>
    match readToken s t with
    | some s' => readFirst s' ts
    | none => none

/-- The value at the front of a text, whatever comes behind it. -/
def first? (s : String) : Option Json := readFirst ⟨.value, []⟩ (cutTokens s).1

end Iommu.Json
