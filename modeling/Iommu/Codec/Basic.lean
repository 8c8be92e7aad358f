/-
  Reading values out of JSON documents.

  A record is written as an object or as an array of its fields in order; `fields` accepts both and
  answers the fields by name.  A known field may occur once.  Unknown ones are passed over, or refused
  when the record is closed.  Integers are plain runs of digits, and a value of an enumeration is its
  name, or an object whose only member has that name and the value null.
-/
import Iommu.Json.Value
import Iommu.Permissions
import Iommu.Text.Natural

namespace Iommu

/-- Why a document does not denote a value. -/
inductive DecodeError
  | expected (what : String)
  | outOfRange (value : Nat)
  | unknownName (name : String)
  | missing (field : String)
  | repeated (field : String)
  | unknownField (field : String)
  | surplus
  | address (text : String) (why : Text.NumberError)
  | permissions (text : String)
deriving DecidableEq

namespace DecodeError

/-- The message of a document that is refused. -/
def message : DecodeError → String
  | expected what => "expected " ++ what
  | outOfRange value => "integer " ++ toString value ++ " is out of range"
  | unknownName name => "unknown name " ++ Text.quoted name
  | missing field => "missing field " ++ Text.quoted field
  | repeated field => "duplicate field " ++ Text.quoted field
  | unknownField field => "unknown field " ++ Text.quoted field
  | surplus => "more elements than fields"
  | address text why => "invalid address " ++ Text.quoted text ++ ": " ++ why.message
  | permissions text => Permissions.parseMessage text

end DecodeError

namespace Codec

/-- A reading of a document, or what is wrong with it. -/
abbrev Decoder (α : Type) := Json → Except DecodeError α

variable {α : Type}

/-! ## Single values -/

/-- An integer below a bound. -/
def natural (bound : Nat) : Decoder Nat
  | .natural n => if n < bound then .ok n else .error (.outOfRange n)
  | _ => .error (.expected "an unsigned integer")

/-- A number below 2^64. -/
def word64 : Decoder UInt64 := fun j => (natural UInt64.size j).map UInt64.ofNat

/-- A number below 2^32. -/
def word32 : Decoder UInt32 := fun j => (natural UInt32.size j).map UInt32.ofNat

/-- A truth value. -/
def bool : Decoder Bool
  | .bool b => .ok b
  | _ => .error (.expected "a truth value")

/-- A text, unless it is no sequence of characters. -/
def text : Decoder String
  | .str (some s) => .ok s
  | _ => .error (.expected "a text")

/-- A value or null. -/
def nullable (decode : Decoder α) : Decoder (Option α)
  | .null => .ok none
  | j => (decode j).map some

/-- The elements of an array, in order. -/
def list (decode : Decoder α) : Decoder (List α)
  | .arr js => js.mapM decode
  | _ => .error (.expected "an array")

/-- The value among `all` that has a name. -/
def byName (all : List α) (name : α → String) (s : String) : Except DecodeError α :=
  match all.find? fun a => name a == s with
  | some a => .ok a
  | none => .error (.unknownName s)

/-- A value of an enumeration. -/
def enumerated (all : List α) (name : α → String) : Decoder α
  | .str (some s) => byName all name s
  | .obj [(some s, .null)] => byName all name s
  | _ => .error (.expected "a name")

/-! ## Records -/

/-- The fields of a record that were written, by name. -/
structure Fields where
  found : List (String × Json)

namespace Fields

/-- A field if it was found. -/
def get? (f : Fields) (name : String) : Option Json := f.found.lookup name

/-- A field that has to be present. -/
def required (f : Fields) (name : String) (decode : Decoder α) : Except DecodeError α :=
  match f.get? name with
  | some j => decode j
  | none => .error (.missing name)

/-- A field that stands for `default` when it is left out. -/
def optional (f : Fields) (name : String) (default : α) (decode : Decoder α) :
    Except DecodeError α :=
  match f.get? name with
  | some j => decode j
  | none => .ok default

end Fields

/-- Adds a member of an object to the fields found so far. -/
def addMember (names : List String) (closed : Bool) (f : Fields) (m : Option String × Json) :
    Except DecodeError Fields :=
  match m with
  | (none, _) => .error (.expected "a text")
  | (some key, j) =>
    if names.contains key then
      if (f.get? key).isSome then .error (.repeated key) else .ok ⟨(key, j) :: f.found⟩
    else if closed then .error (.unknownField key)
    else .ok f

/-- The fields of a record whose field names are given in order. -/
def fields (names : List String) (closed : Bool) : Decoder Fields
  | .obj members => members.foldlM (addMember names closed) ⟨[]⟩
  | .arr js => if names.length < js.length then .error .surplus else .ok ⟨names.zip js⟩
  | _ => .error (.expected "a record")

end Codec

end Iommu
