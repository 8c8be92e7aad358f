/-
  JSON values.

  A document is kept as a tree.  Numbers come in two kinds: `natural` is a plain run of digits, the
  only form that integers are read from and written in, and `number` is any other literal, kept as it
  was written.  A string literal may contain escapes for half of a surrogate pair, which stand for
  no character; such a literal is well formed but has no text, hence the `Option`.  Members of an
  object keep their order and may repeat.
-/

namespace Iommu

/-- A JSON document. -/
inductive Json
  | null
  | bool (b : Bool)
  | natural (n : Nat)
  | number (literal : String)
  | str (text : Option String)
  | arr (elements : List Json)
  | obj (members : List (Option String × Json))

namespace Json

instance : Inhabited Json := ⟨null⟩

/-- A string value. -/
def ofString (s : String) : Json := .str (some s)

/-- An object with the given members. -/
def ofFields (fields : List (String × Json)) : Json := .obj (fields.map fun f => (some f.1, f.2))

/-- A value that may be absent, written as null. -/
def ofOption {α : Type} (encode : α → Json) : Option α → Json
  | none => null
  | some a => encode a

end Json

end Iommu
