/-
  Kinds of access and the rights a page grants.

  Rights are three independent flags.  They are shown as three letters (`rw-`) and read from any
  mix of the letters `r`, `w`, `x` and the placeholder `-` in either case, or from the word `none`.
  `ofBits` and `toBits` are the packed form, read = 1, write = 2, execute = 4.
-/
import Iommu.Text.Quoted

namespace Iommu

/-- What a transaction wants to do with a page. -/
inductive Access
  | read
  | write
  | execute
deriving DecidableEq

namespace Access

/-- The word for an access inside a message. -/
def label : Access → String
  | read => "Read"
  | write => "Write"
  | execute => "Execute"

/-- Every kind of access. -/
def all : List Access := [read, write, execute]

theorem mem_all (a : Access) : a ∈ all := by cases a <;> decide

end Access

/-- The rights granted by a page mapping. -/
structure Permissions where
  read : Bool
  write : Bool
  execute : Bool
deriving DecidableEq

namespace Permissions

/-- No right. -/
def empty : Permissions := ⟨false, false, false⟩

/-- Every right. -/
def full : Permissions := ⟨true, true, true⟩

/-- Whether the rights cover an access. -/
def allows (p : Permissions) : Access → Bool
  | .read => p.read
  | .write => p.write
  | .execute => p.execute

/-- The rights that both grant. -/
def inter (p q : Permissions) : Permissions :=
  ⟨p.read && q.read, p.write && q.write, p.execute && q.execute⟩

theorem allows_inter (p q : Permissions) (a : Access) :
    (p.inter q).allows a = (p.allows a && q.allows a) := by
  cases a <;> rfl

/-- Rights are equal when they allow the same accesses. -/
theorem ext_allows {p q : Permissions} (h : ∀ a, p.allows a = q.allows a) : p = q := by
  cases p; cases q
  simpa [allows] using And.intro (h .read) ⟨h .write, h .execute⟩

/-! ## Packed form -/

/-- The rights as the three low bits of a byte. -/
def toBits (p : Permissions) : UInt8 :=
  (if p.read then 1 else 0) + (if p.write then 2 else 0) + (if p.execute then 4 else 0)

/-- The rights named by the three low bits; the others are dropped. -/
def ofBits (b : UInt8) : Permissions :=
  ⟨b.toNat.testBit 0, b.toNat.testBit 1, b.toNat.testBit 2⟩

theorem ofBits_toBits (p : Permissions) : ofBits p.toBits = p := by
  rcases p with ⟨r, w, x⟩
  cases r <;> cases w <;> cases x <;> decide

/-! ## Letters -/

/-- The rights as three letters, a dash for each one missing. -/
def letters (p : Permissions) : List Char :=
  [if p.read then 'r' else '-', if p.write then 'w' else '-', if p.execute then 'x' else '-']

/-- The rights as text. -/
def display (p : Permissions) : String := String.ofList p.letters

/-- The rights after one more letter. -/
def addLetter (p : Permissions) (c : Char) : Option Permissions :=
  match c.toLower with
  | 'r' => some { p with read := true }
  | 'w' => some { p with write := true }
  | 'x' => some { p with execute := true }
  | '-' => some p
  | _ => none

/-- The rights named by letters, in any order and number. -/
def ofLetters (cs : List Char) : Option Permissions := cs.foldlM addLetter empty

/-- The rights named by a text, or the trimmed text when it names none. -/
def parse (s : String) : Except String Permissions :=
  let cs := Text.trimmed s.toList
  if cs.map Char.toLower = ['n', 'o', 'n', 'e'] then .ok empty
  else match ofLetters cs with
    | some p => .ok p
    | none => .error (String.ofList cs)

/-- What is said of a text that names no rights. -/
def parseMessage (text : String) : String :=
  "invalid permission string " ++ Text.quoted text ++ " (expected a combination of r, w, x)"

/-- Reading the letters of some rights gives them back. -/
theorem ofLetters_letters (p : Permissions) : ofLetters p.letters = some p := by
  rcases p with ⟨r, w, x⟩
  cases r <;> cases w <;> cases x <;> rfl

end Permissions

end Iommu
