/-
  Page tables: from the page of an input address to the page that stands for it.

  A table is a finite map keyed by page base, so every address inside a page names that page
  (`lookup_congr`), and the mapping written last is the one found (`lookup_map`, `lookup_unmap`).
  `check` puts an access through a page: the page must be there, then its security state must admit
  the transaction, then its rights must cover the access; the first condition that fails is the
  error.  `mapPages` and `unmapPages` are the bulk forms; they refuse the whole list or perform it.
-/
import Std.Data.ExtTreeMap
import Iommu.Error

namespace Iommu

/-- What a page table holds for a page. -/
structure PageEntry where
  /-- First address of the output page. -/
  physical : UInt64
  permissions : Permissions
  security : Security
  valid : Bool
deriving DecidableEq

/-- A request to map the page of one address to the page of another. -/
structure Mapping where
  input : UInt64
  physical : UInt64
  permissions : Permissions
  security : Security
deriving DecidableEq

namespace Mapping

/-- The page a mapping is about. -/
def page (m : Mapping) : UInt64 := pageBase m.input

/-- What the table will hold for that page. -/
def entry (m : Mapping) : PageEntry :=
  { physical := pageBase m.physical, permissions := m.permissions, security := m.security,
    valid := true }

end Mapping

/-- A page table. -/
structure PageTable where
  pages : Std.ExtTreeMap UInt64 PageEntry
deriving DecidableEq

namespace PageTable

/-- The table without mappings. -/
def empty : PageTable := ⟨∅⟩

instance : Inhabited PageTable := ⟨empty⟩

/-! ## Reading -/

/-- What the table holds for the page of an address. -/
def lookup (t : PageTable) (a : UInt64) : Option PageEntry := t.pages[pageBase a]?

/-- Whether the table holds anything for the page of an address. -/
def isMapped (t : PageTable) (a : UInt64) : Bool := (t.lookup a).isSome

/-- The valid entry for the page of an address. -/
def resolve (t : PageTable) (a : UInt64) : Except Error PageEntry :=
  match t.lookup a with
  | some e => if e.valid then .ok e else .error (.pageNotMapped a)
  | none => .error (.pageNotMapped a)

/-- An access that ignores security states. -/
def checkAccess (t : PageTable) (a : UInt64) (access : Access) : Except Error PageEntry :=
  match t.resolve a with
  | .error e => .error e
  | .ok e => if e.permissions.allows access then .ok e else .error (.permissionViolation a access)

/-- An access issued in a security state. -/
def check (t : PageTable) (a : UInt64) (access : Access) (security : Security) :
    Except Error PageEntry :=
  match t.resolve a with
  | .error e => .error e
  | .ok e =>
    if security.canAccess e.security then
      if e.permissions.allows access then .ok e else .error (.permissionViolation a access)
    else
      .error (.securityViolation a security e.security)

/-- Number of pages mapped. -/
def size (t : PageTable) : Nat := t.pages.size

/-- Every page mapped, with its entry, by ascending address. -/
def toList (t : PageTable) : List (UInt64 × PageEntry) := t.pages.toList

/-! ## Writing -/

/-- Maps a page, over whatever was there. -/
def map (t : PageTable) (m : Mapping) : PageTable := ⟨t.pages.insert m.page m.entry⟩

/-- Unmaps the page of an address. -/
def unmap (t : PageTable) (a : UInt64) : PageTable := ⟨t.pages.erase (pageBase a)⟩

/-- The first page that occurs in the list or among the pages seen before it. -/
def firstRepeat (seen : List UInt64) : List UInt64 → Option UInt64
  | [] => none
  | p :: ps => if p ∈ seen then some p else firstRepeat (p :: seen) ps

/-- Maps every page or none; two mappings of one page refuse the list. -/
def mapPages (t : PageTable) (ms : List Mapping) : Except Error PageTable :=
  match firstRepeat [] (ms.map Mapping.page) with
  | some p => .error (.pageAlreadyMapped p)
  | none => .ok (ms.foldl map t)

/-- Unmaps every page or none; an address whose page is not mapped refuses the list. -/
def unmapPages (t : PageTable) (as : List UInt64) : Except Error PageTable :=
  match as.find? fun a => !t.isMapped a with
  | some a => .error (.pageNotMapped a)
  | none => .ok (as.foldl unmap t)

/-! ## Laws of the view `lookup` -/

/-- Two addresses of one page are looked up alike. -/
theorem lookup_congr (t : PageTable) {a b : UInt64} (h : pageBase a = pageBase b) :
    t.lookup a = t.lookup b := by
  rw [lookup, lookup, h]

theorem lookup_empty (a : UInt64) : empty.lookup a = none := by
  simp [lookup, empty]

theorem lookup_map (t : PageTable) (m : Mapping) (a : UInt64) :
    (t.map m).lookup a = if m.page = pageBase a then some m.entry else t.lookup a := by
  simp [lookup, map, Std.ExtTreeMap.getElem?_insert]

theorem lookup_unmap (t : PageTable) (a b : UInt64) :
    (t.unmap a).lookup b = if pageBase a = pageBase b then none else t.lookup b := by
  simp [lookup, unmap, Std.ExtTreeMap.getElem?_erase]

/-! ## Edits as data -/

/-- A change to a table. -/
inductive Op
  | map (m : Mapping)
  | unmap (a : UInt64)
  | mapPages (ms : List Mapping)
  | unmapPages (as : List UInt64)
  | clear
deriving DecidableEq

/-- A table after a change.  `unmap` answers whether the page was mapped; the others answer `true`. -/
def step (t : PageTable) : Op → Except Error (PageTable × Bool)
  | .map m => .ok (t.map m, true)
  | .unmap a => .ok (t.unmap a, t.isMapped a)
  | .mapPages ms => (t.mapPages ms).map (·, true)
  | .unmapPages as => (t.unmapPages as).map (·, true)
  | .clear => .ok (empty, true)

/-- The table after a change; a refused change leaves it as it was. -/
def edit (t : PageTable) (op : Op) : PageTable :=
  match t.step op with
  | .ok (t', _) => t'
  | .error _ => t

end PageTable

end Iommu
