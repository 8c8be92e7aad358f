/-
  What a device asks for and what it gets: a transaction names an address of one of its address
  spaces together with the access and the security state; a translation is the address it stands
  for.
-/
import Iommu.Address
import Iommu.Permissions
import Iommu.Security

namespace Iommu

/-- A memory access issued by a device. -/
structure Transaction where
  stream : StreamId
  pasid : Pasid
  address : UInt64
  access : Access
  security : Security
deriving DecidableEq

/-- The outcome of a successful translation. -/
structure Translation where
  physical : UInt64
  /-- Output of the first stage when both stages ran. -/
  intermediate : Option UInt64
  permissions : Permissions
  security : Security
  /-- Whether the answer came from the translation cache. -/
  cacheHit : Bool
  /-- Whether translation is off and the address went through untouched. -/
  bypassed : Bool
deriving DecidableEq

namespace Translation

/-- The translation of a stream that does not translate. -/
def bypass (address : UInt64) (security : Security) : Translation :=
  { physical := address, intermediate := none, permissions := .full, security,
    cacheHit := false, bypassed := true }

/-- A translation found by walking the tables. -/
def walked (physical : UInt64) (intermediate : Option UInt64) (permissions : Permissions)
    (security : Security) : Translation :=
  { physical, intermediate, permissions, security, cacheHit := false, bypassed := false }

end Translation

end Iommu
