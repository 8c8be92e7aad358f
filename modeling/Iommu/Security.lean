/-
  Security states.

  A transaction is issued in one of three states and a page is mapped under one.  Non-secure pages
  are open to every state; secure and realm pages only to their own (`canAccess_iff`).
-/

namespace Iommu

/-- The security state of a transaction or of a page. -/
inductive Security
  | nonSecure
  | secure
  | realm
deriving DecidableEq

namespace Security

/-- The word for a state inside a message. -/
def label : Security → String
  | nonSecure => "NonSecure"
  | secure => "Secure"
  | realm => "Realm"

/-- Whether a transaction issued in `s` may use a page mapped under `page`. -/
def canAccess (s page : Security) : Bool := page = nonSecure || page = s

theorem canAccess_iff {s page : Security} :
    s.canAccess page = true ↔ page = nonSecure ∨ page = s := by
  simp [canAccess]

end Security

end Iommu
