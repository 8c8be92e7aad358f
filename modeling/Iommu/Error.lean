/-
  Everything an operation can refuse for.

  An error is its cause; the wording is in one function, `Error.message`.  When an error ends a
  translation it becomes a fault of class `faultKind`, and the two kinds a mapping can mend are
  `retryable`: a missing page and a missing right (`retryable_iff`).
-/
import Iommu.Configuration
import Iommu.Fault

namespace Iommu

/-- The three queues between software and the controller. -/
inductive QueueName
  | event
  | command
  | pageRequest
deriving DecidableEq

/-- The word for a queue inside a message. -/
def QueueName.label : QueueName → String
  | event => "event"
  | command => "command"
  | pageRequest => "PRI"

/-- Why a configuration cannot be used. -/
inductive Misconfiguration
  | setting (problem : Configuration.Problem)
  | tooManyStreams (configured limit : Nat)
  | tooManyPasids (stream : StreamId) (held limit : Nat)
  | queueOverfull (queue : QueueName) (held requested : Nat)
  | streamTableFull (stream : StreamId) (limit : Nat)
  | noStage (stream : StreamId)
  | noStage2Table (stream : StreamId)
  | other (text : String)
deriving DecidableEq

open Text (hex) in
/-- What is wrong with a configuration, in words. -/
def Misconfiguration.message : Misconfiguration → String
  | setting problem => problem.message
  | tooManyStreams configured limit =>
    toString configured ++ " streams configured, more than maxStreamCount " ++ toString limit
  | tooManyPasids stream held limit =>
    "stream " ++ hex stream.toNat ++ " holds " ++ toString held
      ++ " PASIDs, more than maxPasidCount " ++ toString limit
  | queueOverfull queue held requested =>
    queue.label ++ " queue holds " ++ toString held ++ " entries, more than the requested size "
      ++ toString requested
  | streamTableFull stream limit =>
    "cannot configure stream " ++ hex stream.toNat ++ ": maxStreamCount " ++ toString limit
      ++ " reached"
  | noStage stream =>
    "stream " ++ hex stream.toNat ++ ": translation enabled with neither stage enabled"
  | noStage2Table stream =>
    "stream " ++ hex stream.toNat ++ " has Stage 2 enabled but no Stage-2 address space"
  | other text => text

/-- Why an operation was refused. -/
inductive Error
  | streamNotConfigured (stream : StreamId)
  | streamDisabled (stream : StreamId)
  | invalidPasid (pasid : Pasid)
  | pasidNotFound (stream : StreamId) (pasid : Pasid)
  | pageNotMapped (address : UInt64)
  | permissionViolation (address : UInt64) (access : Access)
  | invalidAddress (address : UInt64) (bits : UInt32)
  | pasidsExhausted (stream : StreamId) (limit : Nat)
  | pageAlreadyMapped (address : UInt64)
  | securityViolation (address : UInt64) (requested page : Security)
  | misconfigured (why : Misconfiguration)
  | queueFull (queue : QueueName) (capacity : Nat)
  | cacheFailure (text : String)
  | internal (text : String)
deriving DecidableEq

namespace Error

/-- The name of the cause without its details. -/
def name : Error → String
  | streamNotConfigured _ => "StreamNotConfigured"
  | streamDisabled _ => "StreamDisabled"
  | invalidPasid _ => "InvalidPasid"
  | pasidNotFound _ _ => "PasidNotFound"
  | pageNotMapped _ => "PageNotMapped"
  | permissionViolation _ _ => "PagePermissionViolation"
  | invalidAddress _ _ => "InvalidAddress"
  | pasidsExhausted _ _ => "AddressSpaceExhausted"
  | pageAlreadyMapped _ => "PageAlreadyMapped"
  | securityViolation _ _ _ => "InvalidSecurityState"
  | misconfigured _ => "InvalidConfiguration"
  | queueFull .command _ => "CommandQueueFull"
  | queueFull .pageRequest _ => "PriQueueFull"
  | queueFull .event _ => "EventQueueFull"
  | cacheFailure _ => "CacheOperationFailed"
  | internal _ => "InternalError"

open Text (hex) in
/-- The message of an error. -/
def message : Error → String
  | streamNotConfigured stream => "stream " ++ hex stream.toNat ++ " is not configured"
  | streamDisabled stream => "stream " ++ hex stream.toNat ++ " is disabled"
  | invalidPasid pasid => "PASID " ++ hex pasid.toNat ++ " is outside the permitted range"
  | pasidNotFound stream pasid =>
    "PASID " ++ hex pasid.toNat ++ " is not present on stream " ++ hex stream.toNat
  | pageNotMapped address => "no mapping for address " ++ hex address.toNat
  | permissionViolation address access =>
    access.label ++ " access to " ++ hex address.toNat ++ " is not permitted"
  | invalidAddress address bits =>
    "address " ++ hex address.toNat ++ " does not fit in " ++ toString bits.toNat ++ " bits"
  | pasidsExhausted stream limit =>
    "stream " ++ hex stream.toNat ++ " already holds the maximum of " ++ toString limit
      ++ " PASIDs"
  | pageAlreadyMapped address => "page " ++ hex address.toNat ++ " is already mapped"
  | securityViolation address requested page =>
    requested.label ++ " transaction may not access " ++ page.label ++ " page at "
      ++ hex address.toNat
  | misconfigured why => "invalid configuration: " ++ why.message
  | queueFull queue capacity =>
    queue.label ++ " queue full (capacity " ++ toString capacity ++ ")"
  | cacheFailure text => "cache operation failed: " ++ text
  | internal text => "internal error: " ++ text

/-- The class of the fault recorded when the error ends a translation. -/
def faultKind : Error → FaultKind
  | pageNotMapped _ => .translation
  | permissionViolation _ _ => .permission
  | invalidAddress _ _ => .addressSize
  | securityViolation _ _ _ => .security
  | _ => .configuration

/-- Whether a stalled transaction can succeed once software mends the mapping. -/
def retryable : Error → Bool
  | pageNotMapped _ => true
  | permissionViolation _ _ => true
  | _ => false

/-- Whether a submission was refused for lack of room. -/
def isQueueFull : Error → Bool
  | queueFull _ _ => true
  | _ => false

/-- Retrying helps where the fault was a missing page or a missing right. -/
theorem retryable_iff {e : Error} :
    e.retryable = true ↔ e.faultKind = .translation ∨ e.faultKind = .permission := by
  cases e <;> simp [retryable, faultKind]

end Error

end Iommu
