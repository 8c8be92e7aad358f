/-
  Translation through the cache.

  A cached entry answers only when it grants the access; otherwise the tables are walked, so that a
  refusal is attributed to the stage that makes it.  A walk that succeeds is cached unless it was a
  bypass or an invalidation overtook it.  A walk that fails is recorded, counted and reported as an
  event; in a stream that stalls, a fault that software can mend also raises a page request, and the
  transaction waits.
-/
import Iommu.Controller.State

namespace Iommu.Controller

/-- Records a fault in the controller's log, counts it and reports it. -/
def reportFault (c : Controller) (t : Transaction) (f : StageFault) : Controller :=
  let record := FaultRecord.ofTransaction t f.error.faultKind f.stage c.stamp
  let (log, discarded) := c.faultLog.record record
  let counters := { c.counters with
    faults := c.counters.faults + 1
    faultsDiscarded := c.counters.faultsDiscarded + discarded.toNat }
  { c with faultLog := log, counters }.emit (.ofFault record)

/-- Holds a transaction and asks for its page.  When the request does not fit, the transaction ends
    and the overflow is counted. -/
def stall (c : Controller) (t : Transaction) : Controller :=
  let request := { PageRequest.ofTransaction t with timestamp := c.stamp }
  let offered := { c with pageRequests := c.pageRequests.push request }
  if c.pageRequests.isFull then
    { offered with counters := { c.counters with pageOverflows := c.counters.pageOverflows + 1 } }
  else
    { offered.countPageRequest with stalls := c.stalls.add ⟨t, c.stamp⟩ }.emit
      (.plain .priPageRequest t.stream t.pasid t.address)

/-- Looks a transaction up in the cache, if caching is on. -/
def lookupCache (c : Controller) (t : Transaction) : Controller × Option TlbEntry :=
  if c.config.cache.enabled then
    let (tlb, found) :=
      c.tlb.lookup c.clock (.ofAddress t.stream t.pasid t.address t.security)
    ({ c with tlb }, found)
  else (c, none)

/-- Remembers a translation that was resolved when the cache had an epoch, if caching is on. -/
def remember (c : Controller) (t : Transaction) (r : Translation) (epoch : Nat) : Controller :=
  if c.config.cache.enabled && !r.bypassed then
    { c with tlb :=
        (c.tlb.insertIfCurrent c.clock (.ofTranslation t.stream t.pasid t.address r) epoch).1 }
  else c

/-- Walks the tables of a stream, with everything that comes of it. -/
def walkStream (c : Controller) (s : Stream) (t : Transaction) :
    Controller × Except Error Translation :=
  let epoch := c.tlb.epoch
  let ((s', resources), outcome) := s.resolve c.resources c.clock t
  let c := { c.setStream s' with resources }
  match outcome with
  | .ok r => (c.remember t r epoch, .ok r)
  | .error f =>
    let c := c.reportFault t f
    if f.error.retryable && s.config.faultMode = .stall then (c.stall t, .error f.error)
    else (c, .error f.error)

/-- Translates without counting the call. -/
def attempt (c : Controller) (t : Transaction) : Controller × Except Error Translation :=
  match c.stream t.stream with
  | .error e => (c.reportFault t (.unstaged e), .error e)
  | .ok s =>
    match c.lookupCache t with
    | (c, some e) =>
      if e.permissions.allows t.access then
        (c.setStream (s.countTranslation true), .ok (e.toTranslation t.address))
      else c.walkStream s t
    | (c, none) => c.walkStream s t

/-- Translates a transaction. -/
def translate (c : Controller) (t : Transaction) : Controller × Except Error Translation :=
  match c.attempt t with
  | (c, .ok r) => (c.countTranslation true, .ok r)
  | (c, .error e) => (c.countTranslation false, .error e)

end Iommu.Controller
