/-
  The page request queue.

  Requests are answered oldest first by queueing a response command, as long as the command queue
  takes it; the first request whose response does not fit stays in front with all behind it.
  Discarding requests terminates the transactions stalled on their pages.
-/
import Iommu.Controller.Commands

namespace Iommu.Controller

/-- Queues a page request from outside. -/
def submitPageRequest (c : Controller) (r : PageRequest) : Controller × Except Error Unit :=
  match c.pageRequests.submit .pageRequest { r with timestamp := c.stamp } with
  | (pageRequests, .ok ()) => ({ c with pageRequests }.countPageRequest, .ok ())
  | (pageRequests, .error e) => ({ c with pageRequests }, .error e)

/-- The response to a page request. -/
def response (c : Controller) (r : PageRequest) : Command :=
  { Command.priResp r.stream r.pasid r.address with timestamp := c.stamp }

/-- Answers queued requests; the answer is how many. -/
def processPageRequests (c : Controller) : Controller × Nat :=
  let (answered, pageRequests, commands) :=
    c.pageRequests.drainWhile (fun q r => (!q.isFull, q.push (c.response r))) c.commands
  ({ c with pageRequests, commands }, answered)

/-- Terminates the transactions stalled on the page of a request. -/
def terminateRequest (c : Controller) (r : PageRequest) : Controller :=
  { c with stalls := (c.stalls.resume r.stream r.pasid (.ofPage r.address)).1 }.addTerminated
    (c.stalls.resume r.stream r.pasid (.ofPage r.address)).2

/-- Discards queued requests; the answer is how many. -/
def clearPageRequests (c : Controller) : Controller × Nat :=
  let discarded := c.pageRequests.entries
  (discarded.foldl terminateRequest { c with pageRequests := c.pageRequests.clear },
    discarded.length)

end Iommu.Controller
