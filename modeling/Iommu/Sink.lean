/-
  Sinks: the receivers of drained events.

  A recorder notes each delivery under its name.  A spawner registers, on its n-th delivery, a
  recorder whose name ends in n.  A batch of events goes to the sinks that were registered when it was
  drained, event by event and sink by sink; those registered during the batch wait for the next.

  These two kinds stand for receivers that do not call back into the controller: all that comes of a
  delivery is the receiver's own next state, its notes, and further receivers to register.  A receiver
  that performed operations of its own during a delivery is not one of them; its operations would be
  further operations of the run, after the drain, since the queue is emptied before the first delivery.
-/
import Iommu.Event

namespace Iommu

/-- A receiver of events.  It does not call back into the controller; at most it registers others. -/
inductive Sink
  /-- Notes every event under its name. -/
  | recorder (name : String)
  /-- Registers a recorder for every event it receives. -/
  | spawner (name : String) (delivered : Nat)
deriving DecidableEq

/-- An event received by a recorder. -/
structure Delivery where
  sink : String
  event : Event
deriving DecidableEq

namespace Sink

/-- What comes of a delivery: the sink after it, the notes taken and the sinks registered. -/
def receive (s : Sink) (e : Event) : Sink × List Delivery × List Sink :=
  match s with
  | recorder name => (s, [⟨name, e⟩], [])
  | spawner name delivered =>
    (spawner name (delivered + 1), [], [recorder (name ++ "." ++ toString (delivered + 1))])

/-- Delivers one event to every sink in order. -/
def receiveAll (sinks : List Sink) (e : Event) : List Sink × List Delivery × List Sink :=
  let outcomes := sinks.map fun s => s.receive e
  (outcomes.map (·.1), outcomes.flatMap (·.2.1), outcomes.flatMap (·.2.2))

/-- Delivers a batch.  The answer is the sinks afterwards, new ones last, and the notes taken. -/
def deliver (sinks : List Sink) (events : List Event) : List Sink × List Delivery :=
  go sinks [] [] events
where
  /-- Goes through the batch with the sinks registered and the notes taken so far. -/
  go (current added : List Sink) (notes : List Delivery) :
      List Event → List Sink × List Delivery
    | [] => (current ++ added, notes)
    | e :: rest =>
      let (current', notes', added') := receiveAll current e
      go current' (added ++ added') (notes ++ notes') rest

end Sink

end Iommu
