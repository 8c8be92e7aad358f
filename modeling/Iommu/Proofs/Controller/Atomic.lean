/-
  What a failed operation leaves behind.

  Nothing, with one exception: a queue that refuses a submission counts the refusal (`refused`).  The
  operations are carried out in place (`perform`), so this is a matter of the order in which each of them
  tests and writes, and `commits_changeStream` is the lemma behind most of them: a stream that refuses a
  change is left as it was, and what would have been done to the cache and to the stalled transactions is
  skipped.

  A new configuration is the one operation that writes before its last test.  It resizes three queues one
  after the other, and each may turn out to hold too much when those before it have been resized.  Then
  those before it are given the sizes of the configuration in force.  That puts them back only because these
  sizes are their capacities and they hold no more (`Queue.Holds.resizeBack`), which is true in every
  reachable state (`Sized`).

  So an operation in place amounts to the step, and a failure has left no trace (`Settled`).
-/
import Iommu.Controller.InPlace
import Iommu.Proofs.Controller.Sized
import Iommu.Proofs.Controller.WellFormed
import Iommu.Proofs.Stream.InPlace

open Iommu.Action

namespace Iommu

/-- A queue that took another size takes its old one back. -/
theorem Queue.Holds.resizeBack {α : Type} {name : QueueName} {q q' : Queue α} {m n : Nat}
    (h : q.Holds n) (hq : q.resizeTo name m = .ok q') : q'.resizeTo name n = .ok q := by
  obtain rfl : ({ q with capacity := m } : Queue α) = q' := by
    by_cases hs : q.size ≤ m
    · simpa [resizeTo, resize?, hs] using hq
    · simp [resizeTo, resize?, hs] at hq
  have hsize : ({ q with capacity := m } : Queue α).size ≤ n := h.size
  rw [resizeTo, resize?, if_pos hsize, ← h.capacity]

namespace Controller

variable {α : Type} {c : Controller}

/-! ## Streams -/

/-- A change of a stream is carried out together with what follows from it, or not at all.  The stream is
    written back under the number under which it was found, which is its own. -/
theorem commits_changeStream (h : c.WellFormed) (id : StreamId) {x : Action Stream α}
    (after : Controller → Controller) (r : Stream → Except Error (Stream × α))
    (hx : ∀ s, x.Commits s (r s)) (hid : ∀ s p, r s = .ok p → p.1.id = s.id) :
    (InPlace.changeStream id x after).Commits c
      ((c.stream id).bind fun s => (r s).map fun p => (after (c.setStream p.1), p.2)) := by
  cases hs : c.stream id with
  | error e =>
    have hwithin : (InPlace.onStream id x).Commits c (.error e) := commits_within_of_error hs
    exact hwithin.followed (g := fun p => (after p.1, p.2)) nofun
  | ok s =>
    have hget : c.streams[id]? = some s := stream_eq_ok_iff.1 hs
    have hback : ({ c with streams := c.streams.insert id s } : Controller) = c :=
      congrArg (fun streams => { c with streams }) (insert_of_getElem? hget)
    have hwithin : (InPlace.onStream id x).Commits c
        ((r s).map fun p => ({ c with streams := c.streams.insert id p.1 }, p.2)) :=
      (hx s).within hs hback
    have hdone := hwithin.followed (f := fun a => modify after >>= fun _ => pure a)
      (g := fun p => (after p.1, p.2)) fun _ _ => rfl
    show Commits _ c ((r s).map fun p => (after (c.setStream p.1), p.2))
    cases hr : r s with
    | error e => rwa [hr] at hdone
    | ok p =>
      rw [hr] at hdone
      have hset : c.setStream p.1 = { c with streams := c.streams.insert id p.1 } := by
        rw [setStream, hid s p hr, h.keyed id s hget]
      show Commits _ c (.ok (after (c.setStream p.1), p.2))
      rw [hset]
      exact hdone

/-- A change of a stream that answers nothing. -/
theorem commits_changeStream_unit (h : c.WellFormed) (id : StreamId) {x : Action Stream Unit}
    (after : Controller → Controller) {r : Stream → Except Error Stream}
    (hx : ∀ s, x.Commits s ((r s).map (·, ()))) (hid : ∀ s s', r s = .ok s' → s'.id = s.id) :
    (InPlace.changeStream id x after).Commits c
      (Except.map (·, ()) <| match c.stream id with
        | .error e => .error e
        | .ok s =>
          match r s with
          | .error e => .error e
          | .ok s' => .ok (after (c.setStream s'))) := by
  have hchange := commits_changeStream h id after _ hx fun s p hp => by
    obtain ⟨s', hs', rfl⟩ := Stream.map_eq_ok_iff.1 hp
    exact hid s s' hs'
  cases hs : c.stream id with
  | error e => rwa [hs] at hchange
  | ok s =>
    rw [hs] at hchange
    change Commits _ c (((r s).map (·, ())).map fun p => (after (c.setStream p.1), p.2)) at hchange
    dsimp only
    cases hr : r s <;> rwa [hr] at hchange

/-- A change of a stream that cannot fail. -/
theorem commits_changeStream_modify (h : c.WellFormed) (id : StreamId) {f : Stream → Stream}
    (after : Controller → Controller) (hid : ∀ s, (f s).id = s.id) :
    (InPlace.changeStream id (modify f) after).Commits c
      (Except.map (·, ()) <| match c.stream id with
        | .error e => .error e
        | .ok s => .ok (after (c.setStream (f s)))) := by
  have hchange := commits_changeStream_unit h id after (r := fun s => .ok (f s))
    (fun _ => commits_of_ok (x := modify f) rfl) fun s _ hs' => by
      obtain rfl := Except.ok.inj hs'
      exact hid s
  cases hs : c.stream id <;> rwa [hs] at hchange

/-- A stream that exists is changed in its place, and a new one is inserted after the table was
    found to have room and its configuration a stage. -/
theorem commits_configure (h : c.WellFormed) (id : StreamId) (config : StreamConfig) :
    (InPlace.configure id config).Commits c ((c.configure id config).map (·, ())) := by
  rw [Commits, InPlace.configure, perform_get_bind, configure, isConfigured,
    Std.ExtTreeMap.contains_eq_isSome_getElem?]
  cases hs : c.streams[id]? with
  | some s =>
    have hchange := commits_changeStream_unit h id (fun c => (c.invalidateStream id).1)
      (r := (·.configure config)) (fun s => s.commits_configure config) fun s s' hs' => by
        obtain ⟨-, rfl⟩ := Stream.configure_eq_ok hs'
        rfl
    rw [stream_eq_ok_iff.2 hs] at hchange
    exact hchange
  | none =>
    dsimp only [Option.isSome_none]
    rw [if_neg Bool.false_ne_true]
    split
    · rfl
    · have hcreate := commits_check_set (s := c) (Stream.create id config (limitsOf c.config))
        c.setStream
      cases hr : Stream.create id config (limitsOf c.config) <;> rwa [hr] at hcreate

/-- A stream that is taken out without having been there leaves the table as it was. -/
theorem commits_removeStream (id : StreamId) :
    (InPlace.removeStream id).Commits c ((c.removeStream id).map (·, ())) := by
  rw [Commits, InPlace.removeStream, perform_get_bind, perform_bind, perform_set, removeStream,
    isConfigured]
  cases hs : c.streams[id]? with
  | some s =>
    have hmem : c.streams.contains id = true := by
      rw [Std.ExtTreeMap.contains_eq_isSome_getElem?, hs]
      rfl
    rw [stream_eq_ok_iff.2 hs, hmem]
    rfl
  | none =>
    have hmem : c.streams.contains id = false := by
      rw [Std.ExtTreeMap.contains_eq_isSome_getElem?, hs]
      rfl
    have hsame : c.streams.erase id = c.streams := erase_of_contains_eq_false hmem
    have hstream : c.stream id = .error (.streamNotConfigured id) := by
      rw [stream, hs]
    rw [hstream, hmem, hsame]
    rfl

/-- Only the stream itself is written. -/
theorem commits_enable (h : c.WellFormed) (id : StreamId) :
    (InPlace.enable id).Commits c ((c.enable id).map (·, ())) :=
  commits_changeStream_modify h id (fun c => c) fun _ => rfl

/-- The cache is left alone when there is no stream to disable. -/
theorem commits_disable (h : c.WellFormed) (id : StreamId) :
    (InPlace.disable id).Commits c ((c.disable id).map (·, ())) :=
  commits_changeStream_modify h id (fun c => (c.invalidateStream id).1) fun _ => rfl

/-- What was cached through the old table goes, and only if there is a stream. -/
theorem commits_attachTable (h : c.WellFormed) (id : StreamId) (table : Option TableId) :
    (InPlace.attachTable id table).Commits c ((c.attachTable id table).map (·, ())) :=
  commits_changeStream_modify h id (fun c => (c.invalidateStream id).1) fun _ => rfl

theorem commits_attachLog (h : c.WellFormed) (id : StreamId) (log : Option LogId) :
    (InPlace.attachLog id log).Commits c ((c.attachLog id log).map (·, ())) :=
  commits_changeStream_modify h id (fun c => c) fun _ => rfl

/-! ## PASIDs and mappings -/

/-- Nothing is terminated when there is no stream. -/
theorem commits_clearPasids (h : c.WellFormed) (id : StreamId) :
    (InPlace.clearPasids id).Commits c ((c.clearPasids id).map (·, ())) :=
  commits_changeStream_modify h id (fun c => (c.invalidateStream id).1.terminateStream id) fun _ => rfl

/-- A PASID that is refused is not inserted. -/
theorem commits_createPasid (h : c.WellFormed) (id : StreamId) (pasid : Pasid) :
    (InPlace.createPasid id pasid).Commits c ((c.createPasid id pasid).map (·, ())) := by
  refine commits_changeStream_unit h id (fun c => c) (·.commits_createPasid pasid) fun s s' hs' => ?_
  obtain ⟨-, rfl | ⟨-, -, rfl⟩⟩ := Stream.createPasid_eq_ok hs'
  · rfl
  · rfl

/-- The stream has written its table of PASIDs when it finds that there was none to remove, but
    what it wrote is what was there; so nothing is dropped and nothing terminated. -/
theorem commits_removePasid (h : c.WellFormed) (id : StreamId) (pasid : Pasid) :
    (InPlace.removePasid id pasid).Commits c ((c.removePasid id pasid).map (·, ())) := by
  refine commits_changeStream_unit h id
    (fun c => (c.invalidatePasid id pasid).1.terminatePasid id pasid)
    (·.commits_removePasid pasid) fun s s' hs' => ?_
  obtain ⟨-, rfl⟩ := Stream.removePasid_eq_ok hs'
  rfl

/-- Width and PASID are tested before the page is written, and the cache is not touched when
    they fail. -/
theorem commits_map (h : c.WellFormed) (id : StreamId) (pasid : Pasid) (m : Mapping) :
    (InPlace.map id pasid m).Commits c ((c.map id pasid m).map (·, ())) := by
  refine commits_changeStream_unit h id (fun c => (c.invalidateRange id pasid (.single m.input)).1)
    (·.commits_map pasid m) fun s s' hs' => ?_
  obtain ⟨-, t, -, rfl⟩ := Stream.map_eq_ok hs'
  rfl

/-- A page that is not mapped is no failure, and is dropped from the cache all the same. -/
theorem commits_unmap (h : c.WellFormed) (id : StreamId) (pasid : Pasid) (a : UInt64) :
    (InPlace.unmap id pasid a).Commits c (c.unmap id pasid a) := by
  have hchange := commits_changeStream h id
    (fun c => (c.invalidateRange id pasid (.single a)).1) _ (·.commits_unmap pasid a)
    fun s p hp => by
      obtain ⟨t, -, hp'⟩ := Stream.unmap_eq_ok hp
      rw [hp']
      rfl
  rw [unmap]
  cases hs : c.stream id with
  | error e => rwa [hs] at hchange
  | ok s =>
    rw [hs] at hchange
    dsimp only [Except.bind] at hchange ⊢
    cases hr : s.unmap pasid a <;> rwa [hr] at hchange

/-- Two layers test every mapping of the list before the first is written. -/
theorem commits_mapPages (h : c.WellFormed) (id : StreamId) (pasid : Pasid) (ms : List Mapping) :
    (InPlace.mapPages id pasid ms).Commits c ((c.mapPages id pasid ms).map (·, ())) := by
  refine commits_changeStream_unit h id (fun c => (c.invalidatePasid id pasid).1)
    (·.commits_mapPages pasid ms) fun s s' hs' => ?_
  obtain ⟨-, t, -, rfl⟩ := Stream.mapPages_eq_ok hs'
  rfl

/-- Every page of the list is found mapped before the first goes. -/
theorem commits_unmapPages (h : c.WellFormed) (id : StreamId) (pasid : Pasid) (as : List UInt64) :
    (InPlace.unmapPages id pasid as).Commits c ((c.unmapPages id pasid as).map (·, ())) := by
  refine commits_changeStream_unit h id (fun c => (c.invalidatePasid id pasid).1)
    (·.commits_unmapPages pasid as) fun s s' hs' => ?_
  obtain ⟨t, -, rfl⟩ := Stream.unmapPages_eq_ok hs'
  rfl

/-- A shared table that is left as it was stays unwritten, and so does its number. -/
theorem commits_editTable (id : TableId) (op : PageTable.Op) :
    (InPlace.editTable id op).Commits c (c.editTable id op) := by
  have hedit := PageTable.commits_edit (c.resources.table id) op
  rw [Commits] at hedit
  rw [Commits, InPlace.editTable, perform_get_bind, hedit, editTable]
  cases (c.resources.table id).step op with
  | error e =>
    have hunchanged : (!(Except.error e : Except Error Bool).isOk &&
        decide (c.resources.table id = c.resources.table id)) = true := by
      rw [decide_eq_true rfl]
      rfl
    dsimp only [Action.settle]
    rw [if_pos hunchanged]
    rfl
  | ok p => rfl

/-! ## A new configuration -/

/-- The event queue is replaced once it is known to fit. -/
theorem commits_resizeEvents (size : Nat) : (InPlace.resizeEvents size).Commits c
    ((c.events.resizeTo .event size).map fun events => ({ c with events }, ())) :=
  commits_check_set ..

/-- The command queue is replaced once it is known to fit. -/
theorem commits_resizeCommands (size : Nat) : (InPlace.resizeCommands size).Commits c
    ((c.commands.resizeTo .command size).map fun commands => ({ c with commands }, ())) :=
  commits_check_set ..

/-- The page request queue is replaced once it is known to fit. -/
theorem commits_resizePageRequests (size : Nat) : (InPlace.resizePageRequests size).Commits c
    ((c.pageRequests.resizeTo .pageRequest size).map fun pageRequests =>
      ({ c with pageRequests }, ())) :=
  commits_check_set ..

/-- The event queue takes back the size of the configuration in force, whatever became of the command
    queue. -/
theorem perform_restoreEvents (h : c.Sized) {size : Nat} {events : Queue Event}
    (he : c.events.resizeTo .event size = .ok events) (commands : Queue Command) :
    (InPlace.resizeEvents c.config.queues.events.toNat).attempt.perform { c with events, commands } =
      ({ c with commands }, .ok ()) := by
  have hresized := commits_resizeEvents (c := { c with events, commands })
    c.config.queues.events.toNat
  rw [h.queued.events.resizeBack he, Commits] at hresized
  rw [perform_attempt, hresized]
  rfl

/-- The command queue takes back the size of the configuration in force. -/
theorem perform_restoreCommands (h : c.Sized) {size : Nat} {commands : Queue Command}
    (hc : c.commands.resizeTo .command size = .ok commands) :
    (InPlace.resizeCommands c.config.queues.commands.toNat).attempt.perform { c with commands } =
      (c, .ok ()) := by
  have hresized := commits_resizeCommands (c := { c with commands }) c.config.queues.commands.toNat
  rw [h.queued.commands.resizeBack hc, Commits] at hresized
  rw [perform_attempt, hresized]
  rfl

/-- Three queues are resized as a whole or not at all: each test that fails finds the queues before it with
    a new size, and gives them back the size they had. -/
theorem commits_resizeQueues (h : c.Sized) (new : Configuration.Queues) :
    (InPlace.resizeQueues c.config.queues new).Commits c
      ((c.events.resizeTo .event new.events.toNat).bind fun events =>
        (c.commands.resizeTo .command new.commands.toNat).bind fun commands =>
          (c.pageRequests.resizeTo .pageRequest new.pageRequests.toNat).map fun pageRequests =>
            ({ c with events, commands, pageRequests }, ())) := by
  have hevents := commits_resizeEvents (c := c) new.events.toNat
  rw [Commits] at hevents
  rw [Commits, InPlace.resizeQueues, perform_bind, hevents]
  cases he : c.events.resizeTo .event new.events.toNat with
  | error e => rfl
  | ok events =>
    have hcommands := perform_orUndo_settle
      (commits_resizeCommands (c := { c with events }) new.commands.toNat)
      (perform_restoreEvents h he c.commands)
    dsimp only [Except.map, Action.settle]
    rw [perform_bind, hcommands]
    cases hc : c.commands.resizeTo .command new.commands.toNat with
    | error e => rfl
    | ok commands =>
      -- both queues are given back their sizes, the event queue first
      have hundo : (do
          (InPlace.resizeEvents c.config.queues.events.toNat).attempt
          (InPlace.resizeCommands c.config.queues.commands.toNat).attempt :
            Action Controller Unit).perform { c with events, commands } = (c, .ok ()) := by
        rw [perform_bind, perform_restoreEvents h he commands]
        exact perform_restoreCommands h hc
      have hpageRequests := perform_orUndo_settle
        (commits_resizePageRequests (c := { c with events, commands }) new.pageRequests.toNat) hundo
      dsimp only [Except.map, Action.settle]
      rw [hpageRequests]
      cases c.pageRequests.resizeTo .pageRequest new.pageRequests.toNat <;> rfl

/-- The checks come first, and after the last queue nothing can fail. -/
theorem commits_updateConfiguration (h : c.Sized) (new : Configuration) (found : StreamId) :
    (InPlace.updateConfiguration new found).Commits c
      ((c.updateConfiguration new found).map (·, ())) := by
  rw [Commits, InPlace.updateConfiguration, perform_get_bind, updateConfiguration]
  cases new.problem? with
  | some p => rfl
  | none =>
    dsimp only
    split
    · rfl
    cases c.overfullStream? new.widths.pasids.toNat found with
    | some s => rfl
    | none =>
      dsimp only
      have hqueues := (commits_resizeQueues h new.queues).followed
        (f := fun _ => (modify fun c => c.adopt new c.events c.commands c.pageRequests :
          Action Controller PUnit))
        (g := fun p => (p.1.adopt new p.1.events p.1.commands p.1.pageRequests, ())) fun _ _ => rfl
      rw [Commits] at hqueues
      rw [hqueues]
      cases c.events.resizeTo .event new.queues.events.toNat with
      | error e => rfl
      | ok events =>
        cases c.commands.resizeTo .command new.queues.commands.toNat with
        | error e => rfl
        | ok commands =>
          cases c.pageRequests.resizeTo .pageRequest new.queues.pageRequests.toNat <;> rfl

/-! ## Failures -/

/-- What a failed operation leaves: a queue that refuses a submission counts it. -/
def refused (c : Controller) : Op → Controller
  | .submitCommand _ =>
    { c with commands := { c.commands with rejected := c.commands.rejected + 1 } }
  | .submitPageRequest _ =>
    { c with pageRequests := { c.pageRequests with rejected := c.pageRequests.rejected + 1 } }
  | _ => c

/-- A command is refused by a full queue only, which counts it. -/
theorem submitCommand_of_error {cmd : Command} {e : Error}
    (h : (c.step (.submitCommand cmd)).2 = .error e) :
    (c.step (.submitCommand cmd)).1 = c.refused (.submitCommand cmd) := by
  cases hfull : c.commands.isFull with
  | true =>
    show ({ c with commands := c.commands.push _ } : Controller) = _
    rw [Queue.push_of_isFull hfull]
    rfl
  | false => simp [step, submitCommand, Queue.submit, hfull, Except.map] at h

/-- A page request is refused by a full queue only, which counts it; what is counted as
    submitted and the event stay out. -/
theorem submitPageRequest_of_error {r : PageRequest} {e : Error}
    (h : (c.step (.submitPageRequest r)).2 = .error e) :
    (c.step (.submitPageRequest r)).1 = c.refused (.submitPageRequest r) := by
  cases hfull : c.pageRequests.isFull with
  | true =>
    show (c.submitPageRequest r).1 = _
    rw [submitPageRequest, Queue.submit, hfull, Queue.push_of_isFull hfull]
    rfl
  | false => simp [step, submitPageRequest, Queue.submit, hfull, Except.map] at h

/-- An operation carried out in place is what it is as a step, and leaves no trace when it fails.  A call to
    translate that fails is an event in itself. -/
structure Settled (c : Controller) (op : Op) : Prop where
  same : c.perform op = c.step op
  kept : ∀ e, (∀ t, op ≠ .translate t) → (c.perform op).2 = .error e →
    (c.perform op).1 = c.refused op

/-- What is carried out as a whole or not at all is settled. -/
theorem Settled.of_commits {op : Op} {r : Except Error (Controller × Answer)}
    (hx : op.inPlace.Commits c r) (hstep : c.step op = Action.settle c r)
    (hkept : c.refused op = c) : c.Settled op := by
  refine ⟨?_, fun e _ he => ?_⟩
  · rw [hstep]
    exact hx
  · rw [hkept]
    exact hx.of_error he

/-- Likewise for an operation that answers nothing. -/
theorem Settled.of_commits_done {op : Op} {x : Action Controller Unit} {r : Except Error Controller}
    (hx : x.Commits c (r.map (·, ()))) (hop : op.inPlace = x *> pure .done)
    (hstep : c.step op = c.settle r) (hkept : c.refused op = c) : c.Settled op := by
  have hdone := hx.followed (f := fun _ => (pure .done : Action Controller Answer))
    (g := fun p => (p.1, .done)) fun _ _ => rfl
  refine .of_commits (r := (r.map (·, ())).map fun p => (p.1, .done)) ?_ ?_ hkept
  · rw [hop]
    exact hdone
  · rw [hstep]
    cases r <;> rfl

/-- Likewise for an operation that answers a flag. -/
theorem Settled.of_commits_flag {op : Op} {x : Action Controller Bool}
    {r : Except Error (Controller × Bool)} (hx : x.Commits c r) (hop : op.inPlace = .flag <$> x)
    (hstep : c.step op = c.settleFlag r) (hkept : c.refused op = c) : c.Settled op := by
  have hflag := hx.followed (f := fun b => (pure (.flag b) : Action Controller Answer))
    (g := fun p => (p.1, .flag p.2)) fun _ _ => rfl
  refine .of_commits (r := r.map fun p => (p.1, .flag p.2)) ?_ ?_ hkept
  · rw [hop]
    exact hflag
  · rw [hstep]
    cases r <;> rfl

/-- Every operation is settled where streams are kept under their own numbers and queues have the sizes of
    the configuration. -/
theorem settled (h : c.WellFormed) (hs : c.Sized) (op : Op) : c.Settled op := by
  cases op with
  | configure id config => exact .of_commits_done (commits_configure h id config) rfl rfl rfl
  | removeStream id => exact .of_commits_done (commits_removeStream id) rfl rfl rfl
  | enable id => exact .of_commits_done (commits_enable h id) rfl rfl rfl
  | disable id => exact .of_commits_done (commits_disable h id) rfl rfl rfl
  | attachTable id table => exact .of_commits_done (commits_attachTable h id table) rfl rfl rfl
  | attachLog id log => exact .of_commits_done (commits_attachLog h id log) rfl rfl rfl
  | createPasid id pasid => exact .of_commits_done (commits_createPasid h id pasid) rfl rfl rfl
  | removePasid id pasid => exact .of_commits_done (commits_removePasid h id pasid) rfl rfl rfl
  | clearPasids id => exact .of_commits_done (commits_clearPasids h id) rfl rfl rfl
  | map id pasid m => exact .of_commits_done (commits_map h id pasid m) rfl rfl rfl
  | unmap id pasid a => exact .of_commits_flag (commits_unmap h id pasid a) rfl rfl rfl
  | mapPages id pasid ms => exact .of_commits_done (commits_mapPages h id pasid ms) rfl rfl rfl
  | unmapPages id pasid as => exact .of_commits_done (commits_unmapPages h id pasid as) rfl rfl rfl
  | editTable id change => exact .of_commits_flag (commits_editTable id change) rfl rfl rfl
  | updateConfiguration new found =>
    exact .of_commits_done (commits_updateConfiguration hs new found) rfl rfl rfl
  | translate t => exact ⟨rfl, fun _ ht => absurd rfl (ht t)⟩
  | submitCommand cmd => exact ⟨rfl, fun _ _ he => submitCommand_of_error he⟩
  | submitPageRequest r => exact ⟨rfl, fun _ _ he => submitPageRequest_of_error he⟩
  | _ => exact ⟨rfl, nofun⟩

/-- A run in place is a run. -/
theorem performAll_eq_run (h : c.WellFormed) (hs : c.Sized) (ops : List Op) :
    c.performAll ops = c.run ops := by
  induction ops generalizing c with
  | nil => rfl
  | cons op ops ih =>
    rw [performAll, run, (settled h hs op).same]
    dsimp only
    rw [ih (h.step op) (hs.step op)]

/-- Carried out in place, with the tests and writes in the order in which they are made, every operation
    that fails leaves a reachable state as it found it, but for the count of a refusal.  In place, single
    operations and runs are the steps and the runs that everything else is said of. -/
theorem failure_leaves_no_trace {config : Configuration} {c : Controller}
    (h : create config = .ok c) (ops : List Op) :
    (∀ op e, (∀ t, op ≠ .translate t) → ((c.performAll ops).1.perform op).2 = .error e →
      ((c.performAll ops).1.perform op).1 = (c.performAll ops).1.refused op) ∧
    (∀ op, (c.performAll ops).1.perform op = (c.performAll ops).1.step op) ∧
    c.performAll ops = c.run ops := by
  have hrun : c.performAll ops = c.run ops := by
    obtain ⟨hv, rfl⟩ := create_eq_ok h
    exact performAll_eq_run (wellFormed_start hv ..) (sized_start hv ..) ops
  have hsettled : ∀ op, (c.performAll ops).1.Settled op := by
    rw [hrun]
    exact settled ((wellFormed_of_create h).run ops) (sized_run h ops)
  exact ⟨fun op => (hsettled op).kept, fun op => (hsettled op).same, hrun⟩

/-- With two commands waiting in a full queue: a configuration that has room for one of them shrinks the
    event queue first and has to undo it, a third command is refused, a list that maps a page twice is
    refused in the table itself, and a PASID that is not there is taken out in vain. -/
theorem failure_leaves_no_trace_full_queue :
    let config : Configuration := { queues := { commands := 2 } }
    let c := start config [] [] .empty 0
    let ops : List Op := [.configure 1 {}, .createPasid 1 0, .submitCommand .sync,
      .submitCommand .sync]
    let narrow : Configuration := { queues := { events := 1, commands := 1 } }
    let page : Mapping := ⟨0x1000, 0x8000, .full, .nonSecure⟩
    create config = .ok c ∧
      (∀ op ∈ ([.updateConfiguration narrow 0, .submitCommand .sync, .mapPages 1 0 [page, page],
        .removePasid 1 7] : List Op),
          ((c.performAll ops).1.perform op).2.isOk = false ∧
          ((c.performAll ops).1.perform op).1 = (c.performAll ops).1.refused op) ∧
      ((InPlace.resizeEvents 1).perform (c.performAll ops).1).2 = .ok () ∧
      ((InPlace.resizeEvents 1).perform (c.performAll ops).1).1 ≠ (c.performAll ops).1 := by
  intro config c ops narrow page
  have hc : create config = .ok c := rfl
  obtain ⟨hfail, -, -⟩ := failure_leaves_no_trace hc ops
  refine ⟨hc, ?_, by decide +kernel, by decide +kernel⟩
  intro op hop
  simp only [List.mem_cons, List.not_mem_nil, or_false] at hop
  obtain rfl | rfl | rfl | rfl := hop
  · exact ⟨by decide +kernel, hfail _ (.misconfigured (.queueOverfull .command 2 1)) nofun
      (by decide +kernel)⟩
  · exact ⟨by decide +kernel, hfail _ (.queueFull .command 2) nofun (by decide +kernel)⟩
  · exact ⟨by decide +kernel, hfail _ (.pageAlreadyMapped 0x1000) nofun (by decide +kernel)⟩
  · exact ⟨by decide +kernel, hfail _ (.pasidNotFound 1 7) nofun (by decide +kernel)⟩

end Controller

end Iommu
