/-
  What commands leave, apart from the time at which they run.

  The time of a command shows in stamps only: those of the events that it queues and of the translations
  that it has cached.  `effect` is the state without these, without the clock, without the count of
  events refused, and without the command queue itself.  A command makes the same of two states that
  have the same `effect`, and so does the loop over a list of commands (`effect_runCommands`).

  Most of what a command does commutes with taking the stamps off, so it may be done before or after
  (`effect_congr`).  Events are the exception: one that is refused is forgotten, but whether it is
  refused depends on the queue, so queues are compared by what they hold (`Queue.unrefused_push`).
-/
import Iommu.Proofs.Controller.Delayed

namespace Iommu

/-! ## The cache without stamps -/

/-- The cache without the time stamps of its entries. -/
def Tlb.unstamped (t : Tlb) : Tlb := { t with entries := t.entries.map TlbEntry.untimed }

namespace Tlb

/-- Stamps are no part of a key. -/
theorem contains_unstamped (t : Tlb) (k : TlbKey) : t.unstamped.contains k = t.contains k := by
  rw [contains, find?, unstamped, List.find?_map, Option.isSome_map, contains, find?]
  rfl

theorem size_unstamped (t : Tlb) : t.unstamped.size = t.size := List.length_map ..

/-- Entries are chosen by their keys, which stay. -/
theorem filter_unstamped (p : TlbKey → Bool) (es : List TlbEntry) :
    (es.map TlbEntry.untimed).filter (fun e => p e.key) =
      (es.filter fun e => p e.key).map TlbEntry.untimed := List.filter_map ..

/-- An insertion at any time is one at the start of time, but for the stamp. -/
theorem unstamped_insert (t : Tlb) (now : Nat) (e : TlbEntry) :
    (t.insert now e).1.unstamped = (t.unstamped.insert 0 e).1 := by
  have hkey : ∀ stamp, ({ e with timestamp := stamp } : TlbEntry).key = e.key := fun _ => rfl
  have hlast : t.unstamped.entries.getLast? = t.entries.getLast?.map TlbEntry.untimed :=
    List.getLast?_map ..
  have hwithout : without e.key (t.entries.map TlbEntry.untimed) =
      (without e.key t.entries).map TlbEntry.untimed := filter_unstamped (fun k => k ≠ e.key) _
  have hcapacity : t.unstamped.capacity = t.capacity := rfl
  simp only [insert, hkey, contains_unstamped, size_unstamped, hlast, hcapacity]
  split
  · simp only [unstamped, hwithout]
    rfl
  · split
    · rfl
    · cases t.entries.getLast? with
      | none => rfl
      | some old =>
        simp only [unstamped, Option.map_some, List.map_dropLast, List.map_cons]
        rfl

/-- Whether an entry is stored depends on the epoch, and where it is stored on its key. -/
theorem unstamped_insertIfCurrent (t : Tlb) (now : Nat) (e : TlbEntry) (epoch : Nat) :
    (t.insertIfCurrent now e epoch).1.unstamped = (t.unstamped.insertIfCurrent 0 e epoch).1 := by
  have hepoch : t.unstamped.epoch = t.epoch := rfl
  rw [insertIfCurrent, insertIfCurrent, hepoch]
  split
  · exact unstamped_insert t now e
  · rfl

/-- Entries are dropped by their keys. -/
theorem unstamped_invalidateStream (t : Tlb) (id : StreamId) :
    (t.invalidateStream id).1.unstamped = (t.unstamped.invalidateStream id).1 := by
  simp only [invalidateStream, bump, unstamped,
    filter_unstamped fun k => !(t.index.streamKeys id).contains k]

/-- So they are when the keys are given. -/
theorem unstamped_removeKeys (t : Tlb) (gone : List TlbKey) :
    (t.removeKeys gone).bump.unstamped = (t.unstamped.removeKeys gone).bump := by
  simp only [removeKeys, bump, unstamped, filter_unstamped fun k => !gone.contains k]

end Tlb

/-! ## Queues without refusals -/

namespace Queue

variable {α β : Type}

/-- A queue with its entries changed and no refusal counted. -/
def unrefused (f : α → β) (q : Queue α) : Queue β := { q.map f with rejected := 0 }

/-- What was refused takes no room. -/
theorem isFull_unrefused (f : α → β) (q : Queue α) : (q.unrefused f).isFull = q.isFull :=
  isFull_map f q

/-- Queues that look alike, but for refusals, look alike after entries that do. -/
theorem unrefused_push {f : α → β} {q q' : Queue α} (h : q.unrefused f = q'.unrefused f) {a a' : α}
    (ha : f a = f a') : (q.push a).unrefused f = (q'.push a').unrefused f := by
  have hfull : q.isFull = q'.isFull := by rw [← isFull_unrefused f q, h, isFull_unrefused]
  have hpush : ∀ (x : Queue α) (b : α), (x.push b).unrefused f =
      if x.isFull then x.unrefused f
      else { x.unrefused f with
        entries := (x.unrefused f).entries ++ [f b]
        accepted := (x.unrefused f).accepted + 1 } := by
    intro x b
    unfold push
    split
    · rfl
    · simp only [unrefused, map, List.map_append, List.map_cons, List.map_nil]
  rw [hpush, hpush, h, ha, hfull]

end Queue

namespace Controller

/-! ## What commands leave -/

/-- The state without the command queue, the clock, the stamps of events and cached translations, and the
    count of events refused. -/
def effect (c : Controller) : Controller :=
  { c with
    tlb := c.tlb.unstamped
    events := c.events.unrefused Event.untimed
    commands := .ofCapacity 0
    clock := 0 }

section Effect

variable {c d : Controller}

theorem streams_eq_of_effect (h : c.effect = d.effect) : c.streams = d.streams := by
  have hstreams : c.effect.streams = d.effect.streams := congrArg Controller.streams h
  exact hstreams

theorem counters_eq_of_effect (h : c.effect = d.effect) : c.counters = d.counters := by
  have hcounters : c.effect.counters = d.effect.counters := congrArg Controller.counters h
  exact hcounters

theorem events_eq_of_effect (h : c.effect = d.effect) :
    c.events.unrefused Event.untimed = d.events.unrefused Event.untimed := by
  have hevents : c.effect.events = d.effect.events := congrArg Controller.events h
  exact hevents

/-- Both event queues are full or neither is, so both let a barrier pass or neither does. -/
theorem isFull_events_eq_of_effect (h : c.effect = d.effect) : c.events.isFull = d.events.isFull := by
  rw [← Queue.isFull_unrefused Event.untimed c.events, events_eq_of_effect h,
    Queue.isFull_unrefused]

/-- What is done before the stamps are taken off or after it. -/
theorem effect_congr {f : Controller → Controller} (hf : ∀ c, (f c).effect = f c.effect)
    (h : c.effect = d.effect) : (f c).effect = (f d).effect := by
  rw [hf, h, hf]

/-- An event is offered to both. -/
theorem effect_push (h : c.effect = d.effect) {e e' : Event} (he : e.untimed = e'.untimed)
    (f : Bool → Counters → Counters) :
    effect { c with events := c.events.push e, counters := f c.events.isFull c.counters } =
      effect { d with events := d.events.push e', counters := f d.events.isFull d.counters } := by
  have hevents := Queue.unrefused_push (events_eq_of_effect h) he
  have hcounters : f c.events.isFull c.counters = f d.events.isFull d.counters := by
    rw [isFull_events_eq_of_effect h, counters_eq_of_effect h]
  show ({ c.effect with
      events := (c.events.push e).unrefused Event.untimed
      counters := f c.events.isFull c.counters } : Controller) =
    { d.effect with
      events := (d.events.push e').unrefused Event.untimed
      counters := f d.events.isFull d.counters }
  rw [h, hevents, hcounters]

/-- An event is taken by both queues or refused by both, and a refusal is no part of the effect. -/
theorem effect_emit (h : c.effect = d.effect) (e : Event) : (c.emit e).effect = (d.emit e).effect := by
  have hstamp : ({ e with timestamp := c.stamp } : Event).untimed =
      ({ e with timestamp := d.stamp } : Event).untimed := rfl
  rw [emit_eq, emit_eq]
  exact effect_push h hstamp fun full x => { x with eventsDropped := x.eventsDropped + full.toNat }

/-- So it is with the event of a barrier. -/
theorem effect_offerCompletion (h : c.effect = d.effect) :
    c.offerCompletion.effect = d.offerCompletion.effect := by
  have hstamp : c.completion.untimed = d.completion.untimed := rfl
  exact effect_push h hstamp fun _ x => x

/-! ### One command -/

theorem effect_invalidateStream (c : Controller) (id : StreamId) :
    (c.invalidateStream id).1.effect = (c.effect.invalidateStream id).1 :=
  congrArg (fun tlb => { c.effect with tlb }) (c.tlb.unstamped_invalidateStream id)

theorem effect_invalidatePasid (c : Controller) (id : StreamId) (pasid : Pasid) :
    (c.invalidatePasid id pasid).1.effect = (c.effect.invalidatePasid id pasid).1 :=
  congrArg (fun tlb => { c.effect with tlb }) (c.tlb.unstamped_removeKeys _)

theorem effect_invalidateRange (c : Controller) (id : StreamId) (pasid : Pasid)
    (range : PageRange) :
    (c.invalidateRange id pasid range).1.effect = (c.effect.invalidateRange id pasid range).1 :=
  congrArg (fun tlb => { c.effect with tlb }) (c.tlb.unstamped_removeKeys _)

theorem effect_invalidateAll (c : Controller) :
    c.invalidateAll.1.effect = c.effect.invalidateAll.1 := rfl

/-- A translation is stored in both caches or in none. -/
theorem effect_remember (c : Controller) (t : Transaction) (r : Translation) (epoch : Nat) :
    (c.remember t r epoch).effect = c.effect.remember t r epoch := by
  have hon : c.effect.config = c.config := rfl
  rw [remember, remember, hon]
  split
  · exact congrArg (fun tlb => { c.effect with tlb }) (c.tlb.unstamped_insertIfCurrent ..)
  · rfl

/-- A prefetch reads what is part of the effect. -/
theorem effect_prefetch (c : Controller) (s : Stream) (cmd : Command) :
    (c.prefetch s cmd).effect = c.effect.prefetch s cmd := by
  have hon : c.effect.config = c.config := rfl
  have hresources : c.effect.resources = c.resources := rfl
  unfold prefetch
  rw [hon, hresources]
  split
  · dsimp only
    split
    · exact effect_remember ..
    · rfl
  · rfl

/-- A command has the same effect on the same stream. -/
theorem effect_executeOn (h : c.effect = d.effect) (s : Stream) (cmd : Command) :
    (c.executeOn s cmd).effect = (d.executeOn s cmd).effect := by
  unfold executeOn
  split
  · exact effect_congr (effect_invalidateStream · cmd.stream) h
  · exact effect_congr (effect_invalidateStream · cmd.stream) h
  · exact effect_congr (effect_invalidatePasid · cmd.stream cmd.pasid) h
  · exact effect_congr (effect_invalidateRange · cmd.stream cmd.pasid cmd.range) h
  · exact effect_emit (effect_congr (effect_invalidateRange · cmd.stream cmd.pasid cmd.range) h) _
  · exact effect_congr (effect_prefetch · s cmd) h
  · exact effect_congr (f := fun c =>
      { c.resume cmd.stream cmd.pasid (.ofPage cmd.start) with
        counters := { (c.resume cmd.stream cmd.pasid (.ofPage cmd.start)).counters with
          pageResponses := c.counters.pageResponses + 1 } }) (fun _ => rfl) h
  · exact effect_congr (f := fun c => c.resume cmd.stream cmd.pasid cmd.range) (fun _ => rfl) h
  · exact h

/-- A command fails on both, or is carried out on both to the same effect. -/
theorem effect_execute (h : c.effect = d.effect) (cmd : Command) :
    Corresponds (fun c' d' => c'.effect = d'.effect) (c.execute cmd) (d.execute cmd) := by
  unfold execute stream
  rw [streams_eq_of_effect h]
  split
  · cases d.streams[cmd.stream]? with
    | none => exact .error _
    | some s => exact .ok (effect_executeOn h s cmd)
  · split
    · exact .ok h
    · exact .ok (effect_congr effect_invalidateAll h)

/-- So has its failure. -/
theorem effect_failCommand (h : c.effect = d.effect) (cmd : Command) :
    (c.failCommand cmd).effect = (d.failCommand cmd).effect := by
  have hcounted := effect_congr (f := fun c => { c with counters :=
    { c.counters with commandsFailed := c.counters.commandsFailed + 1 } }) (fun _ => rfl) h
  exact effect_emit hcounted _

/-- The command in front leaves both queues. -/
theorem effect_consume (h : c.effect = d.effect) : c.consume.effect = d.consume.effect :=
  effect_congr (f := consume) (fun _ => rfl) h

theorem effect_countSync (h : c.effect = d.effect) : c.countSync.effect = d.countSync.effect :=
  effect_congr (f := countSync) (fun _ => rfl) h

/-- The command in front has to wait in both states, or leaves the same effect and the same report. -/
theorem effect_runFront (h : c.effect = d.effect) (cmd : Command) (report : CommandReport) :
    (c.runFront cmd report).map (fun x => (x.1.effect, x.2)) =
      (d.runFront cmd report).map fun x => (x.1.effect, x.2) := by
  unfold runFront
  rw [isFull_events_eq_of_effect h]
  split
  · split
    · rfl
    · simp only [Option.map_some, effect_consume (effect_countSync (effect_offerCompletion h))]
  · have hexecuted := effect_execute h cmd
    generalize c.execute cmd = r, d.execute cmd = r' at hexecuted
    cases hexecuted with
    | ok hdone => simp only [Option.map_some, effect_consume hdone]
    | error e => simp only [Option.map_some, effect_consume (effect_failCommand h cmd)]

/-! ### The loop -/

/-- Commands make the same of two states that have the same effect, and are reported alike. -/
theorem effect_runCommands (h : c.effect = d.effect) (report : CommandReport)
    (cmds : List Command) :
    (c.runCommands report cmds).1.effect = (d.runCommands report cmds).1.effect ∧
      (c.runCommands report cmds).2 = (d.runCommands report cmds).2 := by
  induction cmds generalizing c d report with
  | nil => exact ⟨h, rfl⟩
  | cons cmd rest ih =>
    have hfront := effect_runFront h cmd report
    rw [runCommands, runCommands]
    cases hc : c.runFront cmd report with
    | none =>
      rw [hc, Option.map_none, eq_comm, Option.map_eq_none_iff] at hfront
      rw [hfront]
      exact ⟨effect_offerCompletion h, rfl⟩
    | some x =>
      rw [hc, Option.map_some, eq_comm, Option.map_eq_some_iff] at hfront
      obtain ⟨y, hd, hxy⟩ := hfront
      obtain ⟨heffect, hreport⟩ := Prod.mk.inj hxy
      rw [hd]
      dsimp only
      rw [hreport]
      exact ih heffect.symm x.2

end Effect

end Controller

end Iommu
