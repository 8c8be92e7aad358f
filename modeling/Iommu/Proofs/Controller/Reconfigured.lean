/-
  When a new configuration is accepted, and what it does then.

  The operation asks for one thing after the other and stops at the first that fails.  `Accommodates` is
  all of it at once: the configuration is valid, and the streams, the PASIDs of each stream and the
  entries that wait in each queue are no more than it allows.  `Adopted` is the effect, part by part.
  The fault log loses its oldest records and the cache its least recently used entries, as many as no
  longer fit; the entries of the cache stay only where caching stays on and they would have been
  admitted under the new rules; and nothing else is changed.
-/
import Iommu.Proofs.Controller.Populated
import Iommu.Proofs.Controller.Sized

namespace Iommu

/-- A queue takes any size that holds what is in it. -/
theorem Queue.resizeTo_of_le {α : Type} {name : QueueName} {q : Queue α} {n : Nat} (h : q.size ≤ n) :
    q.resizeTo name n = .ok { q with capacity := n } := by
  rw [resizeTo, resize?, if_pos h]

/-- A shrunk log keeps its newest records. -/
theorem FaultLog.setCapacity_eq (l : FaultLog) {n : Nat} (h : 0 < n) :
    l.setCapacity n = (⟨l.records.drop (l.size - n), n⟩, l.size - n) := by
  have hmax : max 1 n = n := Nat.max_eq_right h
  simp only [setCapacity, trim, excess, FaultLog.size, hmax]

namespace Controller

variable {c : Controller} {new : Configuration}

/-- The configuration is valid and the present state fits into it. -/
structure Accommodates (c : Controller) (new : Configuration) : Prop where
  valid : new.Valid
  streams : c.streamCount ≤ new.widths.streams.toNat
  pasids : ∀ (id : StreamId) (s : Stream), c.streams[id]? = some s →
    s.pasidCount ≤ new.widths.pasids.toNat
  events : c.events.size ≤ new.queues.events.toNat
  commands : c.commands.size ≤ new.queues.commands.toNat
  pageRequests : c.pageRequests.size ≤ new.queues.pageRequests.toNat

/-- What a new configuration makes of the state. -/
structure Adopted (c : Controller) (new : Configuration) (c' : Controller) : Prop where
  config : c'.config = new
  /-- Every stream is as it was, with the new limits. -/
  streams : ∀ id : StreamId, c'.streams[id]? = c.streams[id]?.map fun s => s.setLimits (limitsOf new)
  events : c'.events = { c.events with capacity := new.queues.events.toNat }
  commands : c'.commands = { c.commands with capacity := new.queues.commands.toNat }
  pageRequests : c'.pageRequests = { c.pageRequests with capacity := new.queues.pageRequests.toNat }
  /-- The newest records of the fault log stay, as many as fit, -/
  newest : c'.faultLog.records <:+ c.faultLog.records
  records : c'.faultLog.size = min c.faultLog.size new.queues.faultLog.toNat
  logCapacity : c'.faultLog.capacity = new.queues.faultLog.toNat
  /-- and the others are counted. -/
  discarded : c'.counters.faultsDiscarded =
    c.counters.faultsDiscarded + (c.faultLog.size - new.queues.faultLog.toNat)
  tlbCapacity : c'.tlb.capacity = new.cache.size.toNat
  tlbMaxAge : c'.tlb.maxAge = min (new.cache.maxAgeMs.toNat * 1000000) (UInt64.size - 1)
  /-- The cache is emptied without caching and under other rules. -/
  emptied : new.cache.enabled = false ∨ c.config.widths ≠ new.widths ∨
    c.config.allowPasidZero ≠ new.allowPasidZero → c'.tlb.entries = []
  /-- Otherwise the most recently used entries stay, as many as fit. -/
  recent : new.cache.enabled = true → c.config.widths = new.widths →
    c.config.allowPasidZero = new.allowPasidZero →
      c'.tlb.entries <+: c.tlb.entries ∧ c'.tlb.size = min c.tlb.size new.cache.size.toNat
  /-- Nothing else is touched. -/
  rest : c' = { c with
    config := c'.config
    streams := c'.streams
    tlb := c'.tlb
    events := c'.events
    commands := c'.commands
    pageRequests := c'.pageRequests
    faultLog := c'.faultLog
    counters := { c.counters with faultsDiscarded := c'.counters.faultsDiscarded } }

/-! ## Acceptance -/

/-- A configuration that the state fits into is put in force, and the queues take their new sizes. -/
theorem Accommodates.updateConfiguration_eq (h : c.Accommodates new) (found : StreamId) :
    c.updateConfiguration new found =
    .ok (c.adopt new { c.events with capacity := new.queues.events.toNat }
      { c.commands with capacity := new.queues.commands.toNat }
      { c.pageRequests with capacity := new.queues.pageRequests.toNat }) := by
  rw [updateConfiguration, Configuration.problem?_eq_none.2 h.valid]
  dsimp only
  rw [if_neg (Nat.not_lt.2 h.streams), overfullStream?_eq_none.2 h.pasids]
  dsimp only
  rw [Queue.resizeTo_of_le h.events, Queue.resizeTo_of_le h.commands,
    Queue.resizeTo_of_le h.pageRequests]
  rfl

/-- No other configuration is. -/
theorem accommodates_of_eq_ok {c' : Controller} {found : StreamId}
    (h : c.updateConfiguration new found = .ok c') : c.Accommodates new := by
  obtain ⟨hstreams, hpasids⟩ := updateConfiguration_fits h
  obtain ⟨hvalid, events, commands, pageRequests, he, hc, hp, -⟩ := updateConfiguration_eq_ok h
  exact ⟨hvalid, hstreams, hpasids, (Queue.resizeTo_eq_ok he).1, (Queue.resizeTo_eq_ok hc).1,
    (Queue.resizeTo_eq_ok hp).1⟩

/-! ## Effect -/

/-- The cache under a new configuration: what fits stays, unless the rules forbid it. -/
theorem entries_reshapeTlb (t : Tlb) (old : Configuration) (hsize : 0 < new.cache.size.toNat) :
    (reshapeTlb t old new).entries =
      if !new.cache.enabled || rulesChanged old new then []
      else t.entries.take new.cache.size.toNat := by
  have hmax : max 1 new.cache.size.toNat = new.cache.size.toNat := Nat.max_eq_right hsize
  unfold reshapeTlb
  dsimp only
  split
  · rfl
  · show t.entries.take (max 1 new.cache.size.toNat) = _
    rw [hmax]

/-- The cache gets the size of the new configuration, -/
theorem capacity_reshapeTlb (t : Tlb) (old : Configuration) (hsize : 0 < new.cache.size.toNat) :
    (reshapeTlb t old new).capacity = new.cache.size.toNat := by
  have hmax : max 1 new.cache.size.toNat = new.cache.size.toNat := Nat.max_eq_right hsize
  unfold reshapeTlb
  dsimp only
  split <;> exact hmax

/-- and its age limit, in nanoseconds and no more than the greatest stamp. -/
theorem maxAge_reshapeTlb (t : Tlb) (old new : Configuration) :
    (reshapeTlb t old new).maxAge = min (new.cache.maxAgeMs.toNat * 1000000) (UInt64.size - 1) := by
  unfold reshapeTlb
  dsimp only
  split <;> rfl

/-- What is put in force has every part of the effect. -/
theorem Accommodates.adopted (h : c.Accommodates new) : c.Adopted new
    (c.adopt new { c.events with capacity := new.queues.events.toNat }
      { c.commands with capacity := new.queues.commands.toNat }
      { c.pageRequests with capacity := new.queues.pageRequests.toNat }) := by
  have hlog := c.faultLog.setCapacity_eq h.valid.faultLog.1
  have hentries := entries_reshapeTlb c.tlb c.config h.valid.cacheSize.1
  rw [adopt, hlog]
  dsimp only
  refine
    { config := rfl
      streams := fun id => getElem?_mapStreams ..
      events := rfl
      commands := rfl
      pageRequests := rfl
      newest := List.drop_suffix ..
      records := ?_
      logCapacity := rfl
      discarded := rfl
      tlbCapacity := capacity_reshapeTlb _ _ h.valid.cacheSize.1
      tlbMaxAge := maxAge_reshapeTlb ..
      emptied := fun hgone => ?_
      recent := fun hon hwidths hzero => ?_
      rest := rfl }
  · show (c.faultLog.records.drop (c.faultLog.size - new.queues.faultLog.toNat)).length = _
    rw [List.length_drop, FaultLog.size]
    omega
  · refine hentries.trans (if_pos ?_)
    rw [Bool.or_eq_true, Bool.not_eq_true', ← Bool.not_eq_false (rulesChanged _ _),
      rulesChanged_eq_false]
    obtain hoff | hwidths | hzero := hgone
    · exact Or.inl hoff
    · exact Or.inr fun hsame => hwidths hsame.1
    · exact Or.inr fun hsame => hzero hsame.2
  · have hkept : (!new.cache.enabled || rulesChanged c.config new) = false := by
      rw [hon, rulesChanged_eq_false.2 ⟨hwidths, hzero⟩]
      rfl
    have htake := hentries.trans (if_neg (Bool.eq_false_iff.1 hkept))
    refine ⟨?_, ?_⟩
    · show (reshapeTlb c.tlb c.config new).entries <+: _
      rw [htake]
      exact List.take_prefix ..
    · show (reshapeTlb c.tlb c.config new).entries.length = _
      rw [htake, List.length_take, Nat.min_comm, Tlb.size]

/-- A new configuration is accepted exactly if it is valid and the state fits into it, and then it is
    put in force, part by part. -/
theorem updateConfiguration_adopted (c : Controller) (new : Configuration) (found : StreamId) :
    ((c.step (.updateConfiguration new found)).2.isOk = true ↔ c.Accommodates new) ∧
      (c.Accommodates new → c.Adopted new (c.step (.updateConfiguration new found)).1) := by
  refine ⟨⟨fun hok => ?_, fun h => ?_⟩, fun h => ?_⟩
  · obtain ⟨c', hc'⟩ := isOk_settle.1 hok
    exact accommodates_of_eq_ok hc'
  · exact isOk_settle.2 ⟨_, h.updateConfiguration_eq found⟩
  · rw [step, h.updateConfiguration_eq found]
    exact h.adopted

/-- A smaller fault log drops the older of two records, and a smaller cache the page used first; the
    queues, which hold two events and a command, take just these sizes. -/
theorem updateConfiguration_adopted_smaller :
    let config : Configuration := {}
    let c := start config [] [] .empty 0
    let ask (a : UInt64) : Op := .translate ⟨1, 0, a, .read, .nonSecure⟩
    let d := (c.run [.configure 1 {}, .createPasid 1 0, .map 1 0 ⟨0x1000, 0x8000, .full, .nonSecure⟩,
      .map 1 0 ⟨0x2000, 0x9000, .full, .nonSecure⟩, ask 0x1000, ask 0x2000, ask 0x5000, ask 0x6000,
      .submitCommand .sync]).1
    let new : Configuration :=
      { config with queues := { events := 2, commands := 1, faultLog := 1 }, cache := { size := 1 } }
    let d' := (d.step (.updateConfiguration new 0)).1
    d.Accommodates new ∧ d'.tlb.entries.map TlbEntry.page = [0x2000] ∧
      d'.faultLog.records.map FaultRecord.address = [0x6000] ∧ d'.counters.faultsDiscarded = 1 ∧
      d.Adopted new d' := by
  intro config c ask d new d'
  obtain ⟨haccepts, hadopts⟩ := updateConfiguration_adopted d new 0
  have hfits : d.Accommodates new := haccepts.1 (by decide +kernel)
  exact ⟨hfits, by decide +kernel, by decide +kernel, by decide +kernel, hadopts hfits⟩

end Controller

end Iommu
