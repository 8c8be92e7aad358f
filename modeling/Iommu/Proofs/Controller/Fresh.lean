/-
  After a reset a controller is as good as new.

  Resetting drops what operations have brought in, but the parts stay: the queues and logs with their
  capacities, the cache with its age limit and its epoch, the clock.  What stays is what a new
  controller of the configuration in force would get, because a new configuration reaches all of it at
  once (`Sized`, `Aged`); only the clock and the epoch are ahead.  So the two are `Delayed` from each
  other (`delayed_reset`), and every later operation answers the same on both (`reset_fresh`).

  The sinks are kept, and what they noted, the shared tables and the shared logs are not the
  controller's to drop; the new controller is given the same.

  The clock of the older controller stops sooner, at the greatest stamp, so time passes for both as that
  clock shows it (`measured`).
-/
import Iommu.Proofs.Controller.Choice
import Iommu.Proofs.Controller.Delayed
import Iommu.Proofs.Controller.Reconfigured
import Iommu.Proofs.Controller.WellFormed

namespace Iommu

namespace Tlb

/-- An insertion leaves the age limit as it is, -/
theorem maxAge_insert (t : Tlb) (now : Nat) (e : TlbEntry) : (t.insert now e).1.maxAge = t.maxAge := by
  simp only [insert]
  split
  · rfl
  · split
    · rfl
    · split <;> rfl

/-- and so does a lookup. -/
theorem maxAge_lookup (t : Tlb) (now : Nat) (k : TlbKey) : (t.lookup now k).1.maxAge = t.maxAge := by
  rw [lookup]
  split
  · rfl
  · split
    · rfl
    · split <;> rfl

/-- Only the operation that sets the age limit changes it. -/
theorem maxAge_step (t : Tlb) {op : Op} (hop : ∀ ms, op ≠ .setMaxAgeMs ms) :
    (t.step op).1.maxAge = t.maxAge := by
  cases op with
  | insert now e => exact maxAge_insert t now e
  | insertIfCurrent now e epoch =>
    show (t.insertIfCurrent now e epoch).1.maxAge = _
    rw [insertIfCurrent]
    split
    · exact maxAge_insert t now e
    · rfl
  | lookup now k => exact maxAge_lookup t now k
  | setMaxAgeMs ms => exact absurd rfl (hop ms)
  | _ => rfl

end Tlb

namespace Controller

/-! ## The age limit -/

/-- The age limit of the cache is the one that the configuration gives it. -/
def Aged (c : Controller) : Prop :=
  c.tlb.maxAge = min (c.config.cache.maxAgeMs.toNat * 1000000) (UInt64.size - 1)

/-- A new cache is given the age limit of the configuration. -/
theorem aged_start (config : Configuration) (sinks : List Sink) (deliveries : List Delivery)
    (resources : Resources) (clock : Nat) :
    (start config sinks deliveries resources clock).Aged := rfl

/-- A new configuration sets the age limit, and nothing else does. -/
theorem Aged.step {c : Controller} (h : c.Aged) (op : Op) : (c.step op).1.Aged := by
  by_cases hupdate : ∃ new found, op = .updateConfiguration new found
  · obtain ⟨new, found, rfl⟩ := hupdate
    refine settle_preserves h fun c' hc => ?_
    obtain ⟨-, events, commands, pageRequests, -, -, -, rfl⟩ := updateConfiguration_eq_ok hc
    exact maxAge_reshapeTlb ..
  · have hop : ∀ new found, op ≠ .updateConfiguration new found := fun new found he =>
      hupdate ⟨new, found, he⟩
    obtain ⟨enabled, hconfig⟩ := config_step_eq (c := c) hop
    -- the cache is changed by operations of its own, and only a new configuration sets its limit
    have hsame : (c.step op).1.tlb.maxAge = c.tlb.maxAge := by
      refine (tlb_step c op).keeps (P := fun t => t.maxAge = c.tlb.maxAge) ?_ rfl
      intro t change hperforms ht
      refine (t.maxAge_step fun ms hms => ?_).trans ht
      subst hms
      cases op with
      | updateConfiguration new found => exact hop new found rfl
      | _ => cases hperforms
    rw [Aged, hsame, hconfig]
    exact h

/-! ## Starting over -/

/-- A controller that was reset is a new one with its clock and its epoch ahead. -/
theorem delayed_reset {d : Controller} (hsized : d.Sized) (haged : d.Aged) :
    Delayed d.clock (d.tlb.epoch + 1)
      (start d.config d.sinks d.deliveries d.resources 0) d.reset := by
  have hstreams : (∅ : Std.ExtTreeMap StreamId Stream) = d.reset.streams := by
    refine Std.ExtTreeMap.ext_getElem? fun id => ?_
    show _ = (Std.ExtTreeMap.map (fun _ s => Stream.resetStatistics s) ∅)[id]?
    simp
  have hqueue : ∀ {α β : Type} (f : α → β) {q : Queue α} {size : Nat}, q.Holds size →
      (Queue.ofCapacity size).map f = q.clear.resetCounters.map f := by
    intro α β f q size hq
    rw [← hq.capacity]
    rfl
  have htlb : d.reset.tlb = (start d.config d.sinks d.deliveries d.resources 0).tlb.later d.clock
      (d.tlb.epoch + 1) := by
    have hcapacity : max 1 d.config.cache.size.toNat = d.tlb.capacity := by
      rw [hsized.cached.capacity, Nat.max_eq_right hsized.cached.positive]
    -- for any age limit at all, as the one in force is a minimum with the greatest stamp
    have hempty : ∀ maxAge, d.tlb.maxAge = maxAge → d.reset.tlb =
        ({ Tlb.ofCapacity d.config.cache.size.toNat with maxAge } : Tlb).later d.clock
          (d.tlb.epoch + 1) := by
      rintro _ rfl
      rw [Tlb.ofCapacity, hcapacity, Tlb.later, Nat.zero_add]
      rfl
    exact hempty _ haged
  have hlog : (FaultLog.ofCapacity d.config.queues.faultLog.toNat).untimed =
      d.faultLog.clear.untimed := by
    rw [FaultLog.ofCapacity, Nat.max_eq_right hsized.queued.faultLog.positive,
      ← hsized.queued.faultLog.capacity]
    rfl
  exact
    { config := rfl
      streams := hstreams
      tlb := htlb
      events := hqueue _ hsized.queued.events
      commands := hqueue _ hsized.queued.commands
      pageRequests := hqueue _ hsized.queued.pageRequests
      stalls := rfl
      faultLog := hlog
      counters := rfl
      sinks := rfl
      deliveries := rfl
      resources := rfl
      clock := (Nat.zero_add d.clock).symm }

/-- With nothing masked only the stamps go. -/
theorem map_untimed_id (os : List Outcome) :
    os.map (Outcome.untimed id) = os.map (Except.map Answer.untimed) :=
  List.map_congr_left fun o _ => by cases o <;> rfl

/-- Errors may be masked when the stamps are gone. -/
theorem map_untimed (mask : Error → Error) (os : List Outcome) :
    os.map (Outcome.untimed mask) = (os.map (Outcome.untimed id)).map (·.mapError mask) := by
  rw [List.map_map]
  exact List.map_congr_left fun o _ => by cases o <;> rfl

/-- Errors may be masked while the stamps are there. -/
theorem map_mapError_untimed (mask : Error → Error) (os : List Outcome) :
    (os.map (·.mapError mask)).map (Outcome.untimed id) = os.map (Outcome.untimed mask) := by
  rw [List.map_map]
  exact List.map_congr_left fun o _ => by cases o <;> rfl

/-- Runs that differ in stamps, and then in the stream that an error names. -/
theorem SameUntimed.renamed {x y y' : Controller × List Outcome} (h : SameUntimed id x y)
    (hstate : y.1 = y'.1)
    (houtcomes : y.2.map (·.mapError Error.unnamed) = y'.2.map (·.mapError Error.unnamed)) :
    SameUntimed Error.unnamed x y' := by
  refine ⟨?_, hstate ▸ h.state, hstate ▸ h.statistics⟩
  calc x.2.map (Outcome.untimed Error.unnamed)
      = (x.2.map (Outcome.untimed id)).map (·.mapError Error.unnamed) := map_untimed _ _
    _ = (y.2.map (Outcome.untimed id)).map (·.mapError Error.unnamed) := by rw [h.outcomes]
    _ = y.2.map (Outcome.untimed Error.unnamed) := (map_untimed _ _).symm
    _ = (y'.2.map (·.mapError Error.unnamed)).map (Outcome.untimed id) := by
      rw [← map_mapError_untimed, houtcomes]
    _ = y'.2.map (Outcome.untimed Error.unnamed) := map_mapError_untimed _ _

/-- A reset controller cannot be told from a new one of the configuration in force, with the same
    sinks, tables and logs: whatever is done from then on, every outcome, the state it leads to and all
    statistics are the same but for time stamps, the clock and the epoch of the cache.  Where a new
    configuration finds several streams with too many PASIDs either controller may name any of them; so
    errors are the same for the same choice of the stream named, and for other choices they are the same
    but for this name.  Time passes for both as the clock of the first measures it, which is as it passes
    until that clock stops. -/
theorem reset_fresh {config : Configuration} {c : Controller} (h : create config = .ok c)
    (before after : List Op) :
    let d := (c.run before).1
    (∃ new, create d.config = .ok new ∧
      let fresh : Controller :=
        { new with sinks := d.sinks, deliveries := d.deliveries, resources := d.resources }
      SameUntimed id (d.reset.run after) (fresh.run (d.reset.measured after)) ∧
      ∀ after', after'.map Op.unchosen = (d.reset.measured after).map Op.unchosen →
        SameUntimed Error.unnamed (d.reset.run after) (fresh.run after')) ∧
    (d.clock + elapsed after < UInt64.size → d.reset.measured after = after) := by
  intro d
  have hsized : d.Sized := sized_run h before
  obtain ⟨hvalid, rfl⟩ := create_eq_ok h
  have hclock : d.clock < UInt64.size :=
    run_preserves (P := fun c => c.clock < UInt64.size) (fun _ op hc => clock_step_lt hc op)
      (show 0 < UInt64.size by decide) before
  have haged : d.Aged := run_preserves (P := Aged) (fun _ op hc => hc.step op) (aged_start ..) before
  have hconfig : d.config.Valid := ((wellFormed_start hvalid [] [] .empty 0).run before).config
  have hnew : create d.config = .ok (start d.config [] [] .empty 0) := by
    rw [create, Configuration.problem?_eq_none.2 hconfig]
  obtain ⟨hrun, hanswers⟩ := (delayed_reset hsized haged).run_measured hclock after
  have hsame : SameUntimed id (d.reset.run after)
      ((start d.config d.sinks d.deliveries d.resources 0).run (d.reset.measured after)) := by
    refine ⟨?_, hrun.timeless.symm, hrun.statistics.symm⟩
    rw [map_untimed_id, map_untimed_id]
    exact hanswers.symm
  refine ⟨⟨_, hnew, hsame, fun after' hafter => ?_⟩, fun hlate => measured_eq (c := d.reset) hlate⟩
  obtain ⟨hstate, houtcomes⟩ := run_unchosen _ hafter.symm
  exact hsame.renamed hstate houtcomes

/-- Seven nanoseconds, a cached page, a fault and a new configuration later, a page is resolved, found,
    and over age when its two milliseconds are up, as in a new controller of that configuration.  Two
    streams then have too many PASIDs for another one, which each controller refuses with a name of its
    own. -/
theorem reset_fresh_reconfigured :
    let config : Configuration := { cache := { maxAgeMs := 1 } }
    let c := start config [] [] .empty 0
    let ask (stream : StreamId) (a : UInt64) : Op := .translate ⟨stream, 0, a, .read, .nonSecure⟩
    let before : List Op := [.configure 1 {}, .createPasid 1 0,
      .map 1 0 ⟨0x1000, 0x8000, .full, .nonSecure⟩, ask 1 0x1000, .elapse 7, ask 1 0x5000,
      .updateConfiguration { config with cache := { size := 1, maxAgeMs := 2 } } 0]
    let narrow : Configuration := { widths := { pasids := 1 } }
    let after (found : StreamId) : List Op := [.configure 2 {}, .createPasid 2 0,
      .map 2 0 ⟨0x1000, 0x8000, .full, .nonSecure⟩, ask 2 0x1000, .elapse 2000000, ask 2 0x1000,
      .elapse 1, ask 2 0x1000, ask 1 0x1000, .createPasid 2 1, .configure 3 {}, .createPasid 3 0,
      .createPasid 3 1, .updateConfiguration narrow found]
    let d := (c.run before).1
    create config = .ok c ∧ d.clock = 7 ∧ d.tlb.epoch = 1 ∧ d.counters.faults = 1 ∧
      (d.reset.run (after 2)).1.statistics.cache = ⟨1, 2, 1, 1, 1, 1⟩ ∧
      (d.reset.run (after 2)).2.getLast? =
        some (.error (.misconfigured (.tooManyPasids 2 2 1))) ∧
      ∃ new, create d.config = .ok new ∧
        let fresh : Controller :=
          { new with sinks := d.sinks, deliveries := d.deliveries, resources := d.resources }
        (fresh.run (after 3)).2.getLast? =
          some (.error (.misconfigured (.tooManyPasids 3 2 1))) ∧
        SameUntimed id (d.reset.run (after 2)) (fresh.run (after 2)) ∧
        SameUntimed Error.unnamed (d.reset.run (after 2)) (fresh.run (after 3)) := by
  intro config c ask before narrow after d
  have hc : create config = .ok c := rfl
  obtain ⟨⟨new, hnew, hsame, hother⟩, hmeasured⟩ := reset_fresh hc before (after 2)
  rw [hmeasured (by decide +kernel)] at hsame hother
  refine ⟨hc, by decide +kernel, by decide +kernel, by decide +kernel, by decide +kernel,
    by decide +kernel, new, hnew, ?_, hsame, hother (after 3) rfl⟩
  obtain ⟨-, rfl⟩ := create_eq_ok hnew
  decide +kernel

end Controller

end Iommu
