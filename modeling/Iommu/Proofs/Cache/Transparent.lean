/-
  Caching is transparent.

  `bare` forgets what caching may change of a controller: the cache and the switch that turns it on.
  `Op.uncached` is an operation with caching forced off, and `Op.visible` what a caller may rely on in
  its answer: everything but the cache-hit flag and the number of entries an invalidation removed.

  An operation commutes with `bare` (`bare_step`).  For all but a call to translate that is so whatever
  the cache holds; for that one the entry found has to answer as a walk would (`Faithful`), which is
  what coherence gives (`Coherent.faithful`).  Over a run, the two controllers go through the same bare
  states and give the same visible answers (`run_uncached`), provided that a stream whose shared table
  was changed directly is not asked to translate before its cached translations are gone
  (`Disciplined`).
-/
import Iommu.Proofs.Cache.Coherent

namespace Iommu

/-- The configuration with caching off. -/
def Configuration.uncached (c : Configuration) : Configuration :=
  { c with cache := { c.cache with enabled := false } }

namespace Controller

/-- The operation with caching forced off. -/
def Op.uncached : Op → Op
  | .enableCaching _ => .enableCaching false
  | .updateConfiguration new found => .updateConfiguration new.uncached found
  | op => op

/-- What an operation answers, without what caching may change. -/
def Op.visible : Op → Answer → Answer
  | .translate _, .translated r => .translated { r with cacheHit := false }
  | .invalidateAll, _ => .done
  | .invalidateStream _, _ => .done
  | .invalidatePasid _ _, _ => .done
  | _, answer => answer

/-- The answers to a list of operations, without what caching may change. -/
def visible (ops : List Op) (outcomes : List Outcome) : List Outcome :=
  List.zipWith (fun op outcome => outcome.map op.visible) ops outcomes

/-- The controller without what caching may change. -/
def bare (c : Controller) : Controller :=
  { c with config := c.config.uncached, tlb := .ofCapacity 0 }

/-- Whether an operation asks a stream of `stale` to translate. -/
def Op.asks (stale : StreamId → Bool) : Op → Bool
  | .translate t => stale t.stream
  | _ => false

/-- In a run from `c` no stream is asked to translate while it may have stale entries: once its shared
    table was changed directly, its cached translations are invalidated first. -/
def Disciplined (c : Controller) (stale : StreamId → Bool) : List Op → Prop
  | [] => True
  | op :: ops =>
    op.asks stale = false ∧ (c.step op).1.Disciplined (c.staleAfter stale op) ops

instance decidableDisciplined (c : Controller) (stale : StreamId → Bool) :
    (ops : List Op) → Decidable (c.Disciplined stale ops)
  | [] => isTrue trivial
  | op :: ops =>
    have := decidableDisciplined (c.step op).1 (c.staleAfter stale op) ops
    inferInstanceAs (Decidable (_ ∧ _))

/-! ## Parts that commute with `bare` -/

@[simp] theorem bare_bare (c : Controller) : c.bare.bare = c.bare := rfl

/-- Events are offered to the same queue. -/
theorem bare_emit (c : Controller) (e : Event) : (c.emit e).bare = c.bare.emit e := by
  simp only [emit]
  split
  · rename_i h
    rw [if_pos (show c.bare.events.isFull = true from h)]
    rfl
  · rename_i h
    rw [if_neg (show ¬c.bare.events.isFull = true from h)]
    rfl

/-- A fault is reported as without a cache. -/
theorem bare_reportFault (c : Controller) (t : Transaction) (f : StageFault) :
    (c.reportFault t f).bare = c.bare.reportFault t f := by
  simp only [reportFault]
  rw [bare_emit]
  rfl

/-- A transaction is stalled as without a cache. -/
theorem bare_stall (c : Controller) (t : Transaction) : (c.stall t).bare = c.bare.stall t := by
  simp only [stall]
  split
  · rename_i h
    rw [if_pos (show c.bare.pageRequests.isFull = true from h)]
    rfl
  · rename_i h
    rw [if_neg (show ¬c.bare.pageRequests.isFull = true from h), bare_emit]
    rfl

theorem bare_failCommand (c : Controller) (cmd : Command) :
    (c.failCommand cmd).bare = c.bare.failCommand cmd := by
  rw [failCommand, failCommand, bare_emit]
  rfl

/-- What is stored is not seen without the cache. -/
theorem bare_remember (c : Controller) (t : Transaction) (r : Translation) (epoch : Nat) :
    (c.remember t r epoch).bare = c.bare := by
  unfold remember
  split <;> rfl

/-- What is looked up is not seen either. -/
theorem bare_lookupCache (c : Controller) (t : Transaction) :
    (c.lookupCache t).1.bare = c.bare := by
  unfold lookupCache
  split <;> rfl

/-- A prefetch fills the cache, and does nothing else. -/
theorem bare_prefetch (c : Controller) (s : Stream) (cmd : Command) :
    (c.prefetch s cmd).bare = c.bare := by
  unfold prefetch
  dsimp only
  split
  · split
    · exact bare_remember ..
    · rfl
  · rfl

theorem bare_foldl_terminateRequest (rs : List PageRequest) (c : Controller) :
    (rs.foldl terminateRequest c).bare = rs.foldl terminateRequest c.bare := by
  induction rs generalizing c with
  | nil => rfl
  | cons r rs ih => exact ih (c.terminateRequest r)

/-! ## Translation -/

/-- What a lookup finds for a transaction is what a walk would answer. -/
def Faithful (c : Controller) (t : Transaction) : Prop :=
  ∀ s e, c.streams[t.stream]? = some s → (c.lookupCache t).2 = some e →
    e.permissions.allows t.access = true →
    s.walk c.resources t = .ok { e.toTranslation t.address with cacheHit := false }

/-- A coherent cache is faithful to streams that are not stale. -/
theorem Coherent.faithful {c : Controller} {stale : StreamId → Bool} (h : c.Coherent stale)
    {t : Transaction} (hfresh : stale t.stream = false) : c.Faithful t := by
  intro s e hs he ha
  obtain ⟨hmem, hkey⟩ := lookupCache_eq_some he
  have hstream : e.stream = t.stream := congrArg TlbKey.stream hkey
  obtain ⟨s', hs', hans⟩ := h e hmem (by rw [hstream]; exact hfresh)
  rw [hstream] at hs'
  obtain rfl : s = s' := Option.some.inj (hs.symm.trans hs')
  exact hans t hkey.symm ha

/-- With caching off there is no hit that could be wrong. -/
theorem faithful_of_off {c : Controller} (h : c.config.cache.enabled = false) (t : Transaction) :
    c.Faithful t := by
  intro s e _ he
  rw [lookupCache, if_neg (by simp [h])] at he
  cases he

/-- A walk does the same without a cache, but for what it stores. -/
theorem bare_walkStream (c : Controller) (s : Stream) (t : Transaction) :
    (c.walkStream s t).1.bare = (c.bare.walkStream s t).1.bare ∧
      (c.walkStream s t).2 = (c.bare.walkStream s t).2 := by
  simp only [walkStream, Stream.resolve]
  rw [show c.bare.resources = c.resources from rfl, show c.bare.clock = c.clock from rfl]
  cases s.walk c.resources t with
  | ok r => exact ⟨by rw [bare_remember, bare_remember]; rfl, rfl⟩
  | error f =>
    dsimp only
    split
    · refine ⟨?_, rfl⟩
      rw [bare_stall, bare_stall, bare_reportFault, bare_reportFault]
      rfl
    · refine ⟨?_, rfl⟩
      rw [bare_reportFault, bare_reportFault]
      rfl

/-- Without caching, a call to translate walks. -/
theorem attempt_bare {c : Controller} {t : Transaction} {s : Stream}
    (hs : c.streams[t.stream]? = some s) : c.bare.attempt t = c.bare.walkStream s t := by
  have hstream : c.bare.stream t.stream = .ok s := stream_eq_ok_iff.2 hs
  rw [attempt, hstream]
  rfl

/-- A hit that is faithful does what the walk would have done. -/
theorem bare_attempt {c : Controller} {t : Transaction} (h : c.Faithful t) :
    (c.attempt t).1.bare = (c.bare.attempt t).1.bare ∧
      (c.attempt t).2.map (fun r => { r with cacheHit := false }) =
        (c.bare.attempt t).2.map (fun r => { r with cacheHit := false }) := by
  refine attempt_cases (P := fun x => x.1.bare = (c.bare.attempt t).1.bare ∧
    x.2.map (fun r => { r with cacheHit := false }) =
      (c.bare.attempt t).2.map (fun r => { r with cacheHit := false })) ?_ ?_ ?_
  · intro hn
    have hstream : c.bare.stream t.stream = .error (.streamNotConfigured t.stream) := by
      rw [stream, show c.bare.streams[t.stream]? = none from hn]
    rw [attempt, hstream]
    refine ⟨?_, rfl⟩
    dsimp only
    rw [bare_reportFault, bare_reportFault, bare_bare]
  · -- the uncached controller finds by walking what the cache answered
    intro s e hs he ha
    have hwalk : s.walk c.bare.resources t = .ok { e.toTranslation t.address with
        cacheHit := false } := h s e hs he ha
    rw [attempt_bare hs, walkStream, Stream.resolve, hwalk]
    refine ⟨?_, rfl⟩
    dsimp only
    rw [bare_remember]
    show (c.lookupCache t).1.bare.setStream _ = _
    rw [bare_lookupCache]
    rfl
  · -- a miss, or an entry without the right: both controllers walk
    intro s hs _
    obtain ⟨hstate, hanswer⟩ := bare_walkStream (c.lookupCache t).1 s t
    rw [bare_lookupCache] at hstate hanswer
    rw [attempt_bare hs, hanswer]
    exact ⟨hstate, rfl⟩

/-- Mapping an answer leaves its success alone. -/
theorem isOk_map {ε α β : Type} (x : Except ε α) (f : α → β) : (x.map f).isOk = x.isOk := by
  cases x <;> rfl

/-- A call answers as without a cache, but for the flag of the hit. -/
theorem bare_translate {c : Controller} {t : Transaction} (h : c.Faithful t) :
    (c.translate t).1.bare = (c.bare.translate t).1.bare ∧
      (c.translate t).2.map (fun r => { r with cacheHit := false }) =
        (c.bare.translate t).2.map (fun r => { r with cacheHit := false }) := by
  obtain ⟨hstate, hanswer⟩ := bare_attempt h
  have hok : (c.attempt t).2.isOk = (c.bare.attempt t).2.isOk := by
    have hmap := congrArg Except.isOk hanswer
    rwa [isOk_map, isOk_map] at hmap
  rw [translate_eq, translate_eq]
  refine ⟨?_, hanswer⟩
  show (c.attempt t).1.bare.countTranslation _ = (c.bare.attempt t).1.bare.countTranslation _
  rw [hstate, hok]

/-! ## Commands -/

/-- Invalidations and prefetches are nothing without a cache, and other effects are the same. -/
theorem bare_executeOn (c : Controller) (s : Stream) (cmd : Command) :
    (c.executeOn s cmd).bare = (c.bare.executeOn s cmd).bare := by
  unfold executeOn
  cases cmd.kind with
  | atcInv =>
    dsimp only
    rw [bare_emit, bare_emit]
    rfl
  | prefetchAddr =>
    dsimp only
    rw [bare_prefetch, bare_prefetch]
    rfl
  | _ => rfl

/-- A command fails without a cache if it fails with it. -/
theorem bare_execute (c : Controller) (cmd : Command) :
    (c.execute cmd).map bare = (c.bare.execute cmd).map bare := by
  simp only [execute]
  rw [show c.bare.stream cmd.stream = c.stream cmd.stream from rfl]
  split
  · cases c.stream cmd.stream with
    | error e => rfl
    | ok s => exact congrArg Except.ok (bare_executeOn c s cmd)
  · split <;> rfl

/-- The turn of a command does the same without a cache. -/
theorem bare_runFront (c : Controller) (cmd : Command) (report : CommandReport) :
    (c.runFront cmd report).map (Prod.map bare id) =
      (c.bare.runFront cmd report).map (Prod.map bare id) := by
  simp only [runFront]
  rw [show c.bare.events = c.events from rfl]
  split
  · split <;> rfl
  · have hexec := bare_execute c cmd
    cases hc : c.execute cmd with
    | error e =>
      cases hb : c.bare.execute cmd with
      | ok d => rw [hc, hb] at hexec; cases hexec
      | error e' =>
        have hfail : (c.failCommand cmd).consume.bare = (c.bare.failCommand cmd).consume.bare := by
          show (c.failCommand cmd).bare.consume = (c.bare.failCommand cmd).bare.consume
          rw [bare_failCommand, bare_failCommand, bare_bare]
        exact congrArg (fun x => some (x, _)) hfail
    | ok done =>
      cases hb : c.bare.execute cmd with
      | error e => rw [hc, hb] at hexec; cases hexec
      | ok done' =>
        rw [hc, hb] at hexec
        have hdone : done.bare = done'.bare := Except.ok.inj hexec
        have hcons : done.consume.bare = done'.consume.bare := congrArg consume hdone
        exact congrArg (fun x => some (x, _)) hcons

/-- So do all turns of a call, and the reports agree. -/
theorem bare_runCommands (cmds : List Command) (c : Controller) (report : CommandReport) :
    (c.runCommands report cmds).1.bare = (c.bare.runCommands report cmds).1.bare ∧
      (c.runCommands report cmds).2 = (c.bare.runCommands report cmds).2 := by
  induction cmds generalizing c report with
  | nil => exact ⟨rfl, rfl⟩
  | cons cmd rest ih =>
    have hfront := bare_runFront c cmd report
    simp only [runCommands]
    -- a SYNC has to wait in both or in none, as the event queue is the same
    cases hc : c.runFront cmd report with
    | none =>
      cases hb : c.bare.runFront cmd report with
      | some y => rw [hc, hb] at hfront; cases hfront
      | none => exact ⟨rfl, rfl⟩
    | some x =>
      cases hb : c.bare.runFront cmd report with
      | none => rw [hc, hb] at hfront; cases hfront
      | some y =>
        rw [hc, hb] at hfront
        obtain ⟨hstate, hreport⟩ := Prod.mk.inj (Option.some.inj hfront)
        have hreport' : x.2 = y.2 := hreport
        obtain ⟨hx, hx'⟩ := ih x.1 x.2
        obtain ⟨hy, hy'⟩ := ih y.1 y.2
        dsimp only
        rw [hx, hx', hy, hy', hstate, hreport']
        exact ⟨rfl, rfl⟩

/-! ## Configurations -/

/-- A configuration is accepted or refused without a look at the cache. -/
theorem bare_updateConfiguration (c : Controller) (new : Configuration) (found : StreamId) :
    (c.updateConfiguration new found).map bare =
      (c.bare.updateConfiguration new.uncached found).map bare := by
  simp only [updateConfiguration]
  rw [show new.uncached.problem? = new.problem? from rfl]
  cases new.problem? with
  | some p => rfl
  | none =>
    dsimp only
    rw [show c.bare.streamCount = c.streamCount from rfl,
      show new.uncached.widths = new.widths from rfl]
    split
    · rfl
    · rw [show c.bare.overfullStream? = c.overfullStream? from rfl]
      cases c.overfullStream? new.widths.pasids.toNat found with
      | some s => rfl
      | none =>
        dsimp only
        rw [show c.bare.events = c.events from rfl, show c.bare.commands = c.commands from rfl,
          show c.bare.pageRequests = c.pageRequests from rfl,
          show new.uncached.queues = new.queues from rfl]
        cases c.events.resizeTo .event new.queues.events.toNat with
        | error e => rfl
        | ok events =>
          cases c.commands.resizeTo .command new.queues.commands.toNat with
          | error e => rfl
          | ok commands =>
            cases c.pageRequests.resizeTo .pageRequest new.queues.pageRequests.toNat <;> rfl

/-- The switch is not seen without a cache. -/
theorem bare_enableCaching (c : Controller) (enabled : Bool) :
    (c.enableCaching enabled).bare = c.bare := by
  unfold enableCaching
  split <;> rfl

/-! ## Steps -/

/-- Operations that agree without the cache make steps that agree. -/
theorem bare_settle {c : Controller} {r r' : Except Error Controller} (op : Op)
    (h : r.map bare = r'.map bare) :
    (c.settle r).1.bare = (c.bare.settle r').1.bare ∧
      (c.settle r).2.map op.visible = (c.bare.settle r').2.map op.visible := by
  cases r with
  | error e =>
    cases r' with
    | ok d => cases h
    | error e' =>
      obtain rfl : e = e' := Except.error.inj h
      exact ⟨rfl, rfl⟩
  | ok d =>
    cases r' with
    | error e => cases h
    | ok d' => exact ⟨Except.ok.inj h, rfl⟩

/-- Likewise for operations that answer a flag. -/
theorem bare_settleFlag {c : Controller} {r r' : Except Error (Controller × Bool)} (op : Op)
    (h : r.map (Prod.map bare id) = r'.map (Prod.map bare id)) :
    (c.settleFlag r).1.bare = (c.bare.settleFlag r').1.bare ∧
      (c.settleFlag r).2.map op.visible = (c.bare.settleFlag r').2.map op.visible := by
  cases r with
  | error e =>
    cases r' with
    | ok d => cases h
    | error e' =>
      obtain rfl : e = e' := Except.error.inj h
      exact ⟨rfl, rfl⟩
  | ok d =>
    cases r' with
    | error e => cases h
    | ok d' =>
      obtain ⟨hstate, hflag⟩ := Prod.mk.inj (Except.ok.inj h)
      have hflag' : d.2 = d'.2 := hflag
      refine ⟨hstate, ?_⟩
      simp only [settleFlag]
      rw [hflag']

/-- An operation on one stream that commutes once the stream is found. -/
theorem bare_withStream {α : Type} {f : α → α} {c : Controller} {id : StreamId}
    {g g' : Stream → Except Error α} (h : ∀ s, (g s).map f = (g' s).map f) :
    Except.map f (match c.stream id with | .error e => .error e | .ok s => g s) =
      Except.map f (match c.bare.stream id with | .error e => .error e | .ok s => g' s) := by
  rw [show c.bare.stream id = c.stream id from rfl]
  cases c.stream id with
  | error e => rfl
  | ok s => exact h s

/-- Every operation does the same with and without caching, as far as caching may not change it. -/
theorem bare_step (c : Controller) (op : Op) (h : ∀ t, op = .translate t → c.Faithful t) :
    (c.step op).1.bare = (c.bare.step op.uncached).1.bare ∧
      (c.step op).2.map op.visible = (c.bare.step op.uncached).2.map op.visible := by
  cases op with
  | configure id config =>
    refine bare_settle _ ?_
    simp only [configure]
    rw [show c.bare.streams = c.streams from rfl]
    cases c.streams[id]? with
    | some s =>
      dsimp only
      cases s.configure config <;> rfl
    | none =>
      rw [show c.bare.config.widths = c.config.widths from rfl,
        show c.bare.streamCount = c.streamCount from rfl,
        show limitsOf c.bare.config = limitsOf c.config from rfl]
      dsimp only
      split
      · rfl
      · cases Stream.create id config (limitsOf c.config) <;> rfl
  | removeStream id => exact bare_settle _ (bare_withStream fun s => rfl)
  | enable id => exact bare_settle _ (bare_withStream fun s => rfl)
  | disable id => exact bare_settle _ (bare_withStream fun s => rfl)
  | attachTable id table => exact bare_settle _ (bare_withStream fun s => rfl)
  | attachLog id log => exact bare_settle _ (bare_withStream fun s => rfl)
  | createPasid id pasid =>
    refine bare_settle _ (bare_withStream fun s => ?_)
    cases s.createPasid pasid <;> rfl
  | removePasid id pasid =>
    refine bare_settle _ (bare_withStream fun s => ?_)
    cases s.removePasid pasid <;> rfl
  | clearPasids id => exact bare_settle _ (bare_withStream fun s => rfl)
  | map id pasid m =>
    refine bare_settle _ (bare_withStream fun s => ?_)
    cases s.map pasid m <;> rfl
  | unmap id pasid a =>
    refine bare_settleFlag _ (bare_withStream fun s => ?_)
    cases s.unmap pasid a <;> rfl
  | mapPages id pasid ms =>
    refine bare_settle _ (bare_withStream fun s => ?_)
    cases s.mapPages pasid ms <;> rfl
  | unmapPages id pasid as =>
    refine bare_settle _ (bare_withStream fun s => ?_)
    cases s.unmapPages pasid as <;> rfl
  | editTable id change =>
    refine bare_settleFlag _ ?_
    simp only [editTable]
    rw [show c.bare.resources = c.resources from rfl]
    cases (c.resources.table id).step change <;> rfl
  | translate t =>
    obtain ⟨hstate, hanswer⟩ := bare_translate (h t rfl)
    refine ⟨hstate, ?_⟩
    have hmask : ∀ x : Except Error Translation,
        (x.map Answer.translated).map (Op.visible (.translate t)) =
          (x.map fun r => { r with cacheHit := false }).map Answer.translated := by
      intro x
      cases x <;> rfl
    show ((c.translate t).2.map Answer.translated).map _ =
      ((c.bare.translate t).2.map Answer.translated).map _
    rw [hmask, hmask, hanswer]
  | submitPageRequest r =>
    simp only [step, Op.uncached, submitPageRequest]
    rw [show c.bare.pageRequests = c.pageRequests from rfl, show c.bare.stamp = c.stamp from rfl]
    split <;> exact ⟨rfl, rfl⟩
  | processCommands =>
    obtain ⟨hstate, hreport⟩ := bare_runCommands c.commands.entries c .none
    exact ⟨hstate, congrArg (fun r => (Except.ok (.report r) : Outcome).map
      (Op.visible .processCommands)) hreport⟩
  | clearPageRequests =>
    refine ⟨?_, rfl⟩
    show (c.pageRequests.entries.foldl terminateRequest _).bare =
      (c.pageRequests.entries.foldl terminateRequest _).bare
    rw [bare_foldl_terminateRequest, bare_foldl_terminateRequest]
    rfl
  | enableCaching enabled =>
    refine ⟨?_, rfl⟩
    show (c.enableCaching enabled).bare = (c.bare.enableCaching false).bare
    rw [bare_enableCaching, bare_enableCaching, bare_bare]
  | updateConfiguration new found => exact bare_settle _ (bare_updateConfiguration c new found)
  | _ => exact ⟨rfl, rfl⟩

/-! ## Runs -/

/-- Caching is turned off once and for all. -/
theorem uncached_uncached (op : Op) : op.uncached.uncached = op.uncached := by
  cases op <;> rfl

/-- What is visible of an answer does not depend on the switch. -/
theorem visible_uncached (op : Op) : op.uncached.visible = op.visible := by
  cases op <;> rfl

/-- Caching that is off stays off when it is forced off. -/
theorem off_step {c : Controller} (h : c.config.cache.enabled = false) (op : Op) :
    (c.step op.uncached).1.config.cache.enabled = false := by
  cases hop : op.uncached with
  | enableCaching enabled =>
    cases op <;> cases hop
    rfl
  | updateConfiguration new found =>
    cases op <;> cases hop
    refine settle_preserves (P := fun c => c.config.cache.enabled = false) h fun c' hc => ?_
    obtain ⟨-, _, _, _, -, -, -, rfl⟩ := updateConfiguration_eq_ok hc
    rfl
  | _ => rw [config_step _ (by simp) (by simp), h]

/-- Two controllers that differ in their caches only, one of them with caching forced off, go through
    the same bare states and give the same visible answers. -/
theorem bare_run {c d : Controller} {stale : StreamId → Bool} {ops : List Op} (hw : c.WellFormed)
    (hc : c.Coherent stale) (hops : c.Disciplined stale ops) (hd : d.config.cache.enabled = false)
    (hcd : c.bare = d.bare) :
    (c.run ops).1.bare = (d.run (ops.map Op.uncached)).1.bare ∧
      visible ops (c.run ops).2 = visible ops (d.run (ops.map Op.uncached)).2 := by
  induction ops generalizing c d stale with
  | nil => exact ⟨hcd, rfl⟩
  | cons op ops ih =>
    obtain ⟨hfresh, hrest⟩ := hops
    obtain ⟨hcstate, hcanswer⟩ := bare_step c op fun t ht => by
      subst ht
      exact hc.faithful hfresh
    -- without a cache every answer is that of a walk
    obtain ⟨hdstate, hdanswer⟩ := bare_step d op.uncached fun t _ => faithful_of_off hd t
    rw [uncached_uncached, ← hcd] at hdstate hdanswer
    rw [visible_uncached] at hdanswer
    obtain ⟨hstate, hanswers⟩ := ih (hw.step op) (hc.step hw op) hrest (off_step hd op)
      (hcstate.trans hdstate.symm)
    exact ⟨hstate, congrArg₂ List.cons (hcanswer.trans hdanswer.symm) hanswers⟩

/-- Caching is transparent: a run with caching forced off throughout goes through the same states, the
    cache apart, and answers the same, cache-hit flags and counts of removed entries apart. -/
theorem run_uncached {config : Configuration} {c : Controller} (h : create config = .ok c)
    {ops : List Op} (hops : c.Disciplined (fun _ => false) ops) :
    ∃ d, create config.uncached = .ok d ∧
      (c.run ops).1.bare = (d.run (ops.map Op.uncached)).1.bare ∧
      visible ops (c.run ops).2 = visible ops (d.run (ops.map Op.uncached)).2 := by
  have hw := wellFormed_of_create h
  obtain ⟨hv, rfl⟩ := create_eq_ok h
  refine ⟨start config.uncached [] [] .empty 0, ?_, ?_⟩
  · rw [create, show config.uncached.problem? = config.problem? from rfl,
      Configuration.problem?_eq_none.2 hv]
  · exact bare_run hw (.of_empty rfl) hops rfl rfl

/-- A stage-2 table is changed behind its stream while the cache holds the old page; the stream's
    entries are dropped before it is asked again. -/
theorem run_uncached_edited :
    let c := start {} [] [] .empty 0
    let page (frame : UInt64) : Mapping := ⟨0x1000, frame, .full, .nonSecure⟩
    let ask : Op := .translate ⟨1, 0, 0x1234, .read, .nonSecure⟩
    let ops : List Op := [.configure 1 .stage2Only, .createPasid 1 0, .attachTable 1 (some 7),
      .editTable 7 (.map (page 0x8000)), ask, ask, .editTable 7 (.map (page 0x9000)),
      .invalidateStream 1, ask]
    create {} = .ok c ∧ c.Disciplined (fun _ => false) ops ∧ (c.run ops).1.tlb.hits = 1 ∧
      ∃ d, create (Configuration.uncached {}) = .ok d ∧
        (c.run ops).1.bare = (d.run (ops.map Op.uncached)).1.bare ∧
        visible ops (c.run ops).2 = visible ops (d.run (ops.map Op.uncached)).2 := by
  intro c page ask ops
  have hops : c.Disciplined (fun _ => false) ops := by decide +kernel
  exact ⟨rfl, hops, by decide +kernel, run_uncached rfl hops⟩

end Controller

end Iommu
