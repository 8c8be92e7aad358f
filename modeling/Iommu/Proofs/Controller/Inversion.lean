/-
  What the operations of the controller do when they succeed, and induction over runs.

  An operation that can fail changes nothing when it does (`settle_preserves`), so all there is to
  know is what it tested and the state it leaves when it succeeds: one lemma for each, in the order
  of the operations.  `run_preserves` takes what a step keeps to what a run keeps.
-/
import Iommu.Controller.Step
import Iommu.Proofs.Stream.Edit

namespace Iommu.Controller

/-! ## Steps and runs -/

/-- What holds before and after a success holds after the step, whether it succeeds or fails. -/
theorem settle_preserves {P : Controller → Prop} {c : Controller} {r : Except Error Controller}
    (hc : P c) (h : ∀ c', r = .ok c' → P c') : P (c.settle r).1 := by
  cases hr : r with
  | error e => exact hc
  | ok c' => exact h c' hr

/-- Likewise for an operation that answers a flag. -/
theorem settleFlag_preserves {P : Controller → Prop} {c : Controller}
    {r : Except Error (Controller × Bool)} (hc : P c) (h : ∀ c' b, r = .ok (c', b) → P c') :
    P (c.settleFlag r).1 := by
  cases hr : r with
  | error e => exact hc
  | ok x => exact h x.1 x.2 hr

/-- The step answers success exactly when there is a next state. -/
theorem isOk_settle {c : Controller} {r : Except Error Controller} :
    (c.settle r).2.isOk = true ↔ ∃ c', r = .ok c' := by
  cases r with
  | error e => exact ⟨nofun, nofun⟩
  | ok c' => exact ⟨fun _ => ⟨c', rfl⟩, fun _ => rfl⟩

/-- A run begins with its first step. -/
theorem run_cons (c : Controller) (op : Op) (ops : List Op) :
    (c.run (op :: ops)).1 = ((c.step op).1.run ops).1 := rfl

/-- What every operation of a kind keeps, a run of them keeps. -/
theorem run_preserves_of {P : Controller → Prop} {kind : Op → Bool}
    (hstep : ∀ c op, P c → kind op = true → P (c.step op).1) {c : Controller} (hc : P c)
    {ops : List Op} (hops : ∀ op ∈ ops, kind op = true) : P (c.run ops).1 := by
  induction ops generalizing c with
  | nil => exact hc
  | cons op ops ih =>
    rw [List.forall_mem_cons] at hops
    exact ih (hstep c op hc hops.1) hops.2

/-- What every step keeps, every run keeps. -/
theorem run_preserves {P : Controller → Prop} (hstep : ∀ c op, P c → P (c.step op).1)
    {c : Controller} (hc : P c) (ops : List Op) : P (c.run ops).1 :=
  run_preserves_of (fun c op h (_ : true = true) => hstep c op h) hc fun _ _ => rfl

/-- The state before the operation at a place of the list, and after it. -/
theorem run_take_succ {c : Controller} {ops : List Op} {n : Nat} {op : Op}
    (h : ops[n]? = some op) :
    (c.run (ops.take (n + 1))).1 = ((c.run (ops.take n)).1.step op).1 := by
  rw [List.take_add_one, h, Option.toList_some, run_append]
  rfl

/-- What holds at the start of a run and is kept by its operations holds at every place. -/
theorem run_take_preserves {P : Controller → Prop} {c : Controller} {ops : List Op} (hc : P c)
    (hstep : ∀ n op, ops[n]? = some op → P (c.run (ops.take n)).1 →
      P ((c.run (ops.take n)).1.step op).1) (n : Nat) : P (c.run (ops.take n)).1 := by
  induction n with
  | zero => exact hc
  | succ n ih =>
    cases hop : ops[n]? with
    | none =>
      have hlen : ops.length ≤ n := List.getElem?_eq_none_iff.1 hop
      rw [List.take_of_length_le (Nat.le_succ_of_le hlen)]
      rwa [List.take_of_length_le hlen] at ih
    | some op =>
      rw [run_take_succ hop]
      exact hstep n op hop ih

/-- What the operations of a run contribute, one after the other, each in the state it starts from. -/
def gather {α : Type} (f : Controller → Op → List α) (c : Controller) : List Op → List α
  | [] => []
  | op :: ops => f c op ++ gather f (c.step op).1 ops

/-! ## Streams -/

/-- A controller is made for valid configurations only, and starts empty. -/
theorem create_eq_ok {config : Configuration} {c : Controller} (h : create config = .ok c) :
    config.Valid ∧ c = start config [] [] .empty 0 := by
  rw [create] at h
  split at h
  · cases h
  · rename_i hp
    exact ⟨Configuration.problem?_eq_none.1 hp, (Except.ok.inj h).symm⟩

/-- A stream is found when it is in the table. -/
theorem stream_eq_ok_iff {c : Controller} {id : StreamId} {s : Stream} :
    c.stream id = .ok s ↔ c.streams[id]? = some s := by
  rw [stream]
  split
  · rename_i h
    rw [h, Except.ok.injEq, Option.some.injEq]
  · rename_i h
    rw [h]
    exact ⟨nofun, nofun⟩

/-- The only error is that there is no such stream. -/
theorem stream_eq_error {c : Controller} {id : StreamId} {e : Error} (h : c.stream id = .error e) :
    c.streams[id]? = none ∧ e = .streamNotConfigured id := by
  rw [stream] at h
  split at h
  · cases h
  · rename_i hn
    exact ⟨hn, (Except.error.inj h).symm⟩

/-- A stream that is written is the one found under its number, and no other is touched. -/
theorem getElem?_setStream (c : Controller) (s : Stream) (id : StreamId) :
    (c.setStream s).streams[id]? = if s.id = id then some s else c.streams[id]? := by
  simp [setStream, Std.ExtTreeMap.getElem?_insert]

/-- Every stream is changed, and none comes or goes. -/
theorem getElem?_mapStreams (c : Controller) (f : Stream → Stream) (id : StreamId) :
    (c.mapStreams f).streams[id]? = c.streams[id]?.map f := by
  simp [mapStreams, Std.ExtTreeMap.getElem?_map]

/-- Either the stream exists and its configuration is replaced, or it is new and the table has
    room. -/
theorem configure_eq_ok {c c' : Controller} {id : StreamId} {config : StreamConfig}
    (h : c.configure id config = .ok c') :
    (∃ s, c.streams[id]? = some s ∧ config.isValid = true ∧
      c' = ((c.setStream { s with config }).invalidateStream id).1) ∨
    (c.streams[id]? = none ∧ c.streamCount < c.config.widths.streams.toNat ∧
      ∃ s, Stream.create id config (limitsOf c.config) = .ok s ∧ c' = c.setStream s) := by
  rw [configure] at h
  split at h
  · rename_i s hs
    split at h
    · cases h
    · rename_i s' hs'
      obtain ⟨hv, rfl⟩ := Stream.configure_eq_ok hs'
      exact Or.inl ⟨s, hs, hv, (Except.ok.inj h).symm⟩
  · rename_i hn
    split at h
    · cases h
    · rename_i hc
      split at h
      · cases h
      · rename_i s hs
        exact Or.inr ⟨hn, by omega, s, hs, (Except.ok.inj h).symm⟩

/-- The stream was there, and went with its translations and its stalled transactions. -/
theorem removeStream_eq_ok {c c' : Controller} {id : StreamId} (h : c.removeStream id = .ok c') :
    ∃ s, c.streams[id]? = some s ∧
      c' = (({ c with streams := c.streams.erase id }).invalidateStream id).1.terminateStream id := by
  rw [removeStream] at h
  split at h
  · cases h
  · rename_i s hs
    exact ⟨s, stream_eq_ok_iff.1 hs, (Except.ok.inj h).symm⟩

/-- The stream was there, and nothing was dropped. -/
theorem enable_eq_ok {c c' : Controller} {id : StreamId} (h : c.enable id = .ok c') :
    ∃ s, c.streams[id]? = some s ∧ c' = c.setStream (s.setEnabled true) := by
  rw [enable] at h
  split at h
  · cases h
  · rename_i s hs
    exact ⟨s, stream_eq_ok_iff.1 hs, (Except.ok.inj h).symm⟩

/-- The stream was there, and its translations were dropped. -/
theorem disable_eq_ok {c c' : Controller} {id : StreamId} (h : c.disable id = .ok c') :
    ∃ s, c.streams[id]? = some s ∧
      c' = ((c.setStream (s.setEnabled false)).invalidateStream id).1 := by
  rw [disable] at h
  split at h
  · cases h
  · rename_i s hs
    exact ⟨s, stream_eq_ok_iff.1 hs, (Except.ok.inj h).symm⟩

/-- The stream was there, and its translations were dropped. -/
theorem attachTable_eq_ok {c c' : Controller} {id : StreamId} {table : Option TableId}
    (h : c.attachTable id table = .ok c') :
    ∃ s, c.streams[id]? = some s ∧
      c' = ((c.setStream (s.attachTable table)).invalidateStream id).1 := by
  rw [attachTable] at h
  split at h
  · cases h
  · rename_i s hs
    exact ⟨s, stream_eq_ok_iff.1 hs, (Except.ok.inj h).symm⟩

/-- The stream was there, and nothing was dropped. -/
theorem attachLog_eq_ok {c c' : Controller} {id : StreamId} {log : Option LogId}
    (h : c.attachLog id log = .ok c') :
    ∃ s, c.streams[id]? = some s ∧ c' = c.setStream (s.attachLog log) := by
  rw [attachLog] at h
  split at h
  · cases h
  · rename_i s hs
    exact ⟨s, stream_eq_ok_iff.1 hs, (Except.ok.inj h).symm⟩

/-! ## PASIDs -/

/-- The stream was there and took the PASID. -/
theorem createPasid_eq_ok {c c' : Controller} {id : StreamId} {pasid : Pasid}
    (h : c.createPasid id pasid = .ok c') :
    ∃ s s', c.streams[id]? = some s ∧ s.createPasid pasid = .ok s' ∧ c' = c.setStream s' := by
  rw [createPasid] at h
  split at h
  · cases h
  · rename_i s hs
    split at h
    · cases h
    · rename_i s' hs'
      exact ⟨s, s', stream_eq_ok_iff.1 hs, hs', (Except.ok.inj h).symm⟩

/-- Stream and PASID were there, and translations and stalled transactions of the PASID went
    with it. -/
theorem removePasid_eq_ok {c c' : Controller} {id : StreamId} {pasid : Pasid}
    (h : c.removePasid id pasid = .ok c') :
    ∃ s, c.streams[id]? = some s ∧
      c' = ((c.setStream { s with pasids := s.pasids.erase pasid }).invalidatePasid id
        pasid).1.terminatePasid id pasid := by
  rw [removePasid] at h
  split at h
  · cases h
  · rename_i s hs
    split at h
    · cases h
    · rename_i s' hs'
      obtain ⟨-, rfl⟩ := Stream.removePasid_eq_ok hs'
      exact ⟨s, stream_eq_ok_iff.1 hs, (Except.ok.inj h).symm⟩

/-- The stream was there; its translations and its stalled transactions are gone. -/
theorem clearPasids_eq_ok {c c' : Controller} {id : StreamId} (h : c.clearPasids id = .ok c') :
    ∃ s, c.streams[id]? = some s ∧
      c' = ((c.setStream s.clearPasids).invalidateStream id).1.terminateStream id := by
  rw [clearPasids] at h
  split at h
  · cases h
  · rename_i s hs
    exact ⟨s, stream_eq_ok_iff.1 hs, (Except.ok.inj h).symm⟩

/-! ## Mappings -/

/-- The addresses fitted, the PASID was there, and the page was mapped over whatever there was. -/
theorem map_eq_ok {c c' : Controller} {id : StreamId} {pasid : Pasid} {m : Mapping}
    (h : c.map id pasid m = .ok c') :
    ∃ s t, c.streams[id]? = some s ∧ s.checkWidths m = .ok () ∧ s.pasids[pasid]? = some t ∧
      c' = ((c.setStream (s.setPasidTable pasid (t.map m))).invalidateRange id pasid
        (.single m.input)).1 := by
  rw [map] at h
  split at h
  · cases h
  · rename_i s hs
    split at h
    · cases h
    · rename_i s' hs'
      obtain ⟨hw, t, ht, rfl⟩ := Stream.map_eq_ok hs'
      exact ⟨s, t, stream_eq_ok_iff.1 hs, hw, ht, (Except.ok.inj h).symm⟩

/-- The PASID was there; whether the page was mapped is no matter of success. -/
theorem unmap_eq_ok {c c' : Controller} {id : StreamId} {pasid : Pasid} {a : UInt64} {b : Bool}
    (h : c.unmap id pasid a = .ok (c', b)) :
    ∃ s t, c.streams[id]? = some s ∧ s.pasids[pasid]? = some t ∧
      c' = ((c.setStream (s.setPasidTable pasid (t.unmap a))).invalidateRange id pasid
        (.single a)).1 := by
  rw [unmap] at h
  split at h
  · cases h
  · rename_i s hs
    split at h
    · cases h
    · rename_i s' removed hs'
      obtain ⟨t, ht, rfl⟩ := Stream.unmap_eq_ok hs'
      exact ⟨s, t, stream_eq_ok_iff.1 hs, ht, (Prod.mk.inj (Except.ok.inj h)).1.symm⟩

/-- All addresses fitted, the PASID was there, and the pages were mapped in the order of the
    list. -/
theorem mapPages_eq_ok {c c' : Controller} {id : StreamId} {pasid : Pasid} {ms : List Mapping}
    (h : c.mapPages id pasid ms = .ok c') :
    ∃ s t, c.streams[id]? = some s ∧ s.checkAllWidths ms = .ok () ∧ s.pasids[pasid]? = some t ∧
      c' = ((c.setStream (s.setPasidTable pasid (ms.foldl PageTable.map t))).invalidatePasid id
        pasid).1 := by
  rw [mapPages] at h
  split at h
  · cases h
  · rename_i s hs
    split at h
    · cases h
    · rename_i s' hs'
      obtain ⟨hw, t, ht, rfl⟩ := Stream.mapPages_eq_ok hs'
      exact ⟨s, t, stream_eq_ok_iff.1 hs, hw, ht, (Except.ok.inj h).symm⟩

/-- A list of mappings that is accepted names no page twice. -/
theorem nodup_of_mapPages {c c' : Controller} {id : StreamId} {pasid : Pasid} {ms : List Mapping}
    (h : c.mapPages id pasid ms = .ok c') : (ms.map Mapping.page).Nodup := by
  rw [mapPages] at h
  split at h
  · cases h
  · split at h
    · cases h
    · rename_i s' hs'
      exact Stream.nodup_of_mapPages hs'

/-- The PASID was there, and the pages were unmapped in the order of the list. -/
theorem unmapPages_eq_ok {c c' : Controller} {id : StreamId} {pasid : Pasid} {as : List UInt64}
    (h : c.unmapPages id pasid as = .ok c') :
    ∃ s t, c.streams[id]? = some s ∧ s.pasids[pasid]? = some t ∧
      c' = ((c.setStream (s.setPasidTable pasid (as.foldl PageTable.unmap t))).invalidatePasid id
        pasid).1 := by
  rw [unmapPages] at h
  split at h
  · cases h
  · rename_i s hs
    split at h
    · cases h
    · rename_i s' hs'
      obtain ⟨t, ht, rfl⟩ := Stream.unmapPages_eq_ok hs'
      exact ⟨s, t, stream_eq_ok_iff.1 hs, ht, (Except.ok.inj h).symm⟩

/-- The shared table is replaced, and the cache is not asked about it. -/
theorem editTable_eq_ok {c c' : Controller} {id : TableId} {op : PageTable.Op} {b : Bool}
    (h : c.editTable id op = .ok (c', b)) :
    c' = { c with resources := c.resources.setTable id ((c.resources.table id).edit op) } := by
  rw [editTable] at h
  split at h
  · cases h
  · rename_i t answer ht
    rw [PageTable.edit, ht]
    exact (Prod.mk.inj (Except.ok.inj h)).1.symm

/-! ## Configurations -/

/-- The configuration is valid, and each queue took its new size. -/
theorem updateConfiguration_eq_ok {c c' : Controller} {new : Configuration} {found : StreamId}
    (h : c.updateConfiguration new found = .ok c') :
    new.Valid ∧ ∃ events commands pageRequests,
      c.events.resizeTo .event new.queues.events.toNat = .ok events ∧
      c.commands.resizeTo .command new.queues.commands.toNat = .ok commands ∧
      c.pageRequests.resizeTo .pageRequest new.queues.pageRequests.toNat = .ok pageRequests ∧
      c' = c.adopt new events commands pageRequests := by
  rw [updateConfiguration] at h
  split at h
  · cases h
  · rename_i hp
    refine ⟨Configuration.problem?_eq_none.1 hp, ?_⟩
    split at h
    · cases h
    · split at h
      · cases h
      · cases he : c.events.resizeTo .event new.queues.events.toNat with
        | error e => rw [he] at h; cases h
        | ok events =>
          cases hcmd : c.commands.resizeTo .command new.queues.commands.toNat with
          | error e => rw [he, hcmd] at h; cases h
          | ok commands =>
            cases hpr : c.pageRequests.resizeTo .pageRequest
                new.queues.pageRequests.toNat with
            | error e => rw [he, hcmd, hpr] at h; cases h
            | ok pageRequests =>
              rw [he, hcmd, hpr] at h
              exact ⟨events, commands, pageRequests, rfl, rfl, rfl, (Except.ok.inj h).symm⟩

end Iommu.Controller
