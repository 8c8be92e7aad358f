/-
  Who can still release a stalled transaction.

  A stalled transaction waits for its page: for the page request that it queued, or for the response
  that answers the request once it was taken off.  `Answerable` says that every stalled transaction has
  one of the two.  A request turns into a response when requests are processed, a response is gone
  only after it has released its page, and discarding requests terminates what waits on them; each
  step lemma below is one of these exchanges.  That a response releases at all rests on the stream
  being configured, hence on `Hosted`.

  Discarding the queued commands is the exception: it drops responses and releases nothing.  A run
  keeps every stalled transaction answerable exactly when, each time commands are discarded, what is
  stalled still has its request queued (`answerable_iff`).
-/
import Iommu.Proofs.Stall.Lifecycle

namespace Iommu

/-- The request is for the page of a transaction. -/
def PageRequest.AsksFor (r : PageRequest) (t : Transaction) : Prop :=
  r.stream = t.stream ∧ r.pasid = t.pasid ∧ pageBase r.address = pageBase t.address

instance (r : PageRequest) (t : Transaction) : Decidable (r.AsksFor t) :=
  inferInstanceAs (Decidable (_ ∧ _))

/-- The command is the response to a request for the page of a transaction. -/
def Command.RespondsTo (cmd : Command) (t : Transaction) : Prop :=
  cmd.kind = .priResp ∧ cmd.stream = t.stream ∧ cmd.pasid = t.pasid ∧
    pageBase cmd.start = pageBase t.address

instance (cmd : Command) (t : Transaction) : Decidable (cmd.RespondsTo t) :=
  inferInstanceAs (Decidable (_ ∧ _))

/-- Two transactions are about the same page of the same PASID. -/
def Transaction.SharesPage (t u : Transaction) : Prop :=
  t.stream = u.stream ∧ t.pasid = u.pasid ∧ pageBase t.address = pageBase u.address

/-- A release of a single page selects the transactions of that page. -/
theorem StallTable.inRange_ofPage {id : StreamId} {pasid : Pasid} {a : UInt64} {t : Transaction} :
    inRange id pasid (.ofPage a) t = true ↔
      id = t.stream ∧ pasid = t.pasid ∧ pageBase a = pageBase t.address := by
  simp only [inRange, PageRange.ofPage_selects, Bool.and_eq_true, decide_eq_true_eq, beq_iff_eq]
  constructor
  · rintro ⟨⟨hs, hp⟩, ha⟩
    exact ⟨hs.symm, hp.symm, ha.symm⟩
  · rintro ⟨hs, hp, ha⟩
    exact ⟨⟨hs.symm, hp.symm⟩, ha.symm⟩

theorem Queue.mem_push {α : Type} {q : Queue α} {a b : α} (h : b ∈ q.entries) :
    b ∈ (q.push a).entries := by
  unfold push
  split
  · exact h
  · exact List.mem_append_left _ h

/-- Entries offered to another queue until it is full: none is lost, in either queue. -/
theorem Queue.mem_offer_push {α β : Type} (f : α → β) (as : List α) (q : Queue β) :
    (∀ a ∈ as, a ∈ (offer (fun q a => (!q.isFull, q.push (f a))) q as).2.1 ∨
      f a ∈ (offer (fun q a => (!q.isFull, q.push (f a))) q as).2.2.entries) ∧
    ∀ b ∈ q.entries, b ∈ (offer (fun q a => (!q.isFull, q.push (f a))) q as).2.2.entries := by
  induction as generalizing q with
  | nil => exact ⟨nofun, fun b hb => hb⟩
  | cons a as ih =>
    rw [offer]
    cases hf : q.isFull with
    | true => exact ⟨fun x hx => Or.inl hx, fun b hb => mem_push hb⟩
    | false =>
      obtain ⟨hkept, hold⟩ := ih (q.push (f a))
      refine ⟨fun x hx => ?_, fun b hb => hold b (mem_push hb)⟩
      rcases List.mem_cons.1 hx with rfl | hx
      · -- the entry offered now is the newest of the receiver
        refine Or.inr (hold _ ?_)
        rw [push_of_not_isFull hf]
        exact List.mem_append_right _ (List.mem_singleton.2 rfl)
      · exact hkept x hx

namespace Controller

namespace Waiting

/-- A request for the page of a transaction is queued. -/
def Requested (w : Waiting) (t : Transaction) : Prop := ∃ r ∈ w.requests, r.AsksFor t

/-- A response to a request for the page of a transaction is queued. -/
def Responded (w : Waiting) (t : Transaction) : Prop := ∃ cmd ∈ w.commands, cmd.RespondsTo t

/-- A request for the page of a transaction is queued, or the response to one. -/
def Awaits (w : Waiting) (t : Transaction) : Prop := w.Requested t ∨ w.Responded t

/-- Every stalled transaction has a page request queued, or the response to one. -/
def Answerable (w : Waiting) : Prop :=
  ∀ x ∈ w.stalls, w.Requested x.transaction ∨ w.Responded x.transaction

instance (w : Waiting) : Decidable w.Answerable :=
  inferInstanceAs (Decidable (∀ x ∈ w.stalls, (∃ r ∈ w.requests, r.AsksFor x.transaction) ∨
    ∃ cmd ∈ w.commands, cmd.RespondsTo x.transaction))

/-- Stalls only leave, requests and commands only come. -/
theorem Answerable.mono {w w' : Waiting} (h : w.Answerable) (hs : ∀ x ∈ w'.stalls, x ∈ w.stalls)
    (hr : ∀ r ∈ w.requests, r ∈ w'.requests) (hcmd : ∀ cmd ∈ w.commands, cmd ∈ w'.commands) :
    w'.Answerable := by
  intro x hx
  rcases h x (hs x hx) with ⟨r, hmem, ha⟩ | ⟨cmd, hmem, ha⟩
  · exact Or.inl ⟨r, hr r hmem, ha⟩
  · exact Or.inr ⟨cmd, hcmd cmd hmem, ha⟩

end Waiting

variable {c c' : Controller}

/-! ## Exchanges -/

/-- A transaction that stalls brings its request with it. -/
theorem Arrival.answerable {t : Transaction} {held : Bool} {w : Waiting}
    (harrival : Arrival c t held w) (h : c.waiting.Answerable) : w.Answerable := by
  cases harrival with
  | served => exact h
  | overflowed _ => exact h
  | recorded _ _ =>
    intro x hx
    rcases List.mem_append.1 hx with hx | hx
    · rcases h x hx with ⟨r, hmem, ha⟩ | hresp
      · exact Or.inl ⟨r, List.mem_append_left _ hmem, ha⟩
      · exact Or.inr hresp
    · obtain rfl := List.mem_singleton.1 hx
      refine Or.inl ⟨{ PageRequest.ofTransaction t with timestamp := c.stamp }, ?_, rfl, rfl, rfl⟩
      exact List.mem_append_right _ (List.mem_singleton.2 rfl)

/-- A request that is taken off leaves its response. -/
theorem awaits_processPageRequests {t : Transaction} (h : c.waiting.Awaits t) :
    c.processPageRequests.1.waiting.Awaits t := by
  obtain ⟨hrequests, hcommands⟩ :=
    Queue.mem_offer_push c.response c.pageRequests.entries c.commands
  rcases h with ⟨r, hmem, ha⟩ | ⟨cmd, hmem, ha⟩
  · rcases hrequests r hmem with hleft | hsent
    · exact Or.inl ⟨r, hleft, ha⟩
    · exact Or.inr ⟨c.response r, hsent, rfl, ha⟩
  · exact Or.inr ⟨cmd, hcommands cmd hmem, ha⟩

/-- Requests that are discarded take along what waits on them. -/
theorem answerable_clearPageRequests (h : c.waiting.Answerable) :
    c.clearPageRequests.1.waiting.Answerable := by
  -- along the discarded requests: what is left waits for none of those seen so far
  have hfold : ∀ (rs : List PageRequest) (d : Controller),
      (rs.foldl terminateRequest d).commands = d.commands ∧
      ∀ x ∈ (rs.foldl terminateRequest d).stalls.stalls,
        x ∈ d.stalls.stalls ∧ ∀ r ∈ rs, ¬r.AsksFor x.transaction := by
    intro rs
    induction rs with
    | nil => exact fun d => ⟨rfl, fun x hx => ⟨hx, nofun⟩⟩
    | cons r rs ih =>
      intro d
      obtain ⟨hcommands, hgone⟩ := ih (d.terminateRequest r)
      refine ⟨hcommands, fun x hx => ?_⟩
      obtain ⟨hmem, hrest⟩ := hgone x hx
      obtain ⟨hmem', hsel⟩ := List.mem_filter.1 hmem
      refine ⟨hmem', fun r' hr' ha => ?_⟩
      rcases List.mem_cons.1 hr' with rfl | hr'
      · rw [StallTable.inRange_ofPage.2 ha] at hsel
        cases hsel
      · exact hrest r' hr' ha
  obtain ⟨hcommands, hgone⟩ :=
    hfold c.pageRequests.entries { c with pageRequests := c.pageRequests.clear }
  intro x hx
  obtain ⟨hmem, hnone⟩ := hgone x hx
  rcases h x hmem with ⟨r, hr, ha⟩ | ⟨cmd, hcmd, ha⟩
  · exact absurd ha (hnone r hr)
  · refine Or.inr ⟨cmd, ?_, ha⟩
    show cmd ∈ (List.foldl terminateRequest _ _).commands.entries
    rw [hcommands]
    exact hcmd

/-- A response that leaves the queue has released its page. -/
theorem awaits_runFront {t : Transaction} (h : c.waiting.Awaits t) (hh : c.Hosts t.stream t.pasid)
    {cmd : Command} {rest : List Command} (he : c.commands.entries = cmd :: rest)
    {report report' : CommandReport} (hf : c.runFront cmd report = some (c', report')) :
    c'.waiting.Awaits t ∨ ∀ x ∈ c'.stalls.stalls, ¬x.transaction.SharesPage t := by
  have hfront : c.waiting.commands = cmd :: rest := he
  have hrequests : c'.waiting.requests = c.waiting.requests := by
    obtain ⟨-, hw⟩ | ⟨range, -, hw⟩ := waiting_runFront hf <;> rw [hw] <;> rfl
  have hcommands : c'.waiting.commands = rest := by
    obtain ⟨-, hw⟩ | ⟨range, -, hw⟩ := waiting_runFront hf <;> rw [hw] <;>
      exact congrArg List.tail hfront
  rcases h with ⟨r, hr, ha⟩ | ⟨cmd', hmem, ha⟩
  · exact Or.inl (Or.inl ⟨r, hrequests ▸ hr, ha⟩)
  rw [hfront, List.mem_cons] at hmem
  rcases hmem with rfl | hmem
  · -- the response is in front, so it runs now and takes along what waits for its page
    obtain ⟨hkind, hstream, hpasid, hpage⟩ := ha
    have hrange : releaseRange? cmd' = some (.ofPage cmd'.start) := by rw [releaseRange?, hkind]
    refine Or.inr fun x hx hshares => ?_
    obtain ⟨hnone, -⟩ | ⟨range, hsome, hw⟩ := waiting_runFront hf
    · rcases hnone with hnone | hnone
      · rw [hrange] at hnone
        cases hnone
      · obtain ⟨s, hs, -⟩ := hh
        rw [← hstream, hnone] at hs
        cases hs
    · obtain rfl : PageRange.ofPage cmd'.start = range := Option.some.inj (hrange.symm.trans hsome)
      have hx' : x ∈ c'.waiting.stalls := hx
      rw [hw] at hx'
      obtain ⟨hxs, hxp, hxa⟩ := hshares
      have hgone := (List.mem_filter.1 hx').2
      rw [StallTable.inRange_ofPage.2 ⟨hstream.trans hxs.symm, hpasid.trans hxp.symm,
        hpage.trans hxa.symm⟩] at hgone
      cases hgone
  · exact Or.inl (Or.inr ⟨cmd', hcommands ▸ hmem, ha⟩)

/-- So what is still stalled then has its request or its response queued. -/
theorem answerable_runFront (h : c.waiting.Answerable) (hh : c.Hosted) {cmd : Command}
    {rest : List Command} (he : c.commands.entries = cmd :: rest) {report report' : CommandReport}
    (hf : c.runFront cmd report = some (c', report')) : c'.waiting.Answerable := by
  intro x hx
  have hmem : x ∈ c.stalls.stalls := ((settles_runFront hf).kept x hx).1
  rcases awaits_runFront (h x hmem) (hh x hmem) he hf with hawaits | hnone
  · exact hawaits
  · exact absurd ⟨rfl, rfl, rfl⟩ (hnone x hx)

/-- A submitted request joins the queue under the controller's stamp, and nothing else waits
    differently. -/
theorem waiting_submitPageRequest (c : Controller) (r : PageRequest) :
    (c.submitPageRequest r).1.waiting = { c.waiting with
      requests := (c.pageRequests.push { r with timestamp := c.stamp }).entries } := by
  rw [submitPageRequest, Queue.submit]
  split
  · rename_i q hq
    rw [← (Prod.mk.inj hq).1]
    rfl
  · rename_i q e hq
    rw [← (Prod.mk.inj hq).1]
    rfl

/-- Every operation but the one that discards commands keeps what is stalled answerable. -/
theorem answerable_step (h : c.waiting.Answerable) (hw : c.WellFormed) (hh : c.Hosted) {op : Op}
    (hop : op ≠ .clearCommands) : (c.step op).1.waiting.Answerable := by
  cases op with
  | removeStream id =>
    refine settle_preserves (P := fun d => d.waiting.Answerable) h fun c' hc => ?_
    obtain ⟨s, -, rfl⟩ := removeStream_eq_ok hc
    exact h.mono (fun x hx => (List.mem_filter.1 hx).1) (fun r hr => hr) (fun cmd hcmd => hcmd)
  | removePasid id pasid =>
    refine settle_preserves (P := fun d => d.waiting.Answerable) h fun c' hc => ?_
    obtain ⟨s, -, rfl⟩ := removePasid_eq_ok hc
    exact h.mono (fun x hx => (List.mem_filter.1 hx).1) (fun r hr => hr) (fun cmd hcmd => hcmd)
  | clearPasids id =>
    refine settle_preserves (P := fun d => d.waiting.Answerable) h fun c' hc => ?_
    obtain ⟨s, -, rfl⟩ := clearPasids_eq_ok hc
    exact h.mono (fun x hx => (List.mem_filter.1 hx).1) (fun r hr => hr) (fun cmd hcmd => hcmd)
  | translate t => exact (waiting_translate c t).answerable h
  | submitCommand cmd =>
    exact h.mono (fun x hx => hx) (fun r hr => hr) (fun cmd hcmd => Queue.mem_push hcmd)
  | processCommands =>
    exact (processCommands_preserves (P := fun d => d.waiting.Answerable ∧ d.Hosted)
      (fun d d' cmd rest report report' he hf hd =>
        ⟨answerable_runFront hd.1 hd.2 he hf, (settles_runFront hf).hosted hd.2⟩)
      (fun d hd => hd) ⟨h, hh⟩).1
  | clearCommands => exact absurd rfl hop
  | submitPageRequest r =>
    rw [step, waiting_submitPageRequest]
    exact h.mono (fun x hx => hx) (fun r hr => Queue.mem_push hr) (fun cmd hcmd => hcmd)
  | processPageRequests => exact fun x hx => awaits_processPageRequests (h x hx)
  | clearPageRequests => exact answerable_clearPageRequests h
  | resetStatistics => exact h.mono (fun x hx => hx) (fun r hr => hr) (fun cmd hcmd => hcmd)
  | reset => exact nofun
  | _ =>
    rw [(idle_step hw rfl).waiting]
    exact h

/-! ## Runs -/

/-- Discarding the queued commands keeps what is stalled answerable only by requests. -/
theorem answerable_clearCommands_iff : c.clearCommands.1.waiting.Answerable ↔
    ∀ x ∈ c.stalls.stalls, c.waiting.Requested x.transaction := by
  constructor
  · intro h x hx
    rcases h x hx with hreq | ⟨cmd, hmem, -⟩
    · exact hreq
    · cases hmem
  · exact fun h x hx => Or.inl (h x hx)

/-- No stalled transaction outlives its page request and the response to it, at any point of a run,
    exactly when each time the queued commands are discarded everything stalled has its request
    queued. -/
theorem answerable_iff {config : Configuration} (h : create config = .ok c) (ops : List Op) :
    (∀ n, (c.run (ops.take n)).1.waiting.Answerable) ↔
      ∀ n, ops[n]? = some .clearCommands → ∀ x ∈ (c.run (ops.take n)).1.stalls.stalls,
        (c.run (ops.take n)).1.waiting.Requested x.transaction := by
  constructor
  · intro hall n hop
    have hnext := hall (n + 1)
    rw [run_take_succ hop] at hnext
    exact answerable_clearCommands_iff.1 hnext
  · intro hclear n
    have hw := wellFormed_of_create h
    have hhosted := fun n => hosted_run h (ops.take n)
    have hstart : c.waiting.Answerable := by
      obtain ⟨-, rfl⟩ := create_eq_ok h
      exact nofun
    refine run_take_preserves (P := fun d => d.waiting.Answerable) hstart ?_ n
    intro n op hop hanswerable
    by_cases hc : op = .clearCommands
    · subst hc
      exact answerable_clearCommands_iff.2 (hclear n hop)
    · exact answerable_step hanswerable (hw.run _) (hhosted n) hc

/-- Requests are answered as soon as they come and no command is discarded before it ran. -/
theorem answerable_iff_discarded_after_run :
    let c := start {} [] [] .empty 0
    let ops : List Op := [.configure 1 { faultMode := .stall }, .createPasid 1 0,
      .translate ⟨1, 0, 0x1000, .read, .nonSecure⟩, .processPageRequests, .processCommands,
      .clearCommands]
    create {} = .ok c ∧ ((∀ n, (c.run (ops.take n)).1.waiting.Answerable) ↔
      ∀ n, ops[n]? = some .clearCommands → ∀ x ∈ (c.run (ops.take n)).1.stalls.stalls,
        (c.run (ops.take n)).1.waiting.Requested x.transaction) := by
  intro c ops
  have hc : create {} = .ok c := rfl
  exact ⟨hc, answerable_iff hc ops⟩

/-- A response that is discarded leaves its transaction stalled without anything to release it. -/
theorem not_answerable_of_discarded_response :
    ¬((start {} [] [] .empty 0).run [.configure 1 { faultMode := .stall }, .createPasid 1 0,
      .translate ⟨1, 0, 0x1000, .read, .nonSecure⟩, .processPageRequests,
      .clearCommands]).1.waiting.Answerable := by
  decide +kernel

end Controller

end Iommu
