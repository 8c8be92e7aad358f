/-
  The life of a stalled transaction.

  A transaction is recorded as stalled by one operation, a call to translate, and leaves the table by
  being resumed or terminated, never both.  The books say so: what was resumed, what was terminated
  and what still waits add up to a `balance` that only a recording changes (`Settles`).  And whatever
  waits belongs to a stream that is configured and a PASID that exists (`Hosted`), because the
  operations that take a PASID or a stream away terminate what waits on it.

  Over a run that resets nothing the balance is therefore the number of stalls recorded, and the calls
  that were held back are those recorded and those that found the page request queue full
  (`balance_run`).
-/
import Iommu.Proofs.Stall.Waiting

namespace Iommu.Controller

/-- What was ever recorded as stalled, by what became of it. -/
def Waiting.balance (w : Waiting) : Nat := w.resumed + w.terminated + w.stalls.length

/-- Every stalled transaction names a configured stream and an existing PASID of it. -/
def Hosted (c : Controller) : Prop :=
  ∀ x ∈ c.stalls.stalls, c.Hosts x.transaction.stream x.transaction.pasid

/-- Whether an operation records a stall: the table gains the transaction at its end. -/
def records (c : Controller) : Op → Bool
  | .translate t => (c.step (.translate t)).1.stalls.stalls = c.stalls.stalls ++ [⟨t, c.stamp⟩]
  | _ => false

/-- Whether an operation is a call to translate that is held back. -/
def holdsBack (c : Controller) : Op → Bool
  | .translate t => c.heldBack t (c.translate t).2
  | _ => false

/-- How many operations of a run satisfy a condition, each in the state it starts from. -/
def tally (p : Controller → Op → Bool) (c : Controller) : List Op → Nat
  | [] => 0
  | op :: ops => (p c op).toNat + tally p (c.step op).1 ops

/-! ## Settling -/

/-- Nothing is recorded from one state to another, what leaves the table is counted, and what stays in
    it keeps its PASID. -/
structure Settles (c c' : Controller) : Prop where
  balance : c'.waiting.balance = c.waiting.balance
  overflows : c'.waiting.overflows = c.waiting.overflows
  kept : ∀ x ∈ c'.stalls.stalls, x ∈ c.stalls.stalls ∧
    (c.Hosts x.transaction.stream x.transaction.pasid →
      c'.Hosts x.transaction.stream x.transaction.pasid)

namespace Settles

variable {c c' c'' : Controller}

theorem refl (c : Controller) : Settles c c := ⟨rfl, rfl, fun _ hx => ⟨hx, fun h => h⟩⟩

theorem trans (h : Settles c c') (h' : Settles c' c'') : Settles c c'' := by
  refine ⟨h'.balance.trans h.balance, h'.overflows.trans h.overflows, fun x hx => ?_⟩
  obtain ⟨hmem, hhosts⟩ := h'.kept x hx
  obtain ⟨hmem', hhosts'⟩ := h.kept x hmem
  exact ⟨hmem', fun hh => hhosts (hhosts' hh)⟩

/-- Queues may change as they like. -/
theorem of_stalls (hs : c'.stalls = c.stalls)
    (hw : ∃ requests commands, c'.waiting = { c.waiting with requests, commands })
    (hhosts : ∀ id pasid, c.Hosts id pasid → c'.Hosts id pasid) : Settles c c' := by
  obtain ⟨requests, commands, hw⟩ := hw
  refine ⟨by rw [hw]; rfl, by rw [hw], fun x hx => ⟨?_, hhosts _ _⟩⟩
  rwa [hs] at hx

/-- An idle step is one that takes nothing from the table. -/
theorem of_idle (h : Idle c c') : Settles c c' := by
  have hstalls : c'.waiting.stalls = c.waiting.stalls := congrArg Waiting.stalls h.waiting
  refine ⟨by rw [h.waiting], by rw [h.waiting], fun x hx => ⟨?_, h.hosts _ _⟩⟩
  rwa [show c'.stalls.stalls = c.stalls.stalls from hstalls] at hx

/-- A release, whichever counter it goes to. -/
theorem of_release {p : Transaction → Bool}
    (hs : c'.stalls = (c.stalls.release p).1)
    (hcount : c'.waiting.resumed + c'.waiting.terminated =
      c.waiting.resumed + c.waiting.terminated + (c.stalls.release p).2)
    (hover : c'.waiting.overflows = c.waiting.overflows)
    (hhosts : ∀ x, p x = false → c.Hosts x.stream x.pasid → c'.Hosts x.stream x.pasid) :
    Settles c c' := by
  refine ⟨?_, hover, fun x hx => ?_⟩
  · have hlength := c.stalls.release_length p
    rw [← hs] at hlength
    have hsize : c'.waiting.stalls.length = c'.stalls.size := rfl
    have hsize' : c.waiting.stalls.length = c.stalls.size := rfl
    rw [Waiting.balance, Waiting.balance, hsize, hsize']
    omega
  · rw [hs] at hx
    obtain ⟨hmem, hsel⟩ := List.mem_filter.1 hx
    exact ⟨hmem, hhosts x.transaction (by simpa using hsel)⟩

/-- What settling leaves in the table is hosted as before. -/
theorem hosted (h : Settles c c') (hc : c.Hosted) : c'.Hosted := by
  intro x hx
  obtain ⟨hmem, hhosts⟩ := h.kept x hx
  exact hhosts (hc x hmem)

end Settles

/-- A resume lets go the transactions of its range. -/
theorem settles_resume (c : Controller) (id : StreamId) (pasid : Pasid) (range : PageRange) :
    Settles c (c.resume id pasid range) := by
  refine .of_release (p := StallTable.inRange id pasid range) rfl ?_ rfl fun _ _ h => h
  show c.waiting.resumed + _ + c.waiting.terminated = c.waiting.resumed + c.waiting.terminated + _
  exact Nat.add_right_comm ..

/-- Terminating a request lets go the transactions of its page. -/
theorem settles_terminateRequest (c : Controller) (r : PageRequest) :
    Settles c (c.terminateRequest r) := by
  refine .of_release (p := StallTable.inRange r.stream r.pasid (.ofPage r.address)) rfl ?_
    rfl fun _ _ h => h
  exact (Nat.add_assoc ..).symm

/-- Clearing the page requests lets go what they asked for. -/
theorem settles_clearPageRequests (c : Controller) : Settles c c.clearPageRequests.1 := by
  have hfold : ∀ (rs : List PageRequest) (d : Controller), Settles c d →
      Settles c (rs.foldl terminateRequest d) := by
    intro rs
    induction rs with
    | nil => exact fun _ h => h
    | cons r rs ih => exact fun d h => ih _ (h.trans (settles_terminateRequest d r))
  exact hfold c.pageRequests.entries _ (.of_stalls rfl ⟨[], _, rfl⟩ fun _ _ h => h)

/-- Every command at the front of the queue settles. -/
theorem settles_runFront {c c' : Controller} {cmd : Command} {report report' : CommandReport}
    (h : c.runFront cmd report = some (c', report')) : Settles c c' := by
  have hstreams := streams_runFront h
  -- releasing and leaving the queue, each of which settles
  have hcongr : ∀ d : Controller, d.streams = c.streams → c'.waiting = d.waiting →
      Settles c d → Settles c c' := by
    intro d hd hw hsettles
    exact hsettles.trans (.of_idle ⟨hw, fun _ _ hh => hh.congr (hstreams.trans hd.symm)⟩)
  obtain ⟨-, hw⟩ | ⟨range, -, hw⟩ := waiting_runFront h
  · exact hcongr c.consume rfl hw (.of_stalls rfl ⟨_, _, rfl⟩ fun _ _ hh => hh)
  · have hsettles := settles_resume c cmd.stream cmd.pasid range
    exact hcongr (c.resume cmd.stream cmd.pasid range).consume rfl hw
      (hsettles.trans (.of_stalls rfl ⟨_, _, rfl⟩ fun _ _ hh => hh))

/-- Every operation settles, but for calls to translate and the two that reset. -/
theorem settles_step {c : Controller} (hw : c.WellFormed) {op : Op}
    (htranslate : ∀ t, op ≠ .translate t) (hstat : op ≠ .resetStatistics) (hreset : op ≠ .reset) :
    Settles c (c.step op).1 := by
  have hsettle : ∀ r : Except Error Controller, (∀ c', r = .ok c' → Settles c c') →
      Settles c (c.settle r).1 := fun _ h => settle_preserves (.refl c) h
  cases op with
  | removeStream id =>
    refine hsettle _ fun c' hc => ?_
    obtain ⟨s, hs, rfl⟩ := removeStream_eq_ok hc
    refine .of_release (p := fun x => x.stream = id) rfl (Nat.add_assoc ..).symm rfl ?_
    intro x hx ⟨s₀, hs₀, hp⟩
    have hne : id ≠ x.stream := fun he => by simp [he] at hx
    refine ⟨s₀, ?_, hp⟩
    show (c.streams.erase id)[x.stream]? = some s₀
    rw [Std.ExtTreeMap.getElem?_erase, if_neg (by simpa using hne), hs₀]
  | removePasid id pasid =>
    refine hsettle _ fun c' hc => ?_
    obtain ⟨s, hs, rfl⟩ := removePasid_eq_ok hc
    refine .of_release (p := fun x => x.stream = id && x.pasid = pasid) rfl
      (Nat.add_assoc ..).symm rfl fun x hx h => ?_
    refine (h.setStream hs { s with pasids := s.pasids.erase pasid } (hw.keyed id s hs)
      fun he hp => ?_).congr rfl
    have hne : pasid ≠ x.pasid := fun hpe => by simp [he, hpe] at hx
    show (s.pasids.erase pasid).contains x.pasid = true
    rw [Std.ExtTreeMap.contains_erase, Bool.and_eq_true]
    exact ⟨by simpa using hne, hp⟩
  | clearPasids id =>
    refine hsettle _ fun c' hc => ?_
    obtain ⟨s, hs, rfl⟩ := clearPasids_eq_ok hc
    refine .of_release (p := fun x => x.stream = id) rfl (Nat.add_assoc ..).symm rfl ?_
    intro x hx h
    refine (h.setStream hs s.clearPasids (hw.keyed id s hs) fun he _ => ?_).congr rfl
    simp [he] at hx
  | translate t => exact absurd rfl (htranslate t)
  | submitCommand cmd => exact .of_stalls rfl ⟨_, _, rfl⟩ fun _ _ h => h
  | processCommands =>
    exact processCommands_preserves (P := Settles c)
      (fun _ _ _ _ _ _ _ hf h => h.trans (settles_runFront hf))
      (fun _ h => h.trans (.of_stalls rfl ⟨_, _, rfl⟩ fun _ _ h => h)) (.refl c)
  | clearCommands => exact .of_stalls rfl ⟨_, _, rfl⟩ fun _ _ h => h
  | submitPageRequest r =>
    show Settles c (c.submitPageRequest r).1
    unfold submitPageRequest
    split <;> exact .of_stalls rfl ⟨_, _, rfl⟩ fun _ _ h => h
  | processPageRequests => exact .of_stalls rfl ⟨_, _, rfl⟩ fun _ _ h => h
  | clearPageRequests => exact settles_clearPageRequests c
  | resetStatistics => exact absurd rfl hstat
  | reset => exact absurd rfl hreset
  | _ => exact .of_idle (idle_step hw rfl)

/-! ## Hosting -/

/-- A transaction stalls only in a context the controller has. -/
theorem hosted_translate {c : Controller} (hw : c.WellFormed) (h : c.Hosted) (t : Transaction) :
    (c.translate t).1.Hosted := by
  have harrival := waiting_translate c t
  generalize c.heldBack t (c.translate t).2 = held at harrival
  intro x hx
  have hx' : x ∈ (c.translate t).1.waiting.stalls := hx
  have hhosts : c.Hosts x.transaction.stream x.transaction.pasid := by
    generalize (c.translate t).1.waiting = w at harrival hx'
    cases harrival with
    | served => exact h x hx'
    | overflowed _ => exact h x hx'
    | recorded _ hhost =>
      rcases List.mem_append.1 hx' with hx' | hx'
      · exact h x hx'
      · rw [List.mem_singleton.1 hx']
        exact hhost
  exact (kept_hosts _ _).translate hw hhosts t

/-- Every operation keeps the stalled transactions hosted. -/
theorem hosted_step {c : Controller} (hw : c.WellFormed) (h : c.Hosted) (op : Op) :
    (c.step op).1.Hosted := by
  by_cases htranslate : ∃ t, op = .translate t
  · obtain ⟨t, rfl⟩ := htranslate
    exact hosted_translate hw h t
  by_cases hstat : op = .resetStatistics
  · subst hstat
    intro x hx
    exact (Hosts.mapStreams (f := Stream.resetStatistics) (h x hx) fun _ => rfl).congr rfl
  by_cases hreset : op = .reset
  · subst hreset
    intro x hx
    cases hx
  exact (settles_step hw (fun t ht => htranslate ⟨t, ht⟩) hstat hreset).hosted h

/-- In every reachable state each stalled transaction has its stream and PASID. -/
theorem hosted_run {config : Configuration} {c : Controller} (h : create config = .ok c)
    (ops : List Op) : (c.run ops).1.Hosted := by
  have hstart : c.Hosted := by
    obtain ⟨-, rfl⟩ := create_eq_ok h
    intro x hx
    cases hx
  exact (run_preserves (P := fun c => c.WellFormed ∧ c.Hosted)
    (fun _ op hc => ⟨hc.1.step op, hosted_step hc.1 hc.2 op⟩)
    ⟨wellFormed_of_create h, hstart⟩ ops).2

/-! ## Books -/

/-- A call that leaves the stall table as it was records no stall. -/
theorem records_of_stalls_eq {c : Controller} {t : Transaction}
    (h : (c.translate t).1.stalls.stalls = c.stalls.stalls) :
    c.records (.translate t) = false := by
  refine decide_eq_false fun hadd => ?_
  have hlength := congrArg List.length (h.symm.trans hadd)
  rw [List.length_append, List.length_singleton] at hlength
  omega

/-- What one operation adds to the books. -/
theorem balance_step {c : Controller} (hw : c.WellFormed) {op : Op}
    (hstat : op ≠ .resetStatistics) (hreset : op ≠ .reset) :
    (c.step op).1.waiting.balance = c.waiting.balance + (c.records op).toNat ∧
      (c.records op).toNat + (c.step op).1.waiting.overflows =
        (c.holdsBack op).toNat + c.waiting.overflows := by
  by_cases htranslate : ∃ t, op = .translate t
  · obtain ⟨t, rfl⟩ := htranslate
    have harrival := waiting_translate c t
    show (c.translate t).1.waiting.balance = _ ∧ _ + (c.translate t).1.waiting.overflows =
      (c.heldBack t (c.translate t).2).toNat + _
    generalize c.heldBack t (c.translate t).2 = held at harrival ⊢
    have hstalls : (c.translate t).1.waiting.stalls = (c.translate t).1.stalls.stalls := rfl
    have hrecords : c.records (.translate t) =
        decide ((c.translate t).1.stalls.stalls = c.stalls.stalls ++ [⟨t, c.stamp⟩]) := rfl
    generalize (c.translate t).1.waiting = w at harrival hstalls ⊢
    cases harrival with
    | served =>
      rw [records_of_stalls_eq hstalls.symm]
      exact ⟨rfl, rfl⟩
    | overflowed _ =>
      rw [records_of_stalls_eq hstalls.symm]
      exact ⟨rfl, by simp [Nat.add_comm]⟩
    | recorded _ _ =>
      have htrue : c.records (.translate t) = true :=
        hrecords.trans (decide_eq_true hstalls.symm)
      rw [htrue]
      refine ⟨?_, rfl⟩
      simp only [Waiting.balance, List.length_append, List.length_singleton, Bool.toNat_true]
      omega
  · -- nothing but a call to translate is recorded or held back
    have hsettles := settles_step hw (fun t ht => htranslate ⟨t, ht⟩) hstat hreset
    have hnone : c.records op = false ∧ c.holdsBack op = false := by
      cases op with
      | translate t => exact absurd ⟨t, rfl⟩ htranslate
      | _ => exact ⟨rfl, rfl⟩
    rw [hnone.1, hnone.2, hsettles.balance, hsettles.overflows]
    exact ⟨rfl, rfl⟩

/-- What a run that resets nothing adds to the books. -/
theorem balance_run {c : Controller} (hw : c.WellFormed) {ops : List Op}
    (hstat : .resetStatistics ∉ ops) (hreset : .reset ∉ ops) :
    (c.run ops).1.waiting.balance = c.waiting.balance + tally records c ops ∧
      tally records c ops + (c.run ops).1.waiting.overflows =
        tally holdsBack c ops + c.waiting.overflows := by
  induction ops generalizing c with
  | nil => exact ⟨rfl, rfl⟩
  | cons op ops ih =>
    rw [List.mem_cons, not_or] at hstat hreset
    obtain ⟨hbalance, hoverflows⟩ := balance_step hw (Ne.symm hstat.1) (Ne.symm hreset.1)
    obtain ⟨ihbalance, ihoverflows⟩ := ih (hw.step op) hstat.2 hreset.2
    rw [run_cons, tally, tally]
    omega

/-- The books of a new controller, and of one just reset, are empty. -/
theorem balance_fresh {config : Configuration} {c : Controller} (h : create config = .ok c)
    {ops : List Op} (hops : ops = [] ∨ ops.getLast? = some .reset) :
    (c.run ops).1.waiting.balance = 0 ∧ (c.run ops).1.waiting.overflows = 0 := by
  obtain ⟨-, rfl⟩ := create_eq_ok h
  rcases hops with rfl | hlast
  · exact ⟨rfl, rfl⟩
  · -- whatever came before, a reset leaves the empty books
    rw [← List.dropLast_append_getLast? _ hlast, run_append]
    exact ⟨rfl, rfl⟩

/-- In every reachable state each stalled transaction has its stream and PASID.  Since construction or
    the last reset, if statistics were not reset, every stall recorded was resumed, was terminated or
    still waits, and every call held back was recorded or found the page request queue full. -/
theorem stall_lifecycle {config : Configuration} {c : Controller} (h : create config = .ok c)
    (ops : List Op) :
    (c.run ops).1.Hosted ∧
    ∀ before after, ops = before ++ after → (before = [] ∨ before.getLast? = some .reset) →
      .reset ∉ after → .resetStatistics ∉ after →
      tally records (c.run before).1 after =
        (c.run ops).1.counters.stallsResumed + (c.run ops).1.counters.stallsTerminated +
          (c.run ops).1.stalls.size ∧
      tally records (c.run before).1 after + (c.run ops).1.counters.pageOverflows =
        tally holdsBack (c.run before).1 after := by
  refine ⟨hosted_run h ops, ?_⟩
  rintro before after rfl hfresh hreset hstat
  have hw := (wellFormed_of_create h).run before
  obtain ⟨hbalance, hoverflows⟩ := balance_run hw hstat hreset
  obtain ⟨hbalance₀, hoverflows₀⟩ := balance_fresh h hfresh
  rw [run_append]
  constructor
  · exact ((Nat.zero_add _).symm.trans (hbalance₀ ▸ hbalance.symm))
  · rw [hoverflows₀] at hoverflows
    exact hoverflows

/-- After a reset two transactions stall; a command resumes one and the other goes with its PASID. -/
theorem stall_lifecycle_resumed_and_terminated :
    let c := start {} [] [] .empty 0
    let ask (a : UInt64) : Op := .translate ⟨1, 0, a, .read, .nonSecure⟩
    let after : List Op := [.configure 1 { faultMode := .stall }, .createPasid 1 0, ask 0x1000,
      ask 0x5000, .submitCommand (.resume 1 0 0x1000 0x2000), .processCommands, .removePasid 1 0]
    let ops := [.reset] ++ after
    create {} = .ok c ∧ .reset ∉ after ∧ .resetStatistics ∉ after ∧
      (c.run ops).1.counters.stallsResumed = 1 ∧ (c.run ops).1.counters.stallsTerminated = 1 ∧
      (c.run ops).1.Hosted ∧
      tally records (c.run [.reset]).1 after =
        (c.run ops).1.counters.stallsResumed + (c.run ops).1.counters.stallsTerminated +
          (c.run ops).1.stalls.size ∧
      tally records (c.run [.reset]).1 after + (c.run ops).1.counters.pageOverflows =
        tally holdsBack (c.run [.reset]).1 after := by
  intro c ask after ops
  have hreset : .reset ∉ after := by simp [after, ask]
  have hstat : .resetStatistics ∉ after := by simp [after, ask]
  have hc : create {} = .ok c := rfl
  obtain ⟨hhosted, hbooks⟩ := stall_lifecycle hc ops
  exact ⟨hc, hreset, hstat, by decide +kernel, by decide +kernel, hhosted,
    hbooks [.reset] after rfl (Or.inr rfl) hreset hstat⟩

end Iommu.Controller
