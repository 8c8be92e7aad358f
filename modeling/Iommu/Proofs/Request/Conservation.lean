/-
  What becomes of page requests.

  Answering moves requests from one bounded queue to another.  Whatever fills the command queue, the
  oldest requests leave, as many as there is room for responses, and their responses are queued in the
  same order; the request whose response is refused stays where it was (`answersOldest`).

  Over a run the requests are conserved.  Two operations put requests into the queue, a call to
  translate that stalls and a submission from outside; two take them out, answering and discarding.
  `Moves` is the account of one operation: what was queued and what came is what went and what is queued
  now, and both the queue and the controller count what came.  Accounts add up (`Moves.trans`), so the
  account of a step (`moves_step`) is one of a run (`moves_run`).
-/
import Iommu.Proofs.Stall.Lifecycle
import Iommu.Proofs.Controller.Reach
import Iommu.Proofs.Queue.Bounded

namespace Iommu.Controller

/-! ## Answering -/

/-- How page requests are answered. -/
structure AnswersOldest (c : Controller) : Prop where
  /-- As many as are queued or as the command queue has room for, whichever is less. -/
  count : c.processPageRequests.2 = min c.pageRequests.size c.commands.room
  /-- The oldest requests leave, their responses come in the same order, and the first response
      refused is counted; nothing else changes. -/
  state : c.processPageRequests.1 =
    { c with
      pageRequests := { c.pageRequests with
        entries := c.pageRequests.entries.drop c.processPageRequests.2 }
      commands := { c.commands with
        entries := c.commands.entries ++
          (c.pageRequests.entries.take c.processPageRequests.2).map fun r =>
            { kind := .priResp, stream := r.stream, pasid := r.pasid, start := r.address,
              stop := r.address, timestamp := c.stamp }
        accepted := c.commands.accepted + c.processPageRequests.2
        rejected := c.commands.rejected +
          if c.processPageRequests.2 < c.pageRequests.size then 1 else 0 } }
  /-- Without room, calls answer nothing however often they are made: only refusals are counted. -/
  waits : c.commands.room = 0 → ∀ n,
    c.run (List.replicate n .processPageRequests) =
      ({ c with commands := { c.commands with
          rejected := c.commands.rejected + if 0 < c.pageRequests.size then n else 0 } },
        List.replicate n (.ok (.count 0)))

/-- As many responses are queued as there are requests and there is room for, and where room
    runs out the next one is refused and counted. -/
theorem processPageRequests_eq (c : Controller) : c.processPageRequests =
    let n := min c.pageRequests.size c.commands.room
    ({ c with
        pageRequests := { c.pageRequests with entries := c.pageRequests.entries.drop n }
        commands := { c.commands with
          entries := c.commands.entries ++ (c.pageRequests.entries.take n).map c.response
          accepted := c.commands.accepted + n
          rejected := c.commands.rejected + if n < c.pageRequests.size then 1 else 0 } },
      n) := by
  rw [processPageRequests, Queue.drainWhile, Queue.offer_push]
  rfl

/-- Without room for a response a call counts at most a refusal. -/
theorem processPageRequests_of_full {c : Controller} (h : c.commands.room = 0) :
    c.processPageRequests =
      ({ c with commands := { c.commands with
          rejected := c.commands.rejected + if 0 < c.pageRequests.size then 1 else 0 } }, 0) := by
  rw [processPageRequests_eq, h, Nat.min_zero]
  simp

theorem run_processPageRequests_of_full {c : Controller} (h : c.commands.room = 0) (n : Nat) :
    c.run (List.replicate n .processPageRequests) =
      ({ c with commands := { c.commands with
          rejected := c.commands.rejected + if 0 < c.pageRequests.size then n else 0 } },
        List.replicate n (.ok (.count 0))) := by
  induction n generalizing c with
  | zero =>
    rw [ite_self]
    rfl
  | succ n ih =>
    have hcall := processPageRequests_of_full h
    have hroom : c.processPageRequests.1.commands.room = 0 := by
      rw [hcall]
      exact h
    have hrest := ih hroom
    rw [hcall] at hrest
    rw [List.replicate_succ, List.replicate_succ, run]
    simp only [step, hcall, hrest, Prod.mk.injEq, and_true]
    split
    · rw [Nat.add_assoc, Nat.add_comm 1]
    · rfl

/-- The oldest requests are answered, in order. -/
theorem answersOldest (c : Controller) : c.AnswersOldest where
  count := by rw [processPageRequests_eq]
  state := by
    rw [processPageRequests_eq]
    rfl
  waits h n := run_processPageRequests_of_full h n

/-! ## What comes and what goes -/

/-- The page requests that an operation puts into the queue: that of a transaction that it stalls, or one
    submitted from outside. -/
def lodged (c : Controller) : Op → List PageRequest
  | .translate t =>
    if c.records (.translate t) then
      [{ PageRequest.ofTransaction t with timestamp := c.stamp }]
    else []
  | .submitPageRequest r =>
    if (c.submitPageRequest r).2.isOk then [{ r with timestamp := c.stamp }] else []
  | _ => []

/-- The page requests that an operation answers. -/
def answered (c : Controller) : Op → List PageRequest
  | .processPageRequests => c.pageRequests.entries.take c.processPageRequests.2
  | _ => []

/-- The page requests that an operation discards. -/
def dropped (c : Controller) : Op → List PageRequest
  | .clearPageRequests => c.pageRequests.entries
  | _ => []

/-- The page requests that an operation takes out of the queue. -/
def withdrawn (c : Controller) (op : Op) : List PageRequest := c.answered op ++ c.dropped op

/-- Requests came at the end of the queue and went from its front, and those that came are counted, by the
    queue and by the controller. -/
structure Moves (c c' : Controller) (came went : List PageRequest) : Prop where
  entries : c.pageRequests.entries ++ came = went ++ c'.pageRequests.entries
  accepted : c'.pageRequests.accepted = c.pageRequests.accepted + came.length
  counted : c'.counters.pageRequests = c.counters.pageRequests + came.length

namespace Moves

variable {c c' c'' : Controller}

/-- Nothing comes and nothing goes. -/
theorem of_eq (hentries : c'.pageRequests.entries = c.pageRequests.entries)
    (haccepted : c'.pageRequests.accepted = c.pageRequests.accepted)
    (hcounted : c'.counters.pageRequests = c.counters.pageRequests) : Moves c c' [] [] :=
  ⟨by rw [List.append_nil, hentries, List.nil_append], haccepted, hcounted⟩

/-- What came and went during two changes came and went during both. -/
theorem trans {came went came' went' : List PageRequest} (h : Moves c c' came went)
    (h' : Moves c' c'' came' went') : Moves c c'' (came ++ came') (went ++ went') where
  entries := by
    calc c.pageRequests.entries ++ (came ++ came')
        = (c.pageRequests.entries ++ came) ++ came' := (List.append_assoc ..).symm
      _ = went ++ (c'.pageRequests.entries ++ came') := by rw [h.entries, List.append_assoc]
      _ = went ++ went' ++ c''.pageRequests.entries := by rw [h'.entries, List.append_assoc]
  accepted := by rw [h'.accepted, h.accepted, List.length_append, Nat.add_assoc]
  counted := by rw [h'.counted, h.counted, List.length_append, Nat.add_assoc]

/-- Confined changes move no request. -/
theorem of_confined (h : Confined c c') : Moves c c' [] [] :=
  .of_eq (congrArg (fun d => d.pageRequests.entries) h)
    (congrArg (fun d => d.pageRequests.accepted) h) (congrArg (fun d => d.counters.pageRequests) h)

/-- Commands move no request: they answer stalls. -/
theorem of_processed (h : Processed c c') : Moves c c' [] [] :=
  .of_eq (congrArg (fun d => d.pageRequests.entries) h)
    (congrArg (fun d => d.pageRequests.accepted) h) (congrArg (fun d => d.counters.pageRequests) h)

/-- A request is offered, and comes if there is room for it. -/
theorem of_push {r : PageRequest} (hqueue : c'.pageRequests = c.pageRequests.push r)
    (hcounted : c'.counters.pageRequests =
      c.counters.pageRequests + (!c.pageRequests.isFull).toNat) :
    Moves c c' (if c.pageRequests.isFull then [] else [r]) [] := by
  cases hfull : c.pageRequests.isFull with
  | true =>
    rw [Queue.push_of_isFull hfull] at hqueue
    rw [hfull] at hcounted
    exact .of_eq (by rw [hqueue]) (by rw [hqueue]) hcounted
  | false =>
    rw [Queue.push_of_not_isFull hfull] at hqueue
    rw [hfull] at hcounted
    exact ⟨(congrArg Queue.entries hqueue).symm, congrArg Queue.accepted hqueue, hcounted⟩

end Moves

/-! ## Calls to translate -/

/-- The stalls, the page requests, and how many of these the controller counted. -/
structure Desk where
  stalls : StallTable
  requests : Queue PageRequest
  counted : Nat

/-- The part of the state that requests pass through. -/
def desk (c : Controller) : Desk :=
  { stalls := c.stalls, requests := c.pageRequests, counted := c.counters.pageRequests }

/-- A transaction asks for its page, and waits for it if the request is taken. -/
def Desk.hold (x : Desk) (s : Stall) : Desk :=
  { stalls := if x.requests.isFull then x.stalls else x.stalls.add s
    requests := x.requests.push { PageRequest.ofTransaction s.transaction with
      timestamp := s.timestamp }
    counted := x.counted + (!x.requests.isFull).toNat }

theorem desk_reportFault (c : Controller) (t : Transaction) (f : StageFault) :
    (c.reportFault t f).desk = c.desk := by
  unfold reportFault
  dsimp only
  rw [emit_eq]
  rfl

/-- A transaction that is stalled asks for its page, unless it is asked for already. -/
theorem desk_stall (c : Controller) (t : Transaction) :
    (c.stall t).desk = c.desk.hold ⟨t, c.stamp⟩ := by
  have hrequests : c.desk.requests.isFull = c.pageRequests.isFull := rfl
  unfold stall Desk.hold
  rw [hrequests]
  dsimp only
  cases c.pageRequests.isFull with
  | true => rfl
  | false =>
    rw [if_neg Bool.false_ne_true, emit_eq]
    rfl

/-- A call to translate leaves the desk as it was, or the transaction asks for its page. -/
theorem desk_translate (c : Controller) (t : Transaction) :
    (c.translate t).1.desk = c.desk ∨ (c.translate t).1.desk = c.desk.hold ⟨t, c.stamp⟩ := by
  have hlooked : (c.lookupCache t).1.desk = c.desk := by
    rw [lookupCache_eq]
    rfl
  have hstamp : (c.lookupCache t).1.stamp = c.stamp := (front_lookupCache c t).2
  refine translate_cases (P := fun x => x.1.desk = c.desk ∨ x.1.desk = c.desk.hold ⟨t, c.stamp⟩)
    ?_ ?_ ?_ ?_ ?_
  · exact fun _ => Or.inl (desk_reportFault ..)
  · exact fun _ _ _ _ => Or.inl hlooked
  · intro s r epoch _ _
    refine Or.inl ?_
    rw [remember_eq]
    exact hlooked
  · exact fun _ _ _ _ _ => Or.inl ((desk_reportFault ..).trans hlooked)
  · -- the fault is reported first, and the stall has the stamp of the call
    intro s f _ _ _ _
    refine Or.inr ((desk_stall ..).trans ?_)
    rw [desk_reportFault, (front_reportFault ..).2]
    show (c.lookupCache t).1.desk.hold ⟨t, (c.lookupCache t).1.stamp⟩ = _
    rw [hlooked, hstamp]

/-- A call lodges at most one request. -/
theorem moves_translate (c : Controller) (t : Transaction) :
    Moves c (c.translate t).1 (c.lodged (.translate t)) [] := by
  have hserved : (c.translate t).1.stalls = c.stalls → c.lodged (.translate t) = [] := by
    intro hstalls
    rw [lodged, records_of_stalls_eq (congrArg StallTable.stalls hstalls)]
    rfl
  rcases desk_translate c t with hdesk | hdesk
  · rw [hserved (congrArg Desk.stalls hdesk)]
    have hqueue : (c.translate t).1.pageRequests = c.pageRequests := congrArg Desk.requests hdesk
    exact .of_eq (by rw [hqueue]) (by rw [hqueue]) (congrArg Desk.counted hdesk)
  · have hmoves := Moves.of_push (congrArg Desk.requests hdesk) (congrArg Desk.counted hdesk)
    have hstalls : (c.translate t).1.stalls =
        if c.pageRequests.isFull then c.stalls else c.stalls.add ⟨t, c.stamp⟩ :=
      congrArg Desk.stalls hdesk
    -- the request is taken exactly if the stall is recorded
    cases hfull : c.pageRequests.isFull with
    | true =>
      rw [hfull, if_pos rfl] at hstalls hmoves
      rw [hserved hstalls]
      exact hmoves
    | false =>
      rw [hfull, if_neg Bool.false_ne_true] at hstalls hmoves
      have hrecords : c.records (.translate t) = true :=
        decide_eq_true (congrArg StallTable.stalls hstalls)
      rw [lodged, hrecords]
      exact hmoves

/-! ## Steps and runs -/

/-- A submission lodges its request, if there is room. -/
theorem moves_submitPageRequest (c : Controller) (r : PageRequest) :
    Moves c (c.submitPageRequest r).1 (c.lodged (.submitPageRequest r)) [] := by
  have hlodged : c.lodged (.submitPageRequest r) =
      if c.pageRequests.isFull then [] else [{ r with timestamp := c.stamp }] := by
    rw [lodged, submitPageRequest, Queue.submit]
    cases c.pageRequests.isFull <;> rfl
  rw [hlodged, submitPageRequest_eq]
  exact .of_push rfl rfl

/-- A new configuration moves no request. -/
theorem moves_updateConfiguration (c : Controller) (new : Configuration) (found : StreamId) :
    Moves c (c.step (.updateConfiguration new found)).1 [] [] := by
  refine settle_preserves (P := fun d => Moves c d [] []) (.of_eq rfl rfl rfl) fun c' hc => ?_
  obtain ⟨-, events, commands, pageRequests, -, -, hresized, rfl⟩ := updateConfiguration_eq_ok hc
  obtain ⟨-, rfl⟩ := Queue.resizeTo_eq_ok hresized
  exact .of_eq rfl rfl rfl

/-- What was queued and what comes is what goes and what is queued then. -/
theorem moves_step (c : Controller) {op : Op} (hreset : op ≠ .reset)
    (hstat : op ≠ .resetStatistics) :
    Moves c (c.step op).1 (c.lodged op) (c.withdrawn op) := by
  cases op with
  | translate t => exact moves_translate c t
  | submitPageRequest r => exact moves_submitPageRequest c r
  | processPageRequests =>
    have hcall := processPageRequests_eq c
    refine ⟨?_, ?_, ?_⟩
    · show _ ++ [] = (c.pageRequests.entries.take c.processPageRequests.2 ++ []) ++
        c.processPageRequests.1.pageRequests.entries
      rw [hcall, List.append_nil, List.append_nil]
      exact (List.take_append_drop ..).symm
    · exact congrArg (fun x => x.1.pageRequests.accepted) hcall
    · exact congrArg (fun x => x.1.counters.pageRequests) hcall
  | clearPageRequests =>
    have hcall := clearPageRequests_eq c
    refine ⟨?_, ?_, ?_⟩
    · show _ ++ [] = ([] ++ c.pageRequests.entries) ++ c.clearPageRequests.1.pageRequests.entries
      rw [hcall, List.nil_append]
      rfl
    · exact congrArg (fun d => d.pageRequests.accepted) hcall
    · exact congrArg (fun d => d.counters.pageRequests) hcall
  | processCommands => exact .of_processed (processed_processCommands c)
  | updateConfiguration new found => exact moves_updateConfiguration c new found
  | enableCaching enabled => cases enabled <;> exact .of_eq rfl rfl rfl
  | submitCommand cmd => exact .of_eq rfl rfl rfl
  | clearCommands => exact .of_eq rfl rfl rfl
  | processEvents => exact .of_eq rfl rfl rfl
  | clearEvents => exact .of_eq rfl rfl rfl
  | addSink s => exact .of_eq rfl rfl rfl
  | elapse ns => exact .of_eq rfl rfl rfl
  | resetStatistics => exact absurd rfl hstat
  | reset => exact absurd rfl hreset
  | _ => exact .of_confined (confined_step rfl)

/-- The accounts of a run that resets nothing. -/
theorem moves_run (c : Controller) {ops : List Op} (hreset : .reset ∉ ops)
    (hstat : .resetStatistics ∉ ops) :
    Moves c (c.run ops).1 (gather lodged c ops) (gather withdrawn c ops) := by
  induction ops generalizing c with
  | nil => exact .of_eq rfl rfl rfl
  | cons op ops ih =>
    rw [List.mem_cons, not_or] at hreset hstat
    rw [run_cons]
    exact (moves_step c (Ne.symm hreset.1) (Ne.symm hstat.1)).trans (ih _ hreset.2 hstat.2)

/-- How many requests a run takes out of the queue, by what becomes of them. -/
theorem length_withdrawn (c : Controller) (ops : List Op) :
    (gather withdrawn c ops).length =
      (gather answered c ops).length + (gather dropped c ops).length := by
  induction ops generalizing c with
  | nil => rfl
  | cons op ops ih =>
    simp only [gather, withdrawn, List.length_append, ih]
    omega

/-- A new controller, and one just reset, has no page requests and has counted none. -/
theorem requests_fresh {config : Configuration} {c : Controller} (h : create config = .ok c)
    {ops : List Op} (hops : ops = [] ∨ ops.getLast? = some .reset) :
    (c.run ops).1.pageRequests.entries = [] ∧ (c.run ops).1.pageRequests.accepted = 0 ∧
      (c.run ops).1.counters.pageRequests = 0 := by
  obtain ⟨-, rfl⟩ := create_eq_ok h
  rcases hops with rfl | hlast
  · exact ⟨rfl, rfl, rfl⟩
  · rw [← List.dropLast_append_getLast? _ hlast, run_append]
    exact ⟨rfl, rfl, rfl⟩

/-- In every reachable state page requests are answered oldest first, as many as the command queue has
    room for.  Since construction or the last reset, if statistics were not reset, the requests accepted
    are those answered and those discarded, in order, followed by those that wait; and the controller
    counts as many as the queue does. -/
theorem page_requests_conserved {config : Configuration} {c : Controller}
    (h : create config = .ok c) (ops : List Op) :
    (c.run ops).1.AnswersOldest ∧
    ∀ before after, ops = before ++ after → (before = [] ∨ before.getLast? = some .reset) →
      .reset ∉ after → .resetStatistics ∉ after →
      gather lodged (c.run before).1 after =
        gather withdrawn (c.run before).1 after ++ (c.run ops).1.pageRequests.entries ∧
      (gather lodged (c.run before).1 after).length =
        (gather answered (c.run before).1 after).length +
          (gather dropped (c.run before).1 after).length + (c.run ops).1.pageRequests.size ∧
      (c.run ops).1.pageRequests.accepted =
        (gather lodged (c.run before).1 after).length ∧
      (c.run ops).1.counters.pageRequests = (c.run ops).1.pageRequests.accepted := by
  refine ⟨answersOldest _, ?_⟩
  rintro before after rfl hfresh hreset hstat
  obtain ⟨hnone, haccepted, hcounted⟩ := requests_fresh h hfresh
  have hmoves := moves_run (c.run before).1 hreset hstat
  have hentries := hmoves.entries
  rw [hnone, List.nil_append] at hentries
  have hlength := congrArg List.length hentries
  rw [List.length_append, length_withdrawn] at hlength
  have htaken := hmoves.accepted
  rw [haccepted, Nat.zero_add] at htaken
  have hcount := hmoves.counted
  rw [hcounted, Nat.zero_add, ← htaken] at hcount
  rw [run_append]
  exact ⟨hentries, hlength, htaken, hcount⟩

/-- With room for one command, the oldest of two stalled requests is answered, one from outside joins the
    other, and both are discarded. -/
theorem page_requests_conserved_discarded :
    let config : Configuration := { queues := { commands := 1 } }
    let c := start config [] [] .empty 0
    let ask (a : UInt64) : Op := .translate ⟨1, 0, a, .read, .nonSecure⟩
    let after : List Op := [.configure 1 { faultMode := .stall }, .createPasid 1 0, ask 0x1000,
      ask 0x5000, .processPageRequests, .processPageRequests,
      .submitPageRequest ⟨1, 0, 0x9000, .write, true, 0⟩, .clearPageRequests, ask 0x7000]
    let ops := [.reset] ++ after
    create config = .ok c ∧ .reset ∉ after ∧ .resetStatistics ∉ after ∧
      (gather answered (c.run [.reset]).1 after).map PageRequest.address = [0x1000] ∧
      (gather dropped (c.run [.reset]).1 after).map PageRequest.address = [0x5000, 0x9000] ∧
      (c.run ops).1.commands.rejected = 2 ∧
      (c.run ops).1.AnswersOldest ∧
      gather lodged (c.run [.reset]).1 after =
        gather withdrawn (c.run [.reset]).1 after ++ (c.run ops).1.pageRequests.entries ∧
      (gather lodged (c.run [.reset]).1 after).length =
        (gather answered (c.run [.reset]).1 after).length +
          (gather dropped (c.run [.reset]).1 after).length + (c.run ops).1.pageRequests.size ∧
      (c.run ops).1.pageRequests.accepted =
        (gather lodged (c.run [.reset]).1 after).length ∧
      (c.run ops).1.counters.pageRequests = (c.run ops).1.pageRequests.accepted := by
  intro config c ask after ops
  have hreset : .reset ∉ after := by simp [after, ask]
  have hstat : .resetStatistics ∉ after := by simp [after, ask]
  have hc : create config = .ok c := rfl
  obtain ⟨hanswers, hbooks⟩ := page_requests_conserved hc ops
  exact ⟨hc, hreset, hstat, by decide +kernel, by decide +kernel, by decide +kernel, hanswers,
    hbooks [.reset] after rfl (Or.inr rfl) hreset hstat⟩

end Iommu.Controller
