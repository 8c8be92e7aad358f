/-
  The answer of a call, and the answer of the tables.

  `answer` is what a walk of the tables makes of a transaction, whatever is cached.  Where the cached
  entries for the page of a transaction answer as a walk would, a call to translate gives that answer,
  up to the cache-hit flag (`masked_translate`).  So what two states answer is compared by their
  streams and shared tables alone.
-/
import Iommu.Proofs.Cache.Transparent

namespace Iommu.Controller

/-- What a call to translate answers, without the cache-hit flag. -/
def masked (x : Except Error Translation) : Except Error Translation :=
  x.map fun r => { r with cacheHit := false }

/-- What the tables answer to a transaction. -/
def answer (c : Controller) (t : Transaction) : Except Error Translation :=
  match c.streams[t.stream]? with
  | none => .error (.streamNotConfigured t.stream)
  | some s => (s.walk c.resources t).mapError StageFault.error

/-- Of a stream that exists the answer is that of its walk. -/
theorem answer_of_stream {c : Controller} {t : Transaction} {s : Stream}
    (hs : c.streams[t.stream]? = some s) :
    c.answer t = (s.walk c.resources t).mapError StageFault.error := by
  rw [answer, hs]

/-- The tables answer a transaction alike in states with the same stream and the same shared tables. -/
theorem answer_eq {c c' : Controller} {t : Transaction}
    (hs : c'.streams[t.stream]? = c.streams[t.stream]?)
    (ht : ∀ id, c'.resources.table id = c.resources.table id) : c'.answer t = c.answer t := by
  have htable : c'.resources.table = c.resources.table := funext ht
  unfold answer Stream.walk
  rw [hs, htable]

/-- A lookup is answered as by a walk when the entries for the page are. -/
theorem faithful_of_answers {c : Controller} {t : Transaction}
    (h : ∀ e ∈ c.tlb.entries, e.key = .ofAddress t.stream t.pasid t.address t.security →
      c.Answers e) : c.Faithful t := by
  intro s e hs he ha
  obtain ⟨hmem, hkey⟩ := lookupCache_eq_some he
  have hstream : e.stream = t.stream := congrArg TlbKey.stream hkey
  obtain ⟨s', hs', hans⟩ := h e hmem hkey
  rw [hstream] at hs'
  obtain rfl : s = s' := Option.some.inj (hs.symm.trans hs')
  exact hans t hkey.symm ha

/-- A call answers as the tables do. -/
theorem masked_translate {c : Controller} {t : Transaction} (h : c.Faithful t) :
    masked (c.translate t).2 = c.answer t := by
  rw [translate_eq]
  refine attempt_cases (P := fun x => masked x.2 = c.answer t) ?_ ?_ ?_
  · intro hn
    rw [answer, hn]
    rfl
  · intro s e hs he ha
    rw [answer_of_stream hs, h s e hs he ha]
    rfl
  · intro s hs _
    rw [answer_of_stream hs, ← resources_lookupCache c t]
    refine walkStream_cases (P := fun x => masked x.2 = _) ?_ ?_ ?_
    · intro r hr
      have hflag : { r with cacheHit := false } = r := by
        rw [← (Stream.security_of_walk hr).2]
      rw [hr]
      exact congrArg Except.ok hflag
    · intro f hf _
      rw [hf]
      rfl
    · intro f hf _ _
      rw [hf]
      rfl

/-- A transaction is answered by the tables unless its stream is stale. -/
theorem Coherent.masked_translate {c : Controller} {stale : StreamId → Bool}
    (h : c.Coherent stale) {t : Transaction} (hfresh : stale t.stream = false) :
    masked (c.translate t).2 = c.answer t :=
  Controller.masked_translate (h.faithful hfresh)

end Iommu.Controller
