/-
  The translation cache.

  Entries are copies of resolved translations, kept most recently used first; the index beside them
  is changed together with them.  An entry leaves by invalidation, by eviction of the least recently
  used when room is needed, or when a lookup finds it older than `maxAge`.

  Every invalidation advances `epoch`, even one that removes nothing.  A translation resolved before
  an invalidation carries an older epoch, and `insertIfCurrent` refuses it: that is what keeps a
  stale entry out (`insertIfCurrent_of_ne`).

  Time is an argument: `now` is a reading of the clock in nanoseconds.
-/
import Iommu.Tlb.Index
import Iommu.Transaction

namespace Iommu

/-- A cached translation of one page. -/
structure TlbEntry where
  stream : StreamId
  pasid : Pasid
  /-- First address of the input page. -/
  page : UInt64
  /-- First address of the output page. -/
  physical : UInt64
  /-- First address of the page between the stages, when both stages ran. -/
  intermediate : Option UInt64
  /-- The rights that every stage grants. -/
  permissions : Permissions
  security : Security
  valid : Bool
  /-- Clock reading at the insertion. -/
  timestamp : Nat
deriving DecidableEq

namespace TlbEntry

/-- The entry for the page of an address; it keeps page bases only. -/
def ofPage (stream : StreamId) (pasid : Pasid) (address physical : UInt64)
    (intermediate : Option UInt64) (permissions : Permissions) (security : Security) : TlbEntry :=
  { stream, pasid, page := pageBase address, physical := pageBase physical,
    intermediate := intermediate.map pageBase, permissions, security, valid := true,
    timestamp := 0 }

/-- The entry that remembers a translation. -/
def ofTranslation (stream : StreamId) (pasid : Pasid) (address : UInt64) (r : Translation) :
    TlbEntry :=
  ofPage stream pasid address r.physical r.intermediate r.permissions r.security

/-- What the entry is found by. -/
def key (e : TlbEntry) : TlbKey := .ofAddress e.stream e.pasid e.page e.security

/-- The translation of an address of the entry's page. -/
def toTranslation (e : TlbEntry) (address : UInt64) : Translation :=
  { physical := inPage e.physical address
    intermediate := e.intermediate.map fun base => inPage base address
    permissions := e.permissions, security := e.security, cacheHit := true, bypassed := false }

/-- What is made of a translation is found under the key of its page. -/
theorem key_ofTranslation (stream : StreamId) (pasid : Pasid) (address : UInt64)
    (r : Translation) :
    (ofTranslation stream pasid address r).key = .ofAddress stream pasid address r.security := by
  simp [ofTranslation, ofPage, key, TlbKey.ofAddress, pageBase_pageBase]

end TlbEntry

/-- The translation cache. -/
structure Tlb where
  /-- Most recently used first. -/
  entries : List TlbEntry
  index : Tlb.Index
  capacity : Nat
  /-- Age in nanoseconds beyond which an entry counts as absent; zero means no limit. -/
  maxAge : Nat
  /-- Number of invalidations ever run.  Kept in a 64-bit word it would repeat after 2^64 of them; two
      readings with fewer than that between them compare alike as numbers and as words. -/
  epoch : Nat
  hits : Nat
  misses : Nat
  evictions : Nat
  invalidations : Nat
deriving DecidableEq

namespace Tlb

/-- An empty cache; capacity zero counts as one. -/
def ofCapacity (capacity : Nat) : Tlb :=
  { entries := [], index := .empty, capacity := max 1 capacity, maxAge := 0, epoch := 0,
    hits := 0, misses := 0, evictions := 0, invalidations := 0 }

/-- Number of entries. -/
def size (t : Tlb) : Nat := t.entries.length

/-- The entry of a key. -/
def find? (t : Tlb) (k : TlbKey) : Option TlbEntry := t.entries.find? fun e => e.key = k

/-- Whether a key is resident; nothing is counted or moved. -/
def contains (t : Tlb) (k : TlbKey) : Bool := (t.find? k).isSome

/-- Number of entries of a stream, read off the index. -/
def countStream (t : Tlb) (stream : StreamId) : Nat := t.index.countStream stream

/-- Sets the age limit in milliseconds; zero means no limit.  The limit stays within 64 bits of
    nanoseconds. -/
def setMaxAgeMs (t : Tlb) (ms : UInt64) : Tlb :=
  { t with maxAge := min (ms.toNat * 1000000) (UInt64.size - 1) }

/-- The entries without the one of a key. -/
def without (k : TlbKey) (es : List TlbEntry) : List TlbEntry := es.filter fun e => e.key ≠ k

/-! ## Insertion -/

/-- Puts an entry in front.  It replaces the entry of its key; otherwise a full cache evicts the
    least recently used entry, which is the answer. -/
def insert (t : Tlb) (now : Nat) (e : TlbEntry) : Tlb × Option TlbEntry :=
  let e := { e with timestamp := now }
  if t.contains e.key then
    ({ t with entries := e :: without e.key t.entries, index := t.index.insert e.key }, none)
  else if t.size < t.capacity then
    ({ t with entries := e :: t.entries, index := t.index.insert e.key }, none)
  else match t.entries.getLast? with
    | none => ({ t with entries := [e], index := t.index.insert e.key }, none)
    | some old =>
      ({ t with
          entries := e :: t.entries.dropLast
          index := (t.index.insert e.key).erase old.key
          evictions := t.evictions + 1 }, some old)

/-- Inserts unless an invalidation ran since `epoch` was read. -/
def insertIfCurrent (t : Tlb) (now : Nat) (e : TlbEntry) (epoch : Nat) : Tlb × Bool :=
  if t.epoch = epoch then ((t.insert now e).1, true) else (t, false)

/-- Changes the capacity; the least recently used entries that no longer fit are evicted. -/
def resize (t : Tlb) (capacity : Nat) : Tlb :=
  let capacity := max 1 capacity
  let dropped := t.entries.drop capacity
  { t with
    entries := t.entries.take capacity
    index := t.index.eraseAll (dropped.map TlbEntry.key)
    capacity
    evictions := t.evictions + dropped.length }

/-! ## Lookup -/

/-- Whether an entry is over the age limit. -/
def isAged (t : Tlb) (now : Nat) (e : TlbEntry) : Bool :=
  t.maxAge ≠ 0 && t.maxAge < now - e.timestamp

/-- Looks a key up.  A resident entry becomes the most recently used one, valid or not; an aged one is
    evicted instead.  Only a valid entry within the age limit is a hit. -/
def lookup (t : Tlb) (now : Nat) (k : TlbKey) : Tlb × Option TlbEntry :=
  match t.find? k with
  | none => ({ t with misses := t.misses + 1 }, none)
  | some e =>
    if t.isAged now e then
      ({ t with
          entries := without k t.entries
          index := t.index.erase k
          evictions := t.evictions + 1
          misses := t.misses + 1 }, none)
    else
      let promoted := { t with entries := e :: without k t.entries }
      if e.valid then ({ promoted with hits := t.hits + 1 }, some e)
      else ({ promoted with misses := t.misses + 1 }, none)

/-! ## Invalidation -/

/-- Records that an invalidation ran. -/
def bump (t : Tlb) : Tlb := { t with epoch := t.epoch + 1, invalidations := t.invalidations + 1 }

/-- Removes the entries of some keys that the index lists. -/
def removeKeys (t : Tlb) (keys : List TlbKey) : Tlb :=
  { t with
    entries := t.entries.filter fun e => !keys.contains e.key
    index := t.index.eraseAll keys }

/-- Removes everything. -/
def invalidateAll (t : Tlb) : Tlb × Nat :=
  ({ t with entries := [], index := .empty }.bump, t.size)

/-- Removes the entries of a stream. -/
def invalidateStream (t : Tlb) (stream : StreamId) : Tlb × Nat :=
  let keys := t.index.streamKeys stream
  ({ t with
      entries := t.entries.filter fun e => !keys.contains e.key
      index := t.index.eraseStream stream }.bump, keys.length)

/-- Removes the entries of a stream and PASID. -/
def invalidatePasid (t : Tlb) (stream : StreamId) (pasid : Pasid) : Tlb × Nat :=
  let keys := t.index.pasidKeys stream pasid
  ((t.removeKeys keys).bump, keys.length)

/-- Removes the entries of a stream and PASID whose page lies in a range. -/
def invalidateRange (t : Tlb) (stream : StreamId) (pasid : Pasid) (range : PageRange) :
    Tlb × Nat :=
  let keys := (t.index.pasidKeys stream pasid).filter fun k => range.selects k.page
  ((t.removeKeys keys).bump, keys.length)

/-! ## Statistics -/

/-- Sets the counters to zero; the entries stay. -/
def resetStatistics (t : Tlb) : Tlb :=
  { t with hits := 0, misses := 0, evictions := 0, invalidations := 0 }

/-- Counters of the cache together with its size. -/
structure Statistics where
  hits : Nat
  misses : Nat
  size : Nat
  capacity : Nat
  evictions : Nat
  invalidations : Nat
deriving DecidableEq

namespace Statistics

/-- Number of lookups. -/
def lookups (s : Statistics) : Nat := s.hits + s.misses

/-- Share of lookups that hit; zero before the first. -/
def hitRate (s : Statistics) : Float :=
  if s.lookups = 0 then 0 else Float.ofNat s.hits / Float.ofNat s.lookups

end Statistics

/-- The counters and the number of entries. -/
def statistics (t : Tlb) : Statistics :=
  { hits := t.hits, misses := t.misses, size := t.size, capacity := t.capacity,
    evictions := t.evictions, invalidations := t.invalidations }

/-! ## Operations as data -/

/-- A change to the cache.  Those that depend on the clock carry its reading. -/
inductive Op
  | insert (now : Nat) (e : TlbEntry)
  | insertIfCurrent (now : Nat) (e : TlbEntry) (epoch : Nat)
  | lookup (now : Nat) (k : TlbKey)
  | invalidateAll
  | invalidateStream (stream : StreamId)
  | invalidatePasid (stream : StreamId) (pasid : Pasid)
  | invalidateRange (stream : StreamId) (pasid : Pasid) (range : PageRange)
  | resize (capacity : Nat)
  | setMaxAgeMs (ms : UInt64)
  | resetStatistics
deriving DecidableEq

/-- What a change answers. -/
inductive Answer
  | done
  | evicted (e : Option TlbEntry)
  | accepted (b : Bool)
  | found (e : Option TlbEntry)
  | removed (n : Nat)
deriving DecidableEq

/-- The cache after a change. -/
def step (t : Tlb) : Op → Tlb × Answer
  | .insert now e => ((t.insert now e).1, .evicted (t.insert now e).2)
  | .insertIfCurrent now e epoch =>
    ((t.insertIfCurrent now e epoch).1, .accepted (t.insertIfCurrent now e epoch).2)
  | .lookup now k => ((t.lookup now k).1, .found (t.lookup now k).2)
  | .invalidateAll => (t.invalidateAll.1, .removed t.invalidateAll.2)
  | .invalidateStream stream =>
    ((t.invalidateStream stream).1, .removed (t.invalidateStream stream).2)
  | .invalidatePasid stream pasid =>
    ((t.invalidatePasid stream pasid).1, .removed (t.invalidatePasid stream pasid).2)
  | .invalidateRange stream pasid range =>
    ((t.invalidateRange stream pasid range).1, .removed (t.invalidateRange stream pasid range).2)
  | .resize capacity => (t.resize capacity, .done)
  | .setMaxAgeMs ms => (t.setMaxAgeMs ms, .done)
  | .resetStatistics => (t.resetStatistics, .done)

/-- The cache after a list of changes, with their answers. -/
def run (t : Tlb) : List Op → Tlb × List Answer
  | [] => (t, [])
  | op :: ops =>
    let (t', answer) := t.step op
    let (t'', answers) := t'.run ops
    (t'', answer :: answers)

/-! ## Laws -/

/-- An entry resolved before an invalidation is refused, and the cache stays as it was. -/
theorem insertIfCurrent_of_ne {t : Tlb} {epoch : Nat} (h : t.epoch ≠ epoch) (now : Nat)
    (e : TlbEntry) : t.insertIfCurrent now e epoch = (t, false) := by
  simp [insertIfCurrent, h]

/-- An insertion is no invalidation, -/
theorem epoch_insert (t : Tlb) (now : Nat) (e : TlbEntry) : (t.insert now e).1.epoch = t.epoch := by
  simp only [insert]
  split
  · rfl
  · split
    · rfl
    · split <;> rfl

/-- and a lookup is none, even where it drops an entry that is over age. -/
theorem epoch_lookup (t : Tlb) (now : Nat) (k : TlbKey) : (t.lookup now k).1.epoch = t.epoch := by
  simp only [lookup]
  split
  · rfl
  · split
    · rfl
    · split <;> rfl

end Tlb

end Iommu
