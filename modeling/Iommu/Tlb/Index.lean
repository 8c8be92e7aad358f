/-
  Keys of cached translations, and the index that finds them by stream and PASID.

  A key is the stream, the PASID, the page base and the security state.  The index keeps, for each
  stream and each of its PASIDs, the keys that the cache holds, so that an invalidation touches
  only what it removes.  Empty parts are dropped at once: a stream or PASID is listed exactly when it
  has a key.
-/
import Std.Data.ExtTreeMap
import Iommu.Address
import Iommu.Security

namespace Iommu

/-- What a cached translation is found by. -/
structure TlbKey where
  stream : StreamId
  pasid : Pasid
  /-- First address of the input page. -/
  page : UInt64
  security : Security
deriving DecidableEq

/-- The key of a transaction's page. -/
def TlbKey.ofAddress (stream : StreamId) (pasid : Pasid) (address : UInt64)
    (security : Security) : TlbKey :=
  { stream, pasid, page := pageBase address, security }

namespace Tlb

/-- The keys of one stream, by PASID. -/
abbrev PasidIndex := Std.ExtTreeMap Pasid (List TlbKey)

/-- The cached keys by stream and PASID. -/
structure Index where
  streams : Std.ExtTreeMap StreamId PasidIndex
deriving DecidableEq

namespace Index

/-- Nothing is indexed. -/
def empty : Index := ⟨∅⟩

/-- The keys of a stream, by PASID; none when the stream is not listed. -/
def ofStream (x : Index) (stream : StreamId) : PasidIndex := x.streams.getD stream ∅

/-- The keys of a stream and PASID. -/
def pasidKeys (x : Index) (stream : StreamId) (pasid : Pasid) : List TlbKey :=
  (x.ofStream stream).getD pasid []

/-- The keys of a stream. -/
def streamKeys (x : Index) (stream : StreamId) : List TlbKey := (x.ofStream stream).values.flatten

/-- Lists the PASIDs of a stream, or drops the stream when there is none. -/
def setStream (x : Index) (stream : StreamId) (pasids : PasidIndex) : Index :=
  if pasids.isEmpty then ⟨x.streams.erase stream⟩ else ⟨x.streams.insert stream pasids⟩

/-- Lists a key; one that is listed already stays where it is. -/
def insert (x : Index) (k : TlbKey) : Index :=
  x.setStream k.stream
    ((x.ofStream k.stream).insert k.pasid ((x.pasidKeys k.stream k.pasid).insert k))

/-- Drops a key, and with it the PASID and stream that have no other. -/
def erase (x : Index) (k : TlbKey) : Index :=
  let keys := (x.pasidKeys k.stream k.pasid).erase k
  x.setStream k.stream
    (if keys.isEmpty then (x.ofStream k.stream).erase k.pasid
     else (x.ofStream k.stream).insert k.pasid keys)

/-- Drops every key of a stream. -/
def eraseStream (x : Index) (stream : StreamId) : Index := ⟨x.streams.erase stream⟩

/-- Drops the keys of a list. -/
def eraseAll (x : Index) (keys : List TlbKey) : Index := keys.foldl erase x

/-- Number of keys of a stream. -/
def countStream (x : Index) (stream : StreamId) : Nat := (x.streamKeys stream).length

/-! ## Laws -/

/-- The keys of a stream that were written are those read, and no other stream is touched. -/
theorem ofStream_setStream (x : Index) (s s' : StreamId) (pasids : PasidIndex) :
    (x.setStream s pasids).ofStream s' = if s = s' then pasids else x.ofStream s' := by
  by_cases h : s = s'
  · subst h
    by_cases he : pasids.isEmpty = true
    · have : pasids = ∅ := Std.ExtTreeMap.isEmpty_iff.1 he
      simp [setStream, ofStream, this]
    · simp [setStream, ofStream, he]
  · by_cases he : pasids.isEmpty = true <;>
      simp [setStream, ofStream, he, h, Std.ExtTreeMap.getD_erase, Std.ExtTreeMap.getD_insert]

end Index

end Tlb

end Iommu
