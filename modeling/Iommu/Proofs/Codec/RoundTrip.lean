/-
  Records as texts: fault records, stream configurations, page requests and commands come back from
  what is written of them.

  `RoundTrips` says what is common to the four.  A record is read from any object that holds the members
  it needs, at their values, and has the defaults of those left out; without a member that is needed
  there is no record; and neither order nor unknown members matter.  The kinds differ in what they need
  and in one point: the stamp of a command is written but is an unknown member to its reader, so a
  command comes back without it.
-/
import Iommu.Proofs.Codec.Record

namespace Iommu

namespace Codec

variable {α : Type} {encode : α → Json} {decode : Decoder α} {names needed : List String}
  {keeping : (String → Bool) → α → α}

/-- Records of a kind come back from what is written of them.  `keeping kept a` is the record `a` with
    the defaults of the members that are not kept. -/
structure RoundTrips (encode : α → Json) (decode : Decoder α) (names needed : List String)
    (keeping : (String → Bool) → α → α) : Prop where
  /-- What is kept is read at its value, and what is left out at its default. -/
  reads : ∀ a kept ms s, Selects names kept (encode a) ms → (∀ key ∈ needed, kept key = true) →
    Json.Spells (Json.obj ms).tokens s.toList → readText decode s = some (keeping kept a)
  /-- Nothing is read without a member that is needed. -/
  refuses : ∀ ms s, ∀ key ∈ needed, (∀ j, (some key, j) ∉ ms) →
    Json.Spells (Json.obj ms).tokens s.toList → readText decode s = none
  /-- The order of the members does not matter, and neither do unknown ones. -/
  ignores : ∀ ms ms' unknown s s', ms'.Perm (ms ++ unknown) → Unknown names unknown →
    Json.Spells (Json.obj ms).tokens s.toList → Json.Spells (Json.obj ms').tokens s'.toList →
    readText decode s' = readText decode s

/-- It is enough to look at the members that are kept. -/
theorem Takes.roundTrips (h : Takes names needed decode)
    (hreads : ∀ a kept ms, Selects names kept (encode a) ms → (∀ key ∈ needed, kept key = true) →
      decode (.obj ms) = .ok (keeping kept a)) :
    RoundTrips encode decode names needed keeping where
  reads a kept ms s hselects hkept hs := by
    rw [readText_of_spells hs, hreads a kept ms hselects hkept]
    rfl
  refuses ms s key hkey hmissing hs := by
    rw [readText_of_spells hs, h.decode_missing hkey hmissing]
  ignores ms ms' unknown s s' hp hu hs hs' := by
    rw [readText_of_spells hs, readText_of_spells hs', h.decode_perm hp hu]

/-- A record is read back from what is written of it. -/
theorem RoundTrips.readText_render {keys : List String} {a : α} {ms : List (Option String × Json)}
    (h : RoundTrips encode decode names needed keeping) (hms : encode a = .obj ms)
    (hkeyed : Keyed keys (encode a)) (hproper : (encode a).Proper) :
    readText decode (encode a).render = some (keeping (fun _ => true) a) := by
  have hself := hkeyed.selects names
  have hs := Json.spells_render hproper
  rw [hms] at hself hs ⊢
  exact h.reads a _ _ _ (hms ▸ hself) (fun _ _ => rfl) hs

end Codec

open Codec

/-! ## Fault records -/

namespace FaultRecord

/-- The members of a fault record. -/
def names : List String :=
  ["streamId", "pasid", "address", "faultType", "accessType", "securityState", "stage", "timestamp"]

/-- A fault record is read from its eight members and no others. -/
theorem takes : Takes names names decode := by
  refine ⟨_, fun _ => rfl, fun f g h => by simp only [Fields.required, h], fun f r h => ?_⟩
  obtain ⟨_, hstream, h⟩ := bind_eq_ok h
  obtain ⟨_, hpasid, h⟩ := bind_eq_ok h
  obtain ⟨_, haddress, h⟩ := bind_eq_ok h
  obtain ⟨_, hkind, h⟩ := bind_eq_ok h
  obtain ⟨_, haccess, h⟩ := bind_eq_ok h
  obtain ⟨_, hsecurity, h⟩ := bind_eq_ok h
  obtain ⟨_, hstage, h⟩ := bind_eq_ok h
  obtain ⟨_, hstamp, -⟩ := bind_eq_ok h
  simp [names, Fields.isSome_of_required hstream, Fields.isSome_of_required hpasid,
    Fields.isSome_of_required haddress, Fields.isSome_of_required hkind,
    Fields.isSome_of_required haccess, Fields.isSome_of_required hsecurity,
    Fields.isSome_of_required hstage, Fields.isSome_of_required hstamp]

theorem keyed_encode (r : FaultRecord) : Keyed names r.encode := rfl

/-- With every member there the record is read back. -/
theorem decode_of_selects {r : FaultRecord} {kept : String → Bool}
    {ms : List (Option String × Json)} (h : Selects names kept r.encode ms)
    (hkept : ∀ key ∈ names, kept key = true) : decode (.obj ms) = .ok r := by
  obtain ⟨f, hf, hget⟩ := h.fields r.keyed_encode (by decide)
  have hstream := Fields.required_of_get? (hget 0 rfl rfl) (word32_ofWord32 r.stream)
  have hpasid := Fields.required_of_get? (hget 1 rfl rfl) (word32_ofWord32 r.pasid)
  have haddress := Fields.required_of_get? (hget 2 rfl rfl) (word64_ofWord64 r.address)
  have hkind := Fields.required_of_get? (hget 3 rfl rfl) r.kind.decode_encode
  have haccess := Fields.required_of_get? (hget 4 rfl rfl) r.access.decode_encode
  have hsecurity := Fields.required_of_get? (hget 5 rfl rfl) r.security.decode_encode
  have hstage := Fields.required_of_get? (hget 6 rfl rfl) r.stage.decode_encode
  have hstamp := Fields.required_of_get? (hget 7 rfl rfl) (word64_ofWord64 r.timestamp)
  simp only [names, List.forall_mem_cons] at hkept hf
  simp only [decode, hf, hstream, hpasid, haddress, hkind, haccess, hsecurity, hstage, hstamp,
    hkept, if_true, bind, Except.bind, pure, Except.pure]

/-- Fault records survive any change of layout, but no omission. -/
theorem roundTrips : RoundTrips encode decode names names fun _ r => r :=
  takes.roundTrips fun _ _ _ => decode_of_selects

/-- The numbers of a fault record are plain runs of digits. -/
theorem proper_encode (r : FaultRecord) : r.encode.Proper := by
  simp [encode, Json.ofFields, ofWord64, ofWord32, FaultKind.encode, Access.encode, Security.encode,
    Stage.encode, Json.ofString, Json.Proper, Json.ProperMembers]

end FaultRecord

/-! ## Stream configurations -/

namespace StreamConfig

/-- The members of the configuration of a stream. -/
def names : List String := ["translationEnabled", "stage1Enabled", "stage2Enabled", "faultMode"]

/-- The configuration with the defaults of what is not kept. -/
def keeping (kept : String → Bool) (c : StreamConfig) : StreamConfig :=
  let d : StreamConfig := default
  { translationEnabled := if kept "translationEnabled" then c.translationEnabled
      else d.translationEnabled
    stage1Enabled := if kept "stage1Enabled" then c.stage1Enabled else d.stage1Enabled
    stage2Enabled := if kept "stage2Enabled" then c.stage2Enabled else d.stage2Enabled
    faultMode := if kept "faultMode" then c.faultMode else d.faultMode }

/-- It is read from its four members, none of which is needed. -/
theorem takes : Takes names [] decode :=
  ⟨_, fun _ => rfl, fun f g h => by simp only [Fields.optional, h], fun _ _ _ => nofun⟩

theorem keyed_encode (c : StreamConfig) : Keyed names c.encode := rfl

/-- What was left out is read as the default. -/
theorem decode_of_selects {c : StreamConfig} {kept : String → Bool}
    {ms : List (Option String × Json)} (h : Selects names kept c.encode ms) :
    decode (.obj ms) = .ok (c.keeping kept) := by
  obtain ⟨f, hf, hget⟩ := h.fields c.keyed_encode (by decide)
  have htranslation := Fields.optional_of_get? (hget 0 rfl rfl) (bool_bool c.translationEnabled)
  have hstage1 := Fields.optional_of_get? (hget 1 rfl rfl) (bool_bool c.stage1Enabled)
  have hstage2 := Fields.optional_of_get? (hget 2 rfl rfl) (bool_bool c.stage2Enabled)
  have hmode := Fields.optional_of_get? (hget 3 rfl rfl) c.faultMode.decode_encode
  rw [names] at hf
  simp only [decode, hf, htranslation, hstage1, hstage2, hmode, bind, Except.bind, pure,
    Except.pure, keeping]

/-- Stream configurations survive any change of layout and any omission, as what was kept of
    them. -/
theorem roundTrips : RoundTrips encode decode names [] fun kept c => c.keeping kept :=
  takes.roundTrips fun _ _ _ h _ => decode_of_selects h

theorem proper_encode (c : StreamConfig) : c.encode.Proper := by
  simp [encode, Json.ofFields, FaultMode.encode, Json.ofString, Json.Proper, Json.ProperMembers]

end StreamConfig

/-! ## Page requests -/

namespace PageRequest

/-- The members of a page request that may not be left out. -/
def needed : List String :=
  ["streamId", "pasid", "requestedAddress", "accessType", "isLastRequest"]

/-- With the stamp these are all. -/
def names : List String := needed ++ ["timestamp"]

/-- The request with the defaults of what is not kept. -/
def keeping (kept : String → Bool) (r : PageRequest) : PageRequest :=
  { r with timestamp := if kept "timestamp" then r.timestamp else 0 }

/-- A page request is read from these members. -/
theorem takes : Takes names needed decode := by
  refine ⟨_, fun _ => rfl, fun f g h => by simp only [Fields.required, Fields.optional, h],
    fun f r h => ?_⟩
  obtain ⟨_, hstream, h⟩ := bind_eq_ok h
  obtain ⟨_, hpasid, h⟩ := bind_eq_ok h
  obtain ⟨_, haddress, h⟩ := bind_eq_ok h
  obtain ⟨_, haccess, h⟩ := bind_eq_ok h
  obtain ⟨_, hlast, -⟩ := bind_eq_ok h
  simp [needed, Fields.isSome_of_required hstream, Fields.isSome_of_required hpasid,
    Fields.isSome_of_required haddress, Fields.isSome_of_required haccess,
    Fields.isSome_of_required hlast]

theorem keyed_encode (r : PageRequest) : Keyed names r.encode := rfl

/-- A stamp that was left out is read as zero. -/
theorem decode_of_selects {r : PageRequest} {kept : String → Bool}
    {ms : List (Option String × Json)} (h : Selects names kept r.encode ms)
    (hkept : ∀ key ∈ needed, kept key = true) : decode (.obj ms) = .ok (r.keeping kept) := by
  obtain ⟨f, hf, hget⟩ := h.fields r.keyed_encode (by decide)
  have hstream := Fields.required_of_get? (hget 0 rfl rfl) (word32_ofWord32 r.stream)
  have hpasid := Fields.required_of_get? (hget 1 rfl rfl) (word32_ofWord32 r.pasid)
  have haddress := Fields.required_of_get? (hget 2 rfl rfl) (word64_ofWord64 r.address)
  have haccess := Fields.required_of_get? (hget 3 rfl rfl) r.access.decode_encode
  have hlast := Fields.required_of_get? (hget 4 rfl rfl) (bool_bool r.isLast)
  have hstamp := Fields.optional_of_get? (hget 5 rfl rfl) (word64_ofWord64 r.timestamp)
  simp only [needed, List.forall_mem_cons] at hkept
  simp only [names, needed, List.cons_append, List.nil_append] at hf
  simp only [decode, hf, hstream, hpasid, haddress, haccess, hlast, hstamp, hkept, if_true, bind,
    Except.bind, pure, Except.pure, keeping]

/-- Page requests survive any change of layout, and the omission of the stamp. -/
theorem roundTrips : RoundTrips encode decode names needed fun kept r => r.keeping kept :=
  takes.roundTrips fun _ _ _ => decode_of_selects

theorem proper_encode (r : PageRequest) : r.encode.Proper := by
  simp [encode, Json.ofFields, ofWord64, ofWord32, Access.encode, Json.ofString, Json.Proper,
    Json.ProperMembers]

end PageRequest

/-! ## Commands -/

namespace Command

/-- The members of a command that are read; its stamp is not among them. -/
def names : List String := ["type", "streamId", "pasid", "startAddress", "endAddress"]

/-- The command with the defaults of what is not kept, and without its stamp. -/
def keeping (kept : String → Bool) (c : Command) : Command :=
  { kind := c.kind
    stream := if kept "streamId" then c.stream else 0
    pasid := if kept "pasid" then c.pasid else 0
    start := if kept "startAddress" then c.start else 0
    stop := if kept "endAddress" then c.stop else 0
    timestamp := 0 }

/-- A command is read from these members, of which its kind is needed. -/
theorem takes : Takes names ["type"] decode := by
  refine ⟨_, fun _ => rfl, fun f g h => by simp only [Fields.required, Fields.optional, h],
    fun f c h => ?_⟩
  obtain ⟨_, hkind, -⟩ := bind_eq_ok h
  simp [Fields.isSome_of_required hkind]

theorem keyed_encode (c : Command) : Keyed (names ++ ["timestamp"]) c.encode := rfl

/-- What was left out is read as zero. -/
theorem decode_of_selects {c : Command} {kept : String → Bool} {ms : List (Option String × Json)}
    (h : Selects names kept c.encode ms) (hkept : ∀ key ∈ ["type"], kept key = true) :
    decode (.obj ms) = .ok (c.keeping kept) := by
  obtain ⟨f, hf, hget⟩ := h.fields c.keyed_encode (by decide)
  have hkind := Fields.required_of_get? (hget 0 rfl rfl) c.kind.decode_encode
  have hstream := Fields.optional_of_get? (hget 1 rfl rfl) (word32_ofWord32 c.stream)
  have hpasid := Fields.optional_of_get? (hget 2 rfl rfl) (word32_ofWord32 c.pasid)
  have hstart := Fields.optional_of_get? (hget 3 rfl rfl) (word64_ofWord64 c.start)
  have hstop := Fields.optional_of_get? (hget 4 rfl rfl) (word64_ofWord64 c.stop)
  simp only [List.forall_mem_cons] at hkept
  rw [names] at hf
  simp only [decode, hf, hkind, hstream, hpasid, hstart, hstop, hkept, if_true, bind, Except.bind,
    pure, Except.pure, keeping]

/-- Commands survive any change of layout and the omission of all but their kind. -/
theorem roundTrips : RoundTrips encode decode names ["type"] fun kept c => c.keeping kept :=
  takes.roundTrips fun _ _ _ => decode_of_selects

theorem proper_encode (c : Command) : c.encode.Proper := by
  simp [encode, Json.ofFields, ofWord64, ofWord32, CommandKind.encode, Json.ofString, Json.Proper,
    Json.ProperMembers]

end Command

/-! ## All four -/

/-- Fault records, stream configurations, page requests and commands come back from what is written of
    them, a command without its stamp. -/
theorem records_round_trip :
    ((∀ r : FaultRecord, readText FaultRecord.decode r.encode.render = some r) ∧
      RoundTrips FaultRecord.encode FaultRecord.decode FaultRecord.names FaultRecord.names
        fun _ r => r) ∧
    ((∀ c : StreamConfig, readText StreamConfig.decode c.encode.render = some c) ∧
      RoundTrips StreamConfig.encode StreamConfig.decode StreamConfig.names []
        fun kept c => c.keeping kept) ∧
    ((∀ r : PageRequest, readText PageRequest.decode r.encode.render = some r) ∧
      RoundTrips PageRequest.encode PageRequest.decode PageRequest.names PageRequest.needed
        fun kept r => r.keeping kept) ∧
    ((∀ c : Command, readText Command.decode c.encode.render = some { c with timestamp := 0 }) ∧
      RoundTrips Command.encode Command.decode Command.names ["type"]
        fun kept c => c.keeping kept) :=
  ⟨⟨fun r => FaultRecord.roundTrips.readText_render rfl r.keyed_encode r.proper_encode,
      FaultRecord.roundTrips⟩,
    ⟨fun c => StreamConfig.roundTrips.readText_render rfl c.keyed_encode c.proper_encode,
      StreamConfig.roundTrips⟩,
    ⟨fun r => PageRequest.roundTrips.readText_render rfl r.keyed_encode r.proper_encode,
      PageRequest.roundTrips⟩,
    ⟨fun c => Command.roundTrips.readText_render rfl c.keyed_encode c.proper_encode,
      Command.roundTrips⟩⟩

namespace Command

/-- An invalidation of the pages from 4096 up to 8192, on stream 0. -/
def sample : Command :=
  { kind := .tlbiNhVa, stream := 0, pasid := 0, start := 4096, stop := 8192, timestamp := 77 }

/-- Its document without the stream, the PASID and the stamp, in another order and with a remark. -/
def sampleMembers : List (Option String × Json) :=
  [(some "endAddress", .natural 8192), (some "startAddress", .natural 4096),
   (some "type", .ofString "TLBI_NH_VA"), (some "remark", .null)]

/-- The members that are left are those of the record. -/
theorem selects_sampleMembers :
    Selects names (fun key => key ∉ ["streamId", "pasid", "timestamp"]) sample.encode
      sampleMembers := by
  refine ⟨[(some "remark", .null)], ?_, ?_⟩
  · simp [Unknown, names]
  · exact (List.reverse_perm
      [(some "type", sample.kind.encode), (some "startAddress", ofWord64 sample.start),
       (some "endAddress", ofWord64 sample.stop)]).append_right _

end Command

/-- What is left out of a command is zero, but its kind cannot be left out. -/
theorem records_round_trip_sample :
    readText Command.decode (Json.obj Command.sampleMembers).render =
        some { Command.sample with timestamp := 0 } ∧
      readText Command.decode (Json.obj [(some "streamId", .natural 1)]).render = none := by
  have hcommands := records_round_trip.2.2.2.2
  have hproper : (Json.obj Command.sampleMembers).Proper := by
    simp [Command.sampleMembers, Json.ofString, Json.Proper, Json.ProperMembers]
  have hproper' : (Json.obj [(some "streamId", .natural 1)]).Proper := by
    simp [Json.Proper, Json.ProperMembers]
  constructor
  · exact hcommands.reads Command.sample _ _ _ Command.selects_sampleMembers (by decide)
      (Json.spells_render hproper)
  · exact hcommands.refuses _ _ "type" List.mem_cons_self (by simp) (Json.spells_render hproper')

end Iommu
