/-
  Configurations as texts: what is written is read back and checked.

  A document may be edited before it is read: members change places, unknown ones are added, members
  that are written for the default too are left out, and white space is anything.  `Abridges` says so
  for one record, and `Variant` for a configuration and its sections.  The crux is that every member is
  then taken at its value (`Abridges.fields`): it is found, or it was left out and the value is the
  default.
-/
import Iommu.Codec.Configuration
import Iommu.Controller.State
import Iommu.Proofs.Codec.Record
import Iommu.Proofs.Json.Soundness

namespace Iommu

namespace Codec

/-- An object holds the members of a record, in any order, among unknown ones; members may be left out
    that are written for the default too. -/
def Abridges (names : List String) (default written record j : Json) : Prop :=
  ∃ kept ms, j = .obj ms ∧ Selects names kept record ms ∧
    ∀ m ∈ written.members, m.1.any kept = false → m ∈ default.members

variable {names : List String} {default written record j : Json}

/-- Every member is taken at its value. -/
theorem Abridges.fields (h : Abridges names default written record j) (hn : names.Nodup)
    (hd : Keyed names default) (hr : Keyed names record) :
    ∃ f, fields names false j = .ok f ∧
      ∀ (i : Nat) {β : Type} {key : String} {jd jw jr : Json} {decode : Decoder β} {d v : β},
        default.members[i]? = some (some key, jd) → written.members[i]? = some (some key, jw) →
        record.members[i]? = some (some key, jr) →
        decode jd = .ok d → decode jw = .ok v → decode jr = .ok v →
        f.optional key d decode = .ok v := by
  obtain ⟨kept, ms, rfl, hselects, hkept⟩ := h
  obtain ⟨f, hf, hget⟩ := hselects.fields hr hn
  refine ⟨f, hf, fun i β key jd jw jr decode d v hjd hjw hjr hdecode hdecode' hdecode'' => ?_⟩
  rw [Fields.optional_of_get? (hget i hjr (hr.getElem? hjr)) hdecode'' d]
  split
  · rfl
  · rename_i hdropped
    -- the member is that of the default, so its value is the default
    have hmem := hkept _ (List.mem_of_getElem? hjw) (by simpa using hdropped)
    rw [hd.inj hn hmem (List.mem_of_getElem? hjd), hdecode] at hdecode'
    exact hdecode'

/-- A record abridges itself. -/
theorem Keyed.abridges (h : Keyed names record) :
    Abridges names default record record (.obj record.members) :=
  ⟨fun _ => true, _, rfl, h.selects names, fun m hm hdropped => by
    obtain ⟨key, hkey⟩ := h.named hm
    rw [hkey] at hdropped
    cases hdropped⟩

end Codec

namespace Configuration

open Codec

/-! ## Sections -/

/-- The members of the section for the queues, as they are written. -/
def Queues.names : List String :=
  ["eventQueueSize", "commandQueueSize", "priQueueSize", "faultLogSize"]

/-- The members of the section for the cache, as they are written. -/
def Cache.names : List String := ["tlbCacheSize", "cacheMaxAgeMs", "enableCaching"]

/-- The members of the section for widths and tables, as they are written. -/
def Widths.names : List String := ["maxIovaBits", "maxPaBits", "maxStreamCount", "maxPasidCount"]

/-- The members of the section for the resource limits, as they are written. -/
def Limits.names : List String :=
  ["maxMemoryUsage", "maxThreadCount", "timeoutMs", "enableResourceTracking"]

/-- A document for a section. -/
def SectionVariant {α : Type} [Inhabited α] (names : List String) (encode : α → Json) (a : α)
    (j : Json) : Prop :=
  Abridges names (encode default) (encode a) (encode a) j

/-- Every field of a section is taken at its value. -/
theorem SectionVariant.fields {α : Type} [Inhabited α] {names : List String} {encode : α → Json}
    {a : α} {j : Json} (h : SectionVariant names encode a j) (hn : names.Nodup)
    (hkeyed : ∀ a, Keyed names (encode a)) :
    ∃ f, fields names false j = .ok f ∧
      ∀ (i : Nat) {β : Type} {key : String} {field : β → Json} {decode : Decoder β} {d v : β},
        (∀ b, decode (field b) = .ok b) →
        (encode default).members[i]? = some (some key, field d) →
        (encode a).members[i]? = some (some key, field v) →
        f.optional key d decode = .ok v := by
  obtain ⟨f, hf, hget⟩ := Abridges.fields h hn (hkeyed _) (hkeyed _)
  exact ⟨f, hf, fun i _ _ _ _ d v hfield hd hv =>
    hget i hd hv hv (hfield d) (hfield v) (hfield v)⟩

variable {j : Json}

/-- An edited section for the queues is read as what it was made from. -/
theorem Queues.decode_variant {q : Queues} (h : SectionVariant names encode q j) :
    decode j = .ok q := by
  obtain ⟨f, hf, hget⟩ := h.fields (by decide) fun _ => rfl
  have hevents := hget 0 (v := q.events) word64_ofWord64 rfl rfl
  have hcommands := hget 1 (v := q.commands) word64_ofWord64 rfl rfl
  have hrequests := hget 2 (v := q.pageRequests) word64_ofWord64 rfl rfl
  have hlog := hget 3 (v := q.faultLog) word64_ofWord64 rfl rfl
  rw [names] at hf
  simp only [decode, hf, hevents, hcommands, hrequests, hlog, bind, Except.bind, pure, Except.pure]

theorem Cache.decode_variant {c : Cache} (h : SectionVariant names encode c j) :
    decode j = .ok c := by
  obtain ⟨f, hf, hget⟩ := h.fields (by decide) fun _ => rfl
  have hsize := hget 0 (v := c.size) word64_ofWord64 rfl rfl
  have hage := hget 1 (v := c.maxAgeMs) word64_ofWord64 rfl rfl
  have henabled := hget 2 (v := c.enabled) bool_bool rfl rfl
  rw [names] at hf
  simp only [decode, hf, hsize, hage, henabled, bind, Except.bind, pure, Except.pure]

theorem Widths.decode_variant {w : Widths} (h : SectionVariant names encode w j) :
    decode j = .ok w := by
  obtain ⟨f, hf, hget⟩ := h.fields (by decide) fun _ => rfl
  have hinput := hget 0 (v := w.inputBits) word32_ofWord32 rfl rfl
  have houtput := hget 1 (v := w.outputBits) word32_ofWord32 rfl rfl
  have hstreams := hget 2 (v := w.streams) word64_ofWord64 rfl rfl
  have hpasids := hget 3 (v := w.pasids) word64_ofWord64 rfl rfl
  rw [names] at hf
  simp only [decode, hf, hinput, houtput, hstreams, hpasids, bind, Except.bind, pure, Except.pure]

theorem Limits.decode_variant {l : Limits} (h : SectionVariant names encode l j) :
    decode j = .ok l := by
  obtain ⟨f, hf, hget⟩ := h.fields (by decide) fun _ => rfl
  have hmemory := hget 0 (v := l.memory) word64_ofWord64 rfl rfl
  have hthreads := hget 1 (v := l.threads) word64_ofWord64 rfl rfl
  have htimeout := hget 2 (v := l.timeoutMs) word64_ofWord64 rfl rfl
  have htracking := hget 3 (v := l.tracking) bool_bool rfl rfl
  rw [names] at hf
  simp only [decode, hf, hmemory, hthreads, htimeout, htracking, bind, Except.bind, pure,
    Except.pure]

/-! ## The whole -/

/-- The sections, as they are written, and the one setting that stands for itself. -/
def names : List String := ["queue", "cache", "address", "limits", "allowPasidZero"]

/-- A document for a configuration: every section may be edited, and so may the whole. -/
def Variant (c : Configuration) (j : Json) : Prop :=
  ∃ queue cache address limits,
    SectionVariant Queues.names Queues.encode c.queues queue ∧
    SectionVariant Cache.names Cache.encode c.cache cache ∧
    SectionVariant Widths.names Widths.encode c.widths address ∧
    SectionVariant Limits.names Limits.encode c.limits limits ∧
    Abridges names (default : Configuration).encode c.encode
      (.ofFields
        [("queue", queue), ("cache", cache), ("address", address), ("limits", limits),
         ("allowPasidZero", .bool c.allowPasidZero)]) j

/-- What is written is one of its own variants. -/
theorem variant_encode (c : Configuration) : Variant c c.encode :=
  ⟨c.queues.encode, c.cache.encode, c.widths.encode, c.limits.encode, Keyed.abridges rfl,
    Keyed.abridges rfl, Keyed.abridges rfl, Keyed.abridges rfl, Keyed.abridges rfl⟩

/-- An edited document is read as the configuration it was made from. -/
theorem decode_variant {c : Configuration} (h : Variant c j) : decode j = .ok c := by
  obtain ⟨queue, cache, address, limits, hqueue, hcache, haddress, hlimits, h⟩ := h
  obtain ⟨f, hf, hget⟩ := h.fields (by decide) rfl rfl
  -- a section that was left out is written like that of the default
  have hqueue := hget 0 rfl rfl rfl (Queues.decode_variant (Keyed.abridges rfl))
    (Queues.decode_variant (Keyed.abridges rfl)) (Queues.decode_variant hqueue)
  have hcache := hget 1 rfl rfl rfl (Cache.decode_variant (Keyed.abridges rfl))
    (Cache.decode_variant (Keyed.abridges rfl)) (Cache.decode_variant hcache)
  have haddress := hget 2 rfl rfl rfl (Widths.decode_variant (Keyed.abridges rfl))
    (Widths.decode_variant (Keyed.abridges rfl)) (Widths.decode_variant haddress)
  have hlimits := hget 3 rfl rfl rfl (Limits.decode_variant (Keyed.abridges rfl))
    (Limits.decode_variant (Keyed.abridges rfl)) (Limits.decode_variant hlimits)
  have hpasid := hget 4 rfl rfl rfl (bool_bool _) (bool_bool c.allowPasidZero) (bool_bool _)
  rw [names] at hf
  simp only [decode, hf, hqueue, hcache, haddress, hlimits, hpasid, bind, Except.bind, pure,
    Except.pure]

/-! ## Texts -/

/-- A configuration if it is valid, otherwise the first thing wrong with it. -/
def checked (c : Configuration) : Except LoadError Configuration :=
  match c.problem? with
  | some p => .error (.setting p)
  | none => .ok c

/-- An edited text is read as the configuration, and checked. -/
theorem parse_of_spells {c : Configuration} {s : String} (h : Variant c j)
    (hs : Json.Spells j.tokens s.toList) : parse s = c.checked := by
  rw [parse, Json.parse?_of_spells hs]
  simp only [decode_variant h]
  rfl

/-- The numbers of a configuration are written as plain runs of digits. -/
theorem proper_encode (c : Configuration) : c.encode.Proper := by
  simp [encode, Queues.encode, Cache.encode, Widths.encode, Limits.encode, Json.ofFields, ofWord64,
    ofWord32, Json.Proper, Json.ProperMembers]

/-- The text that is written spells the document. -/
theorem spells_render (c : Configuration) : Json.Spells c.encode.tokens c.render.toList :=
  Json.spells_render c.proper_encode

/-- Whatever configuration is read, a controller can be made for it. -/
theorem create_of_parse {c : Configuration} {s : String} (h : parse s = .ok c) :
    ∃ k, Controller.create c = .ok k := by
  unfold Controller.create
  rw [problem?_of_parse h]
  exact ⟨_, rfl⟩

/-- A text is no document exactly if there is none that it spells. -/
theorem parse_eq_malformed_iff {s : String} :
    parse s = .error .malformed ↔ ∀ j : Json, ¬ Json.Spells j.tokens s.toList := by
  rw [parse]
  constructor
  · intro h j hj
    rw [Json.parse?_of_spells hj] at h
    dsimp only at h
    split at h
    · cases h
    · split at h <;> cases h
  · intro h
    cases hread : Json.parse? s with
    | none => rfl
    | some j => exact absurd (Json.parse?_eq_some_iff.1 hread) (h j)

/-- A configuration that is read is that of a document which the text spells, and is read again from what
    is written of this document. -/
theorem document_of_parse {c : Configuration} {s : String} (h : parse s = .ok c) :
    ∃ j : Json, Json.Spells j.tokens s.toList ∧ decode j = .ok c ∧ parse j.render = .ok c := by
  cases hread : Json.parse? s with
  | none =>
    rw [parse, hread] at h
    cases h
  | some j =>
    have hagain : parse j.render = parse s := by
      rw [parse, parse, Json.parse?_render hread, hread]
    refine ⟨j, Json.parse?_eq_some_iff.1 hread, ?_, hagain.trans h⟩
    rw [parse, hread] at h
    dsimp only at h
    split at h
    · cases h
    · rename_i c' hdecode
      split at h
      · cases h
      · rwa [Except.ok.inj h] at hdecode

/-- A configuration is read back from what is written of it, and checked; so it is however the document
    is edited and laid out.  A text that spells no document is malformed, and whatever is read comes from
    a document that the text spells and is fit for a controller. -/
theorem parse_render (c : Configuration) :
    parse c.render = c.checked ∧
      (∀ j s, Variant c j → Json.Spells j.tokens s.toList → parse s = c.checked) ∧
      (Variant c c.encode ∧ Json.Spells c.encode.tokens c.render.toList) ∧
      (∀ s, parse s = .error .malformed ↔ ∀ j : Json, ¬ Json.Spells j.tokens s.toList) ∧
      ∀ s c', parse s = .ok c' →
        (∃ j : Json, Json.Spells j.tokens s.toList ∧ decode j = .ok c' ∧ parse j.render = .ok c') ∧
          ∃ k, Controller.create c' = .ok k :=
  ⟨parse_of_spells c.variant_encode c.spells_render, fun _ _ => parse_of_spells,
    ⟨c.variant_encode, c.spells_render⟩, fun _ => parse_eq_malformed_iff,
    fun _ _ h => ⟨document_of_parse h, create_of_parse h⟩⟩

/-- A small cache, and no PASID 0. -/
def sparse : Configuration := { cache := { size := 64 }, allowPasidZero := false }

/-- Its section for the cache, with a remark. -/
def sparseCache : Json := .ofFields [("unit", .ofString "entries"), ("tlbCacheSize", .natural 64)]

/-- It may be written with its two settings only, in the other order and with a remark. -/
def sparseDocument : Json :=
  .ofFields
    [("allowPasidZero", .bool false), ("cache", sparseCache),
     ("remark", .arr [.number "1e400", .null])]

/-- The remark is unknown, and the settings left out are those of the default. -/
theorem variant_sparseCache : SectionVariant Cache.names Cache.encode sparse.cache sparseCache := by
  have hdefault : (default : Cache) = {} := rfl
  refine ⟨(· == "tlbCacheSize"), _, rfl, ⟨[(some "unit", .ofString "entries")], ?_, ?_⟩, ?_⟩
  · simp [Unknown, Cache.names]
  · exact .swap _ _ _
  · simp [hdefault, Cache.encode, Json.ofFields, Json.members, sparse]

/-- So they are in the whole document. -/
theorem variant_sparseDocument : Variant sparse sparseDocument := by
  have hdefault : (default : Configuration) = {} := rfl
  refine ⟨_, sparseCache, _, _, Keyed.abridges rfl, variant_sparseCache, Keyed.abridges rfl,
    Keyed.abridges rfl, fun key => key == "cache" || key == "allowPasidZero", _, rfl,
    ⟨[(some "remark", .arr [.number "1e400", .null])], ?_, ?_⟩, ?_⟩
  · simp [Unknown, names]
  · exact .swap _ _ _
  · simp [hdefault, encode, Json.ofFields, Json.members, sparse]

/-- A number in a remark has to be a number too. -/
theorem proper_sparseDocument : sparseDocument.Proper := by
  have hwhole : Json.Whole ['1'] := by simp [Json.Whole, Json.Digits, Char.isDigit]
  have hexponent : Json.Exponent ['e', '4', '0', '0'] :=
    .unsigned (.inl rfl) (by simp [Json.Digits, Char.isDigit])
  have hnumber : Json.SpellsNumber (.number "1e400") ['1', 'e', '4', '0', '0'] :=
    .literal (.inl rfl) hwhole .absent hexponent (.inr (.inr (List.cons_ne_nil _ _)))
  simp [sparseDocument, sparseCache, Json.ofFields, Json.ofString, Json.Proper, Json.ProperMembers,
    Json.ProperElements, hnumber]

/-- A tab and a blank line do no harm, and neither does a number too large for a float. -/
theorem parse_render_sparse : Variant sparse sparseDocument ∧
    Json.Spells sparseDocument.tokens ("\t\n" ++ sparseDocument.render).toList ∧
    parse ("\t\n" ++ sparseDocument.render) = .ok sparse := by
  have hspells : Json.Spells sparseDocument.tokens ("\t\n" ++ sparseDocument.render).toList := by
    rw [String.toList_append]
    exact (Json.spells_render proper_sparseDocument).blank (by simp [Json.Blank, Json.isSpace])
  refine ⟨variant_sparseDocument, hspells, ?_⟩
  rw [(parse_render sparse).2.1 _ _ variant_sparseDocument hspells]
  rfl

end Configuration

end Iommu
