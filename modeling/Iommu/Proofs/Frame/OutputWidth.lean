/-
  Output addresses and the width of the output bus.

  A call to translate is answered by one frame: that of the cached entry that grants the access, or
  else that of the entry the last stage holds (`Frame`, `translate_iff_frame`).  No width is tested on
  the way, so the outputs fit the bus exactly when every frame that answers does.

  Whether they do is decided when frames are written and when the width changes.  Mapping a page of a
  PASID tests the frame; changing a shared table does not, and a configuration that narrows the bus is
  put in force over wider frames.  `KeepsWidth` excludes these two, and `InWidth`, that all frames held
  fit the bus, holds throughout a run exactly when every operation of it does (`inWidth_run_iff`).
-/
import Iommu.Proofs.Frame.Held

namespace Iommu

/-- The output bus of a configuration carries an address. -/
def Configuration.Carries (c : Configuration) (a : UInt64) : Prop :=
  fitsIn a c.widths.outputBits = true

instance (c : Configuration) (a : UInt64) : Decidable (c.Carries a) :=
  inferInstanceAs (Decidable (_ = true))

/-- A bus of 32 wires or more does not tell the addresses of a page apart. -/
theorem Configuration.Valid.ofPage_carries {c : Configuration} (h : c.Valid) :
    OfPage c.Carries := by
  intro a b hpage ha
  have hbits : 12 ≤ c.widths.outputBits.toNat := Nat.le_trans (by decide) h.outputBits.1
  rw [Configuration.Carries, ← fitsIn_congr hbits hpage]
  exact ha

namespace Controller

/-! ## The frame that answers -/

/-- The cached entry that answers a transaction, if there is one. -/
def cachedAnswer (c : Controller) (t : Transaction) : Option TlbEntry :=
  (c.lookupCache t).2.filter fun e => e.permissions.allows t.access

/-- The frame that answers a transaction: that of the cached entry, and without one that of the entry
    which the last stage holds. -/
inductive Frame (c : Controller) (t : Transaction) : UInt64 → Prop
  | cached {s : Stream} {e : TlbEntry} : c.streams[t.stream]? = some s →
      c.cachedAnswer t = some e → Frame c t e.physical
  | walked {s : Stream} {first : PageTable} {e : PageEntry} : c.streams[t.stream]? = some s →
      c.cachedAnswer t = none → s.config.translationEnabled = true → s.Enters t first →
      Stream.LastStage first (s.table.map c.resources.table) t e s.config.stageMode →
      Frame c t e.physical

/-- What a call to translate answers. -/
theorem translate_snd {c : Controller} {t : Transaction} {s : Stream}
    (hs : c.streams[t.stream]? = some s) :
    (c.translate t).2 = match c.cachedAnswer t with
      | some e => .ok (e.toTranslation t.address)
      | none => (s.walk c.resources t).mapError StageFault.error := by
  rw [translate_eq]
  refine attempt_cases (P := fun x => x.2 = match c.cachedAnswer t with
      | some e => .ok (e.toTranslation t.address)
      | none => (s.walk c.resources t).mapError StageFault.error) ?_ ?_ ?_
  · intro hn
    rw [hs] at hn
    cases hn
  · intro _ e _ he ha
    rw [cachedAnswer, he, Option.filter_some, if_pos ha]
  · -- an entry that does not grant the access leaves the answer to the walk
    intro s' hs' hmiss
    obtain rfl : s = s' := Option.some.inj (hs.symm.trans hs')
    have hnone : c.cachedAnswer t = none := by
      rw [cachedAnswer, Option.filter_eq_none_iff]
      intro e he
      rw [hmiss e he]
      decide
    rw [hnone, ← resources_lookupCache c t]
    refine walkStream_cases (P := fun x => x.2 = (s.walk (c.lookupCache t).1.resources t).mapError
      StageFault.error) ?_ ?_ ?_
    · intro r hr
      rw [hr]
      rfl
    · intro f hf _
      rw [hf]
      rfl
    · intro f hf _ _
      rw [hf]
      rfl

/-- The outputs of a call that does not bypass are those of the frames that answer it. -/
theorem translate_iff_frame {c : Controller} {t : Transaction} {x : UInt64} :
    (∃ r, (c.translate t).2 = .ok r ∧ r.bypassed = false ∧ r.physical = x) ↔
      ∃ frame, c.Frame t frame ∧ x = inPage frame t.address := by
  constructor
  · rintro ⟨r, hr, hb, rfl⟩
    cases hs : c.streams[t.stream]? with
    | none =>
      rw [translate_eq] at hr
      refine absurd hr (attempt_cases (P := fun x => x.2 ≠ .ok r) (fun _ => nofun) ?_ ?_)
      · intro s _ hs' _ _
        rw [hs] at hs'
        cases hs'
      · intro s hs' _
        rw [hs] at hs'
        cases hs'
    | some s =>
      rw [translate_snd hs] at hr
      cases he : c.cachedAnswer t with
      | some e =>
        rw [he] at hr
        obtain rfl := Except.ok.inj hr
        exact ⟨e.physical, .cached hs he, rfl⟩
      | none =>
        rw [he] at hr
        cases hwalk : s.walk c.resources t with
        | error f =>
          rw [hwalk] at hr
          cases hr
        | ok r' =>
          rw [hwalk] at hr
          obtain rfl : r' = r := Except.ok.inj hr
          have ht := Stream.translationEnabled_of_walk hwalk hb
          obtain ⟨first, henters, hans⟩ := (Stream.walk_eq_ok_iff ht).1 hwalk
          obtain ⟨e, hlast, hphysical⟩ := hans.lastStage hb
          exact ⟨e.physical, .walked hs he ht henters hlast, hphysical⟩
  · rintro ⟨frame, hframe, rfl⟩
    cases hframe with
    | cached hs he =>
      rename_i e
      refine ⟨e.toTranslation t.address, ?_, rfl, rfl⟩
      rw [translate_snd hs, he]
    | walked hs he ht henters hlast =>
      obtain ⟨r, hans, hb, hphysical⟩ := hlast.answers
      refine ⟨r, ?_, hb, hphysical⟩
      rw [translate_snd hs, he, (Stream.walk_eq_ok_iff ht).2 ⟨_, henters, hans⟩]
      rfl

/-- A frame that a translation answers is one that is held. -/
theorem Frame.within {c : Controller} {t : Transaction} {frame : UInt64} {p : UInt64 → Prop}
    (h : c.Frame t frame) (hc : c.Within p) : p frame := by
  cases h with
  | cached _ he => exact hc.cached _ (lookupCache_eq_some (Option.eq_some_of_filter_eq_some he)).1
  | walked hs _ _ henters hlast =>
    refine hlast.within (hc.streams _ _ hs _ _ henters.present) fun table htable => ?_
    obtain ⟨id, -, rfl⟩ := Option.map_eq_some_iff.1 htable
    exact hc.shared id

/-! ## Outputs that fit -/

/-- Every translation that is no bypass answers an address that the output bus carries. -/
def OutputsFit (c : Controller) : Prop :=
  ∀ t r, (c.translate t).2 = .ok r → r.bypassed = false → c.config.Carries r.physical

/-- Every frame held, in tables and in the cache, fits the output bus. -/
def InWidth (c : Controller) : Prop := c.Within c.config.Carries

/-- An operation that succeeds writes to a shared table only frames that the output bus carries, and
    puts a configuration in force only if its bus carries every frame of the tables. -/
def KeepsWidth (c : Controller) (op : Op) : Prop :=
  (c.step op).2.isOk = true → match op with
    | .editTable _ change => ∀ m ∈ change.mappings, c.config.Carries m.physical
    | .updateConfiguration new _ => c.TablesWithin new.Carries
    | _ => True

/-- Addresses fit when frames do. -/
theorem outputsFit_iff {c : Controller} (hw : c.WellFormed) :
    c.OutputsFit ↔ ∀ t frame, c.Frame t frame → c.config.Carries frame := by
  have hpage := hw.config.ofPage_carries
  constructor
  · intro h t frame hframe
    obtain ⟨r, hr, hb, hphysical⟩ := translate_iff_frame.2 ⟨frame, hframe, rfl⟩
    have hcarries := h t r hr hb
    rw [hphysical] at hcarries
    exact hpage.inPage.1 hcarries
  · intro h t r hr hb
    obtain ⟨frame, hframe, hphysical⟩ := translate_iff_frame.1 ⟨r, hr, hb, rfl⟩
    rw [hphysical]
    exact hpage.inPage.2 (h t frame hframe)

/-- Frames that are held in width are answered in width. -/
theorem InWidth.outputsFit {c : Controller} (hw : c.WellFormed) (h : c.InWidth) :
    c.OutputsFit :=
  (outputsFit_iff hw).2 fun _ _ hframe => hframe.within h

/-! ## Steps -/

/-- Only a new configuration changes the width of the output bus. -/
theorem carries_step {c : Controller} {op : Op}
    (hupdate : ∀ new found, op ≠ .updateConfiguration new found) :
    (c.step op).1.config.Carries = c.config.Carries := by
  -- turning the cache on or off is written into the configuration, but no width is
  by_cases hcaching : ∃ b, op = .enableCaching b
  · obtain ⟨b, rfl⟩ := hcaching
    cases b <;> rfl
  · rw [config_step op (fun b hb => hcaching ⟨b, hb⟩) hupdate]

/-- Mapping pages of a PASID tests the frames, and changing a shared table is asked to keep the width:
    so whatever an operation writes the output bus carries. -/
theorem KeepsWidth.carries {c : Controller} (hw : c.WellFormed) {op : Op} (h : c.KeepsWidth op)
    (hok : (c.step op).2.isOk = true) : ∀ m ∈ op.mappings, c.config.Carries m.physical := by
  have htested : ∀ (id : StreamId) (s : Stream) (m : Mapping), c.streams[id]? = some s →
      s.checkWidths m = .ok () → c.config.Carries m.physical := by
    intro id s m hs hm
    have hfits := (Stream.checkWidths_eq_ok_iff.1 hm).2
    rw [hw.limits id s hs] at hfits
    exact hfits
  cases op with
  | map id pasid m =>
    obtain ⟨c', hc⟩ := isOk_settle.1 hok
    obtain ⟨s, t, hs, hm, -, -⟩ := map_eq_ok hc
    intro x hx
    obtain rfl := List.mem_singleton.1 hx
    exact htested id s x hs hm
  | mapPages id pasid ms =>
    obtain ⟨c', hc⟩ := isOk_settle.1 hok
    obtain ⟨s, t, hs, hms, -, -⟩ := mapPages_eq_ok hc
    exact fun x hx => htested id s x hs (Stream.checkAllWidths_eq_ok_iff.1 hms x hx)
  | editTable id change => exact h hok
  | _ => exact nofun

/-- The tables keep the frames they had under a new configuration. -/
theorem tablesWithin_adopt_iff {c : Controller} {new : Configuration} {events : Queue Event}
    {commands : Queue Command} {pageRequests : Queue PageRequest} {p : UInt64 → Prop} :
    (c.adopt new events commands pageRequests).TablesWithin p ↔ c.TablesWithin p := by
  constructor
  · intro h
    refine ⟨fun id s hs => ?_, h.shared⟩
    have hadopted : (c.adopt new events commands pageRequests).streams[id]? =
        some (s.setLimits (limitsOf new)) := by
      show (c.mapStreams fun s => s.setLimits (limitsOf new)).streams[id]? = _
      rw [getElem?_mapStreams, hs, Option.map_some]
    have hwithin : (s.setLimits (limitsOf new)).Within p := h.streams id _ hadopted
    exact hwithin
  · intro h
    exact h.mapStreams (f := fun s => s.setLimits (limitsOf new)) (fun _ => rfl) rfl rfl

/-- As long as the rules stay the bus does. -/
theorem carries_of_not_rulesChanged {old new : Configuration} (h : rulesChanged old new = false) :
    new.Carries = old.Carries := by
  funext a
  rw [Configuration.Carries, Configuration.Carries, (rulesChanged_eq_false.1 h).1]

/-- A new configuration keeps frames in width exactly if those that are held fit its bus. -/
theorem inWidth_updateConfiguration_iff {c : Controller} (h : c.InWidth) (new : Configuration)
    (found : StreamId) :
    (c.step (.updateConfiguration new found)).1.InWidth ↔
      c.KeepsWidth (.updateConfiguration new found) := by
  rw [KeepsWidth, step]
  cases hr : c.updateConfiguration new found with
  | error e =>
    -- refused, so nothing is changed and nothing is asked
    constructor
    · exact fun _ hok => by cases hok
    · exact fun _ => h
  | ok c' =>
    obtain ⟨-, events, commands, pageRequests, -, -, -, rfl⟩ := updateConfiguration_eq_ok hr
    constructor
    · exact fun hin _ => tablesWithin_adopt_iff.1 hin.toTablesWithin
    · intro hk
      refine Within.adopt (hk rfl) (fun hsame e he => ?_) events commands pageRequests
      -- the cache is emptied with the old rules, so what is left was cached at the new width
      rw [carries_of_not_rulesChanged hsame]
      exact h.cached e he

/-- An operation keeps every frame within the width of the bus exactly when it keeps the width. -/
theorem inWidth_step_iff {c : Controller} (hw : c.WellFormed) (h : c.InWidth) (op : Op) :
    (c.step op).1.InWidth ↔ c.KeepsWidth op := by
  have hpage := hw.config.ofPage_carries
  by_cases hupdate : ∃ new found, op = .updateConfiguration new found
  · obtain ⟨new, found, rfl⟩ := hupdate
    exact inWidth_updateConfiguration_iff h new found
  rw [InWidth, carries_step fun new found hnew => hupdate ⟨new, found, hnew⟩]
  constructor
  · intro hin hok
    cases op with
    | updateConfiguration new found => exact absurd ⟨new, found, rfl⟩ hupdate
    | editTable id change =>
      -- an accepted change leaves every mapping it names in the table, where it has to fit
      intro m hm
      have hok' : ((c.resources.table id).step change).isOk = true := by
        rw [← isOk_editTable]
        exact hok
      have htable : (c.step (.editTable id change)).1.resources.table id =
          (c.resources.table id).edit change := by
        rw [step, editTable, PageTable.edit]
        cases hr : (c.resources.table id).step change with
        | error e => rfl
        | ok x =>
          show (c.resources.setTable id x.1).table id = x.1
          rw [Resources.table_setTable, if_pos rfl]
      have hheld := hin.shared id m.input m.entry
      rw [htable] at hheld
      exact hpage.pageBase.1 (hheld (PageTable.lookup_edit hok' hm))
    | _ => trivial
  · intro hk
    exact Within.step h hpage hw (hk.carries hw)

/-- All frames held are within the width of the bus at every point of a run exactly when every
    operation of the run keeps the width. -/
theorem inWidth_run_iff {c : Controller} (hw : c.WellFormed) (h : c.InWidth) (ops : List Op) :
    (∀ n, (c.run (ops.take n)).1.InWidth) ↔
      ∀ n op, ops[n]? = some op → (c.run (ops.take n)).1.KeepsWidth op := by
  constructor
  · intro hall n op hop
    have hnext := hall (n + 1)
    rw [run_take_succ hop] at hnext
    exact (inWidth_step_iff (hw.run _) (hall n) op).1 hnext
  · intro hk
    exact run_take_preserves (P := InWidth) h fun n op hop hin =>
      (inWidth_step_iff (hw.run _) hin op).2 (hk n op hop)

/-- A new controller holds nothing. -/
theorem inWidth_of_create {config : Configuration} {c : Controller} (h : create config = .ok c) :
    c.InWidth := by
  obtain ⟨-, rfl⟩ := create_eq_ok h
  exact within_start ..

/-- In a reachable state the translations that are no bypass answer addresses that the output bus
    carries exactly when every frame that answers fits it.  They do wherever all frames held fit,
    and all frames held fit throughout a run exactly when no operation of it writes a wider frame to
    a shared table or narrows the bus below a frame in a table. -/
theorem outputsFit_run {config : Configuration} {c : Controller} (h : create config = .ok c)
    (ops : List Op) :
    ((c.run ops).1.OutputsFit ↔
      ∀ t frame, (c.run ops).1.Frame t frame → (c.run ops).1.config.Carries frame) ∧
    ((c.run ops).1.InWidth → (c.run ops).1.OutputsFit) ∧
    ((∀ n, (c.run (ops.take n)).1.InWidth) ↔
      ∀ n op, ops[n]? = some op → (c.run (ops.take n)).1.KeepsWidth op) := by
  have hw := wellFormed_of_create h
  exact ⟨outputsFit_iff (hw.run ops), InWidth.outputsFit (hw.run ops),
    inWidth_run_iff hw (inWidth_of_create h) ops⟩

/-- A shared table is filled with a frame that fits, attached and used. -/
theorem outputsFit_run_shared_table :
    let c := start {} [] [] .empty 0
    let ops : List Op := [.configure 1 .stage2Only,
      .createPasid 1 0, .editTable 7 (.map ⟨0x1000, 0xABC000, .full, .nonSecure⟩),
      .attachTable 1 (some 7)]
    create {} = .ok c ∧ (c.run ops).1.OutputsFit ∧
      ((c.run ops).1.translate ⟨1, 0, 0x1123, .read, .nonSecure⟩).2.map Translation.physical =
        .ok 0xABC123 := by
  intro c ops
  have hc : create {} = .ok c := rfl
  obtain ⟨-, hfit, hall⟩ := outputsFit_run hc ops
  -- of the four operations only the change to the shared table is asked anything
  have hkeeps : ∀ n op, ops[n]? = some op → (c.run (ops.take n)).1.KeepsWidth op := by
    intro n op hop
    rcases n with _ | _ | _ | _ | n
    · obtain rfl := Option.some.inj hop
      exact fun _ => trivial
    · obtain rfl := Option.some.inj hop
      exact fun _ => trivial
    · obtain rfl := Option.some.inj hop
      intro _ m hm
      obtain rfl := List.mem_singleton.1 hm
      decide +kernel
    · obtain rfl := Option.some.inj hop
      exact fun _ => trivial
    · cases hop
  exact ⟨hc, hfit (hall.2 hkeeps ops.length), by decide +kernel⟩

/-- Narrowing the bus leaves wider frames in use, and a shared table takes any frame. -/
theorem not_outputsFit_of_wide_frames :
    let c := start {} [] [] .empty 0
    ¬(c.run [.configure 1 {}, .createPasid 1 0,
      .map 1 0 ⟨0x1000, 0x900000000, .full, .nonSecure⟩,
      .updateConfiguration { widths := { outputBits := 32 } } 0]).1.OutputsFit ∧
    ¬(c.run [.configure 1 .stage2Only, .createPasid 1 0,
      .editTable 7 (.map ⟨0x1000, 0x9000000000000, .full, .nonSecure⟩),
      .attachTable 1 (some 7)]).1.OutputsFit := by
  constructor
  · intro h
    have hwide := h ⟨1, 0, 0x1000, .read, .nonSecure⟩
      (.walked 0x900000000 none .full .nonSecure) (by decide +kernel) rfl
    revert hwide
    decide +kernel
  · intro h
    have hwide := h ⟨1, 0, 0x1000, .read, .nonSecure⟩
      (.walked 0x9000000000000 none .full .nonSecure) (by decide +kernel) rfl
    revert hwide
    decide +kernel

end Controller

end Iommu
