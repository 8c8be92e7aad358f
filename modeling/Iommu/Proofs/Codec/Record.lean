/-
  Records as objects: which members count, and that their order does not.

  `fields` goes through the members of an object one by one.  What it arrives at is said at once by
  `fields_eq_ok_iff`: it answers exactly if every name has a text and no known one is repeated, and then
  it has found the members with known names.  So what a reader takes by name depends neither on the
  order of the members nor on those with unknown names (`Takes.decode_perm`), and of a record some of
  whose members were left out it finds the others (`Selects.fields`).
-/
import Mathlib.Data.List.Nodup
import Iommu.Codec.Records
import Iommu.Proofs.Json.Document

namespace Iommu

/-- The members of an object. -/
def Json.members : Json → List (Option String × Json)
  | .obj ms => ms
  | _ => []

namespace Codec

variable {α : Type} {names needed : List String} {ms : List (Option String × Json)}

/-! ## Texts -/

/-- Reads a value from a text; none when the text is no document or the document no such value. -/
def readText (decode : Decoder α) (s : String) : Option α :=
  (Json.parse? s).bind fun j => (decode j).toOption

/-- A text that spells a document is read as the document is. -/
theorem readText_of_spells {j : Json} {s : String} (h : Json.Spells j.tokens s.toList)
    (decode : Decoder α) : readText decode s = (decode j).toOption := by
  rw [readText, Json.parse?_of_spells h, Option.bind_some]

/-! ## Single values -/

/-- A 64-bit number is written in range. -/
theorem word64_ofWord64 (n : UInt64) : word64 (ofWord64 n) = .ok n := by
  have hbound : n.toNat < UInt64.size := n.toNat_lt
  simp only [word64, ofWord64, natural, if_pos hbound, Except.map, UInt64.ofNat_toNat]

/-- So is a 32-bit number. -/
theorem word32_ofWord32 (n : UInt32) : word32 (ofWord32 n) = .ok n := by
  have hbound : n.toNat < UInt32.size := n.toNat_lt
  simp only [word32, ofWord32, natural, if_pos hbound, Except.map, UInt32.ofNat_toNat]

theorem bool_bool (b : Bool) : bool (.bool b) = .ok b := rfl

/-- What is read in two steps is read in both. -/
theorem bind_eq_ok {β : Type} {x : Except DecodeError α} {f : α → Except DecodeError β} {b : β}
    (h : x >>= f = .ok b) : ∃ a, x = .ok a ∧ f a = .ok b := by
  cases x with
  | error => cases h
  | ok a => exact ⟨a, rfl, h⟩

/-! ## What is found -/

/-- The members with known names. -/
def known (names : List String) (ms : List (Option String × Json)) : List (String × Json) :=
  ms.filterMap fun m => m.1.bind fun key => if key ∈ names then some (key, m.2) else none

/-- The known members are those whose names are known. -/
theorem mem_known {key : String} {j : Json} :
    (key, j) ∈ known names ms ↔ (some key, j) ∈ ms ∧ key ∈ names := by
  simp only [known, List.mem_filterMap, Option.bind_eq_some_iff, Option.ite_none_right_eq_some,
    Option.some.injEq, Prod.mk.injEq]
  constructor
  · rintro ⟨⟨_, _⟩, hm, _, rfl, hkey, rfl, rfl⟩
    exact ⟨hm, hkey⟩
  · rintro ⟨hm, hkey⟩
    exact ⟨_, hm, key, rfl, hkey, rfl, rfl⟩

/-- An object can be read as a record: its names have a text, and no known one is repeated. -/
structure Readable (names : List String) (ms : List (Option String × Json)) : Prop where
  named : ∀ m ∈ ms, m.1.isSome
  once : ((known names ms).map Prod.fst).Nodup

/-- A member is found if it stands among those that were found. -/
theorem isSome_get?_iff {f : Fields} {key : String} :
    (f.get? key).isSome = true ↔ key ∈ f.found.map Prod.fst := by
  simp [Fields.get?, List.lookup_isSome_iff]

/-- Members are added to those found so far if none of them is found twice. -/
theorem foldlM_addMember {f f' : Fields} (hf : (f.found.map Prod.fst).Nodup) :
    ms.foldlM (addMember names false) f = .ok f' ↔
      (∀ m ∈ ms, m.1.isSome) ∧
        ((known names ms).map Prod.fst ++ f.found.map Prod.fst).Nodup ∧
        f' = ⟨(known names ms).reverse ++ f.found⟩ := by
  induction ms generalizing f with
  | nil => simpa [known, pure, Except.pure, hf] using eq_comm
  | cons m ms ih =>
    obtain ⟨_ | key, j⟩ := m
    · simp [addMember, bind, Except.bind]
    · by_cases hkey : key ∈ names
      · have hknown : known names ((some key, j) :: ms) = (key, j) :: known names ms := by
          simp [known, hkey]
        by_cases hrepeated : key ∈ f.found.map Prod.fst
        · have hsome := isSome_get?_iff.2 hrepeated
          simp [addMember, hkey, hsome, hknown, bind, Except.bind, hrepeated]
        · have hnone := mt isSome_get?_iff.1 hrepeated
          have hadd : addMember names false f (some key, j) = .ok ⟨(key, j) :: f.found⟩ := by
            simp [addMember, hkey, hnone]
          rw [List.foldlM_cons, hadd, hknown]
          show List.foldlM _ _ _ = _ ↔ _
          have hf' : (((key, j) :: f.found).map Prod.fst).Nodup := List.nodup_cons.2 ⟨hrepeated, hf⟩
          rw [ih (f := ⟨_⟩) hf']
          simp only [List.map_cons, List.perm_middle.nodup_iff, List.cons_append,
            List.reverse_cons, List.append_assoc, List.nil_append, List.forall_mem_cons,
            Option.isSome_some, true_and]
      · have hknown : known names ((some key, j) :: ms) = known names ms := by
          simp [known, hkey]
        have hadd : addMember names false f (some key, j) = .ok f := by
          simp [addMember, hkey]
        rw [List.foldlM_cons, hadd, hknown]
        show List.foldlM _ _ _ = _ ↔ _
        rw [ih hf, List.forall_mem_cons]
        simp

/-- What is found in an object. -/
theorem fields_eq_ok_iff {f : Fields} : fields names false (.obj ms) = .ok f ↔
    Readable names ms ∧ f = ⟨(known names ms).reverse⟩ := by
  rw [fields, foldlM_addMember (f := ⟨[]⟩) List.nodup_nil]
  simp only [List.map_nil, List.append_nil]
  exact ⟨fun ⟨hnamed, honce, hf⟩ => ⟨⟨hnamed, honce⟩, hf⟩,
    fun ⟨h, hf⟩ => ⟨h.named, h.once, hf⟩⟩

/-- A member is found by its name. -/
theorem Readable.get?_eq_some_iff (h : Readable names ms) {key : String} {j : Json} :
    Fields.get? ⟨(known names ms).reverse⟩ key = some j ↔ (some key, j) ∈ ms ∧ key ∈ names := by
  rw [← mem_known, ← List.mem_reverse]
  have honce : ((known names ms).reverse.map Prod.fst).Nodup := by
    rw [List.map_reverse, List.nodup_reverse]
    exact h.once
  rw [Fields.get?, List.lookup_eq_some_iff]
  show (∃ l₁ l₂, (known names ms).reverse = _ ∧ _) ↔ _
  constructor
  · rintro ⟨l₁, l₂, hsplit, -⟩
    rw [hsplit]
    exact List.mem_append_right _ List.mem_cons_self
  · intro hmem
    obtain ⟨l₁, l₂, hsplit⟩ := List.append_of_mem hmem
    refine ⟨l₁, l₂, hsplit, fun p hp => ?_⟩
    rw [hsplit, List.map_append, List.map_cons, List.perm_middle.nodup_iff,
      List.nodup_cons] at honce
    rw [bne_iff_ne]
    rintro rfl
    exact honce.1 (List.mem_append_left _ (List.mem_map.2 ⟨p, hp, rfl⟩))

/-! ## Order, unknown members and missing ones -/

/-- A reading that takes the fields of a record by name and does not go without those it needs. -/
def Takes (names needed : List String) (decode : Decoder α) : Prop :=
  ∃ build : Fields → Except DecodeError α, (∀ j, decode j = fields names false j >>= build) ∧
    (∀ f g : Fields, (∀ key, f.get? key = g.get? key) → build f = build g) ∧
    ∀ f a, build f = .ok a → ∀ key ∈ needed, (f.get? key).isSome = true

/-- Members with unknown names. -/
def Unknown (names : List String) (ms : List (Option String × Json)) : Prop :=
  ∀ m ∈ ms, ∃ key, m.1 = some key ∧ key ∉ names

/-- Nothing among unknown members is known. -/
theorem Unknown.known_eq_nil (h : Unknown names ms) : known names ms = [] := by
  rw [List.eq_nil_iff_forall_not_mem]
  rintro ⟨key, j⟩ hmem
  obtain ⟨hm, hkey⟩ := mem_known.1 hmem
  obtain ⟨_, heq, hunknown⟩ := h _ hm
  exact hunknown (Option.some.inj heq ▸ hkey)

/-- The names of the known members. -/
theorem known_keys_sublist (names : List String) (ms : List (Option String × Json)) :
    (((known names ms).map Prod.fst).map some).Sublist (ms.map Prod.fst) := by
  induction ms with
  | nil => exact .slnil
  | cons m ms ih =>
    obtain ⟨_ | key, j⟩ := m
    · exact ih.cons _
    · by_cases hkey : key ∈ names
      · simpa [known, hkey] using ih
      · simpa [known, hkey] using ih.cons (some key)

section Perm

variable {ms' unknown : List (Option String × Json)}

/-- Unknown members and the order make no difference to what is known. -/
theorem known_perm (hp : ms'.Perm (ms ++ unknown)) (hu : Unknown names unknown) :
    (known names ms').Perm (known names ms) := by
  have hknown := hp.filterMap fun m : Option String × Json =>
    m.1.bind fun key => if key ∈ names then some (key, m.2) else none
  rw [List.filterMap_append] at hknown
  have hnil := hu.known_eq_nil
  rw [known] at hnil
  rwa [hnil, List.append_nil] at hknown

/-- Nor do they make a record unreadable. -/
theorem readable_perm (hp : ms'.Perm (ms ++ unknown)) (hu : Unknown names unknown) :
    Readable names ms' ↔ Readable names ms := by
  have honce := ((known_perm hp hu).map Prod.fst).nodup_iff
  constructor
  · rintro ⟨hnamed', honce'⟩
    exact ⟨fun m hm => hnamed' m (hp.mem_iff.2 (List.mem_append_left _ hm)), honce.1 honce'⟩
  · rintro ⟨hnamed, h⟩
    refine ⟨fun m hm => ?_, honce.2 h⟩
    rcases List.mem_append.1 (hp.mem_iff.1 hm) with hm | hm
    · exact hnamed m hm
    · obtain ⟨key, hkey, -⟩ := hu m hm
      rw [hkey]
      rfl

/-- An object is read alike in any order of its members, and with unknown ones among them. -/
theorem Takes.decode_perm {decode : Decoder α} (h : Takes names needed decode)
    (hp : ms'.Perm (ms ++ unknown)) (hu : Unknown names unknown) :
    (decode (.obj ms')).toOption = (decode (.obj ms)).toOption := by
  obtain ⟨build, hdecode, hbuild, -⟩ := h
  rw [hdecode, hdecode]
  have hreadable := readable_perm hp hu
  by_cases hr : Readable names ms
  · have hr' := hreadable.2 hr
    rw [fields_eq_ok_iff.2 ⟨hr, rfl⟩, fields_eq_ok_iff.2 ⟨hr', rfl⟩]
    refine congrArg Except.toOption (hbuild _ _ fun key => Option.ext fun j => ?_)
    rw [hr.get?_eq_some_iff, hr'.get?_eq_some_iff, ← mem_known, ← mem_known,
      (known_perm hp hu).mem_iff]
  · have hnone : ∀ {ms}, ¬ Readable names ms →
        (fields names false (.obj ms) >>= build).toOption = none := by
      intro ms hr
      cases hf : fields names false (.obj ms) with
      | error => rfl
      | ok f => exact absurd (fields_eq_ok_iff.1 hf).1 hr
    rw [hnone hr, hnone (mt hreadable.1 hr)]

end Perm

/-- An object is not read without a member that is needed. -/
theorem Takes.decode_missing {decode : Decoder α} {key : String} (h : Takes names needed decode)
    (hkey : key ∈ needed) (hmissing : ∀ j, (some key, j) ∉ ms) :
    (decode (.obj ms)).toOption = none := by
  obtain ⟨build, hdecode, -, hneeds⟩ := h
  cases hread : decode (.obj ms) with
  | error => rfl
  | ok a =>
    rw [hdecode] at hread
    obtain ⟨f, hf, ha⟩ := bind_eq_ok hread
    obtain ⟨hr, rfl⟩ := fields_eq_ok_iff.1 hf
    obtain ⟨j, hj⟩ := Option.isSome_iff_exists.1 (hneeds _ a ha key hkey)
    exact absurd (hr.get?_eq_some_iff.1 hj).1 (hmissing j)

/-! ## Members left out -/

/-- The members of an object have these names, in order. -/
def Keyed (keys : List String) (record : Json) : Prop :=
  record.members.map Prod.fst = keys.map some

variable {keys : List String} {record : Json}

/-- Every member has a name with a text. -/
theorem Keyed.named {m : Option String × Json} (h : Keyed keys record) (hm : m ∈ record.members) :
    ∃ key, m.1 = some key := by
  have hkey := List.mem_map_of_mem (f := Prod.fst) hm
  rw [h] at hkey
  obtain ⟨key, -, hkey⟩ := List.mem_map.1 hkey
  exact ⟨key, hkey.symm⟩

theorem Keyed.nodup (h : Keyed keys record) (hn : keys.Nodup) :
    (record.members.map Prod.fst).Nodup :=
  h ▸ hn.map fun _ _ => Option.some.inj

/-- The name of a member. -/
theorem Keyed.getElem? {i : Nat} {key : String} {j : Json} (h : Keyed keys record)
    (hi : record.members[i]? = some (some key, j)) : keys[i]? = some key := by
  have hkey := congrArg (·[i]?) h
  simp only [List.getElem?_map, hi, Option.map_some] at hkey
  obtain ⟨_, hi', heq⟩ := Option.map_eq_some_iff.1 hkey.symm
  exact Option.some.inj heq ▸ hi'

/-- No name has two values. -/
theorem Keyed.inj {key : String} {j j' : Json} (h : Keyed keys record) (hn : keys.Nodup)
    (hmem : (some key, j) ∈ record.members) (hmem' : (some key, j') ∈ record.members) : j = j' :=
  congrArg Prod.snd (List.inj_on_of_nodup_map (h.nodup hn) hmem hmem' rfl)

/-- The members of an object are those of a record that are kept, in any order, among unknown ones. -/
def Selects (names : List String) (kept : String → Bool) (record : Json)
    (ms : List (Option String × Json)) : Prop :=
  ∃ unknown, Unknown names unknown ∧
    ms.Perm (record.members.filter (fun m => m.1.any kept) ++ unknown)

variable {kept : String → Bool}

/-- Whatever is kept of a record is readable. -/
theorem Selects.readable (h : Selects names kept record ms) (hkeys : Keyed keys record)
    (hn : keys.Nodup) : Readable names ms := by
  obtain ⟨unknown, hu, hp⟩ := h
  refine (readable_perm hp hu).2 ⟨fun m hm => ?_, ?_⟩
  · obtain ⟨key, hkey⟩ := hkeys.named (List.mem_filter.1 hm).1
    rw [hkey]
    rfl
  · have hsublist := (List.filter_sublist (p := fun m : Option String × Json => m.1.any kept)
      (l := record.members)).map Prod.fst
    have honce := ((known_keys_sublist names _).trans hsublist).nodup (hkeys.nodup hn)
    exact honce.of_map

/-- A record is a selection of itself. -/
theorem Keyed.selects (h : Keyed keys record) (names : List String) :
    Selects names (fun _ => true) record record.members := by
  refine ⟨[], nofun, ?_⟩
  have hall : record.members.filter (fun m => m.1.any fun _ => true) = record.members := by
    refine List.filter_eq_self.2 fun m hm => ?_
    obtain ⟨key, hkey⟩ := h.named hm
    rw [hkey]
    rfl
  rw [hall, List.append_nil]

/-- A member of the record is found if it is kept. -/
theorem Selects.fields (h : Selects names kept record ms) (hkeys : Keyed keys record)
    (hn : keys.Nodup) : ∃ f, fields names false (.obj ms) = .ok f ∧
      ∀ (i : Nat) {key : String} {j : Json}, record.members[i]? = some (some key, j) →
        names[i]? = some key → f.get? key = if kept key then some j else none := by
  have hr := h.readable hkeys hn
  refine ⟨_, fields_eq_ok_iff.2 ⟨hr, rfl⟩, fun i key j hj hi => Option.ext fun j' => ?_⟩
  have hmem := List.mem_of_getElem? hj
  have hkey := List.mem_of_getElem? hi
  obtain ⟨unknown, hu, hp⟩ := h
  rw [hr.get?_eq_some_iff, Option.ite_none_right_eq_some, Option.some.injEq, hp.mem_iff,
    List.mem_append, List.mem_filter, Option.any_some]
  constructor
  · rintro ⟨⟨hmem', hkept⟩ | hunknown, -⟩
    · exact ⟨hkept, hkeys.inj hn hmem hmem'⟩
    · obtain ⟨_, heq, hnot⟩ := hu _ hunknown
      exact absurd (Option.some.inj heq ▸ hkey) hnot
  · rintro ⟨hkept, rfl⟩
    exact ⟨Or.inl ⟨hmem, hkept⟩, hkey⟩

/-! ## Fields -/

namespace Fields

variable {f : Fields} {key : String} {j : Json} {decode : Decoder α} {v : α} {b : Bool}

/-- A member that may be left out. -/
theorem optional_of_get? (hget : f.get? key = if b then some j else none) (hj : decode j = .ok v)
    (d : α) : f.optional key d decode = .ok (if b then v else d) := by
  rw [optional, hget]
  cases b with
  | true => exact hj
  | false => rfl

/-- A member that has to be present. -/
theorem required_of_get? (hget : f.get? key = if b then some j else none) (hj : decode j = .ok v) :
    f.required key decode = if b then .ok v else .error (.missing key) := by
  rw [required, hget]
  cases b with
  | true => exact hj
  | false => rfl

/-- A required member that was read was there. -/
theorem isSome_of_required (h : f.required key decode = .ok v) : (f.get? key).isSome = true := by
  rw [required] at h
  split at h
  · rename_i hget
    rw [hget]
    rfl
  · cases h

end Fields

end Codec

end Iommu
