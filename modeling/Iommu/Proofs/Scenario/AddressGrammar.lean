/-
  The grammar of written addresses, and that reading accepts it and nothing else.

  `Literal text n` is the grammar of a text without white space around it: a mark for the base, and a
  body that is a signed numeral with underscores put anywhere.  `Written` allows white space at both
  ends.  The crux is that each part can be told from the others.  No character of a literal is white
  space, so trimming finds it (`written_iff_trimmed`), and no decimal body holds the letter of a mark,
  so the mark in front decides the base (`literal_iff_split`).  Since a word is read exactly when it is
  a signed numeral, a text is accepted exactly when it is written for a number below 2 ^ 64
  (`parse_exact`).  In particular a number spelled in either base comes back, whatever zeros,
  underscores, capitals and white space went into it (`Spelled.written`).
-/
import Iommu.Proofs.Text.Numeral
import Iommu.Scenario.AddressLiteral

namespace Iommu.AddressLiteral

open Text (Base Signed isBlank trimmed numeral_of_toDigits readWord_eq_ok_iff)

/-! ## The grammar -/

/-- A body is a text with underscores put anywhere into it. -/
inductive Underscored : List Char → List Char → Prop
  | nil : Underscored [] []
  | underscore {body cs : List Char} (h : Underscored body cs) : Underscored ('_' :: body) cs
  | char {c : Char} {body cs : List Char} (hc : c ≠ '_') (h : Underscored body cs) :
    Underscored (c :: body) (c :: cs)

/-- What may stand in front of the body of a number in either base. -/
def marks : Base → List (List Char)
  | .ten => [[]]
  | .sixteen => [['0', 'x'], ['0', 'X']]

/-- A number as it is written between the white space: a mark and a body. -/
inductive Literal : List Char → Nat → Prop
  | write {b : Base} {mark body cs : List Char} {n : Nat} (hmark : mark ∈ marks b)
    (hbody : Underscored body cs) (h : Signed b cs n) : Literal (mark ++ body) n

/-- A number as it is written, with any white space at either end. -/
inductive Written : List Char → Nat → Prop
  | pad {lead text trail : List Char} {n : Nat} (hlead : ∀ c ∈ lead, isBlank c = true)
    (htrail : ∀ c ∈ trail, isBlank c = true) (h : Literal text n) :
    Written (lead ++ text ++ trail) n

/-- A number spelled in a base: its digits behind any zeros, in letters of either case, with any
    underscores among them and any white space around. -/
inductive Spelled : List Char → Nat → Prop
  | spell {b : Base} {n zeros : Nat} {lead mark body cs trail : List Char}
    (hlead : ∀ c ∈ lead, isBlank c = true) (htrail : ∀ c ∈ trail, isBlank c = true)
    (hmark : mark ∈ marks b) (hbody : Underscored body cs)
    (hdigits : cs.map Char.toLower = List.replicate zeros '0' ++ Nat.toDigits b.toNat n) :
    Spelled (lead ++ (mark ++ body) ++ trail) n

/-- White space around a spelling is allowed, but none is needed. -/
theorem Spelled.written {n : Nat} {cs : List Char} (h : Spelled cs n) : Written cs n := by
  obtain ⟨hlead, htrail, hmark, hbody, hdigits⟩ := h
  exact .pad hlead htrail (.write hmark hbody (.plain (numeral_of_toDigits hdigits)))

/-! ## Underscores -/

/-- The text is the body without its underscores. -/
theorem underscored_iff {body cs : List Char} :
    Underscored body cs ↔ body.filter (· ≠ '_') = cs := by
  constructor
  · intro h
    induction h with
    | nil => rfl
    | underscore h ih => simpa using ih
    | char hc h ih => rw [List.filter_cons_of_pos (by simpa using hc), ih]
  · rintro rfl
    induction body with
    | nil => exact .nil
    | cons c body ih =>
      by_cases hc : c = '_'
      · subst hc
        rw [List.filter_cons_of_neg (by simp)]
        exact .underscore ih
      · rw [List.filter_cons_of_pos (by simpa using hc)]
        exact .char hc ih

/-- Nothing but underscores comes in between. -/
theorem Underscored.mem {body cs : List Char} (h : Underscored body cs) {c : Char} (hc : c ∈ body) :
    c = '_' ∨ c ∈ cs := by
  rw [← underscored_iff.1 h, List.mem_filter]
  by_cases hunderscore : c = '_'
  · exact .inl hunderscore
  · exact .inr ⟨hc, by simpa using hunderscore⟩

/-! ## Where the parts of a literal end -/

/-- A character of a body is an underscore, a sign or a digit. -/
theorem mem_body_cases {b : Base} {body cs : List Char} {n : Nat} (hbody : Underscored body cs)
    (h : Signed b cs n) {c : Char} (hc : c ∈ body) :
    c = '_' ∨ c = '+' ∨ ∃ d, b.digit? c = some d :=
  (hbody.mem hc).imp_right h.plus_or_digit?

/-- No digit is white space, -/
theorem isBlank_of_digit? {b : Base} {c : Char} {d : Nat} (h : b.digit? c = some d) :
    isBlank c = false := by
  have hrange : 48 ≤ c.toNat ∧ c.toNat ≤ 102 := by
    rw [Base.digit?_eq] at h
    split_ifs at h <;> omega
  refine Bool.eq_false_iff.2 fun hblank => ?_
  have hedges := Text.le_or_le_of_isBlank hblank
  omega

/-- and nothing of a prefix is. -/
theorem isBlank_of_mem_mark {b : Base} {mark : List Char} (h : mark ∈ marks b) {c : Char}
    (hc : c ∈ mark) : isBlank c = false := by
  have hall : (marks b).all (fun mark => mark.all fun c => !isBlank c) = true := by cases b <;> rfl
  have hmark := List.all_eq_true.1 hall mark h
  simpa using List.all_eq_true.1 hmark c hc

/-- No white space stands in a literal, so trimming a text takes none of it away. -/
theorem Literal.isBlank_eq_false {text : List Char} {n : Nat} (h : Literal text n) {c : Char}
    (hc : c ∈ text) : isBlank c = false := by
  obtain ⟨hmark, hbody, h⟩ := h
  rcases List.mem_append.1 hc with hc | hc
  · exact isBlank_of_mem_mark hmark hc
  · rcases mem_body_cases hbody h hc with rfl | rfl | ⟨d, hd⟩
    · decide
    · decide
    · exact isBlank_of_digit? hd

/-- The base of a literal is told by its mark, since no decimal body holds the letter of one. -/
theorem split_mark_append {b : Base} {mark body cs : List Char} {n : Nat} (hmark : mark ∈ marks b)
    (hbody : Underscored body cs) (h : Signed b cs n) : split (mark ++ body) = (b, body) := by
  cases b with
  | sixteen =>
    simp only [marks, List.mem_cons, List.not_mem_nil, or_false] at hmark
    rcases hmark with rfl | rfl <;> rfl
  | ten =>
    -- a body that began like a mark would hold its letter, which is no digit of base ten
    have hletter : ∀ c, c = 'x' ∨ c = 'X' → c ∉ body := by
      rintro c hletter hc
      rcases mem_body_cases hbody h hc with rfl | rfl | ⟨d, hd⟩
      · exact absurd hletter (by decide)
      · exact absurd hletter (by decide)
      · rcases hletter with rfl | rfl <;> cases hd
    obtain rfl := List.mem_singleton.1 hmark
    rw [List.nil_append]
    unfold split
    split
    · exact absurd (by simp) (hletter 'x' (.inl rfl))
    · exact absurd (by simp) (hletter 'X' (.inr rfl))
    · rfl

/-- Any text is a mark and a body. -/
theorem exists_mark (text : List Char) :
    ∃ mark ∈ marks (split text).1, text = mark ++ (split text).2 := by
  unfold split
  split
  · exact ⟨['0', 'x'], by simp [marks], rfl⟩
  · exact ⟨['0', 'X'], by simp [marks], rfl⟩
  · exact ⟨[], by simp [marks], rfl⟩

/-- A literal is its prefix, and then digits and underscores. -/
theorem literal_iff_split {text : List Char} {n : Nat} :
    Literal text n ↔ Signed (split text).1 ((split text).2.filter (· ≠ '_')) n := by
  constructor
  · intro h
    obtain ⟨hmark, hbody, h⟩ := h
    rw [split_mark_append hmark hbody h]
    exact (underscored_iff.1 hbody).symm ▸ h
  · intro h
    obtain ⟨mark, hmark, htext⟩ := exists_mark text
    rw [htext]
    exact .write hmark (underscored_iff.2 rfl) h

/-- White space around a literal is all that is trimmed. -/
theorem written_iff_trimmed {cs : List Char} {n : Nat} : Written cs n ↔ Literal (trimmed cs) n := by
  constructor
  · intro h
    obtain ⟨hlead, htrail, h⟩ := h
    rwa [Text.trimmed_append hlead htrail
      (fun c hc => h.isBlank_eq_false (List.mem_of_mem_head? hc))
      (fun c hc => h.isBlank_eq_false (List.mem_of_mem_getLast? hc))]
  · intro h
    obtain ⟨lead, trail, hcs, hlead, htrail⟩ := Text.exists_eq_trimmed cs
    rw [hcs]
    exact .pad hlead htrail h

/-! ## Reading -/

/-- What stands behind the mark of a written address is the word that is read. -/
theorem written_iff {cs : List Char} {n : Nat} : Written cs n ↔
    Signed (split (trimmed cs)).1 ((split (trimmed cs)).2.filter (· ≠ '_')) n :=
  written_iff_trimmed.trans literal_iff_split

/-- A text is read as a number exactly if it is written in the grammar. -/
theorem parse_eq_ok_iff {s : String} {v : UInt64} : parse s = .ok v ↔ Written s.toList v.toNat :=
  readWord_eq_ok_iff.trans written_iff.symm

/-- Every other text is an error, and so is a number that is too large. -/
theorem parse_eq_error_iff {s : String} :
    (∃ e, parse s = .error e) ↔ ∀ n, Written s.toList n → UInt64.size ≤ n := by
  constructor
  · rintro ⟨e, he⟩ n hwritten
    by_contra hlt
    have hn := UInt64.toNat_ofNat_of_lt' (Nat.not_le.1 hlt)
    have hok := parse_eq_ok_iff.2 (hn.symm ▸ hwritten)
    rw [he] at hok
    cases hok
  · intro h
    cases hparse : parse s with
    | error e => exact ⟨e, rfl⟩
    | ok v => exact absurd (h v.toNat (parse_eq_ok_iff.1 hparse)) (Nat.not_le.2 v.toNat_lt_size)

/-- A text is read as an address exactly when it is written for it, and is refused exactly when it is
    written for no number of 64 bits; one written for a larger number is an overflow.  So a number
    comes back from any of its spellings. -/
theorem parse_exact :
    (∀ (s : String) (v : UInt64), parse s = .ok v ↔ Written s.toList v.toNat) ∧
    (∀ s : String, (∃ e, parse s = .error e) ↔ ∀ n, Written s.toList n → UInt64.size ≤ n) ∧
    (∀ (s : String) (n : Nat), Written s.toList n → UInt64.size ≤ n → parse s = .error .overflow) ∧
    ∀ (s : String) (v : UInt64), Spelled s.toList v.toNat → parse s = .ok v := by
  refine ⟨fun _ _ => parse_eq_ok_iff, fun _ => parse_eq_error_iff, ?_, ?_⟩
  · intro s n hwritten hn
    exact (written_iff.1 hwritten).readWord_eq_overflow hn
  · intro s v hspelled
    exact parse_eq_ok_iff.2 hspelled.written

/-- The largest address, with zeros, underscores, capitals and two kinds of white space, and the
    number behind it with a sign. -/
theorem parse_exact_largest :
    Spelled "\u3000\t0X__00_fFfF_FFFF_ffff_FFFF_\n".toList (UInt64.size - 1) ∧
      parse "\u3000\t0X__00_fFfF_FFFF_ffff_FFFF_\n" = .ok 0xFFFFFFFFFFFFFFFF ∧
      Written "+18_446_744_073_709_551_616".toList UInt64.size ∧
      parse "+18_446_744_073_709_551_616" = .error .overflow := by
  have hblank : ∀ c ∈ "\u3000\t".toList, isBlank c = true := List.all_eq_true.1 rfl
  have hline : ∀ c ∈ "\n".toList, isBlank c = true := List.all_eq_true.1 rfl
  have hbody : Underscored "__00_fFfF_FFFF_ffff_FFFF_".toList "00fFfFFFFFffffFFFF".toList :=
    underscored_iff.2 rfl
  have hlower : "00fFfFFFFFffffFFFF".toList.map Char.toLower =
      List.replicate 2 '0' ++ Nat.toDigits Base.sixteen.toNat (UInt64.size - 1) := rfl
  have hspelled : Spelled "\u3000\t0X__00_fFfF_FFFF_ffff_FFFF_\n".toList (UInt64.size - 1) :=
    .spell hblank hline (List.mem_cons_of_mem _ List.mem_cons_self) hbody hlower
  have hdigits : Text.Numeral .ten "18446744073709551616".toList UInt64.size :=
    numeral_of_toDigits (rfl : _ = List.replicate 0 '0' ++ _)
  have hwritten : Written "+18_446_744_073_709_551_616".toList UInt64.size :=
    written_iff.2 (.plus hdigits)
  exact ⟨hspelled, parse_exact.2.2.2 _ 0xFFFFFFFFFFFFFFFF hspelled, hwritten,
    parse_exact.2.2.1 _ _ hwritten (Nat.le_refl _)⟩

end Iommu.AddressLiteral
