/-
  What a written number is, and that reading finds exactly these.

  A numeral is one digit or more, small and capital letters alike, and denotes a number by its places:
  `Numeral b cs n` says so with the value of positional notation, and not with the running sum that
  the reader keeps.  The crux is a single digit (`Base.digit?_eq_some_iff`): the ranges of code points
  that the reader tests hold just the characters of the digits in either case.  From it a word is read
  exactly when it is a signed numeral below 2 ^ 64 (`readWord_eq_ok_iff`), a larger one is an overflow
  and never a smaller number (`Signed.readWord_eq_overflow`), and a number comes back from its own
  digits with any zeros in front (`numeral_of_toDigits`).
-/
import Mathlib.Data.Nat.Digits.Defs
import Mathlib.Tactic.SplitIfs
import Iommu.Text.Natural

namespace Iommu.Text

/-! ## One digit -/

/-- Lower case in numbers: 32 more for an ASCII capital. -/
theorem toNat_toLower (c : Char) :
    c.toLower.toNat = if 65 ≤ c.toNat ∧ c.toNat ≤ 90 then c.toNat + 32 else c.toNat := by
  unfold Char.toLower
  split
  case isTrue hcapital =>
    have hlow : 65 ≤ c.toNat := hcapital.1
    have hhigh : c.toNat ≤ 90 := hcapital.2
    rw [if_pos ⟨hlow, hhigh⟩]
    have hshift : ('a'.val - 'A'.val).toNat = 32 := by decide
    have hsum : (c.val + ('a'.val - 'A'.val)).toNat = c.toNat + 32 := by
      rw [UInt32.toNat_add, hshift]
      exact Nat.mod_eq_of_lt (by show c.toNat + 32 < 2 ^ 32; omega)
    exact hsum
  case isFalse hother => exact (if_neg hother).symm

/-- A small letter stays as it is. -/
theorem toLower_toLower (c : Char) : c.toLower.toLower = c.toLower := by
  rw [← Char.toNat_inj, toNat_toLower c.toLower, toNat_toLower c]
  split_ifs <;> omega

/-- The code of a digit below sixteen. -/
theorem toNat_digitChar :
    ∀ {d : Nat}, d < 16 → d.digitChar.toNat = if d < 10 then 48 + d else 87 + d := by
  decide

theorem toLower_digitChar : ∀ {d : Nat}, d < 16 → d.digitChar.toLower = d.digitChar := by
  decide

namespace Base

theorem toNat_le (b : Base) : b.toNat ≤ 16 := by cases b <;> decide

theorem one_lt_toNat (b : Base) : 1 < b.toNat := by cases b <;> decide

/-- The value of a digit by its code point. -/
theorem digit?_eq (b : Base) (c : Char) : b.digit? c =
    if 48 ≤ c.toNat ∧ c.toNat ≤ 57 then some (c.toNat - 48)
    else if b = sixteen ∧ 97 ≤ c.toNat ∧ c.toNat ≤ 102 then some (c.toNat - 87)
    else if b = sixteen ∧ 65 ≤ c.toNat ∧ c.toNat ≤ 70 then some (c.toNat - 55)
    else none := rfl

/-- A character has the value of the digit that it is, whatever its case. -/
theorem digit?_eq_some_iff {b : Base} {c : Char} {d : Nat} :
    b.digit? c = some d ↔ d < b.toNat ∧ c.toLower = d.digitChar := by
  have hright : (d < b.toNat ∧ c.toLower = d.digitChar) ↔ d < b.toNat ∧
      (if 65 ≤ c.toNat ∧ c.toNat ≤ 90 then c.toNat + 32 else c.toNat) =
        if d < 10 then 48 + d else 87 + d := by
    refine and_congr_right fun hd => ?_
    rw [← Char.toNat_inj, toNat_toLower, toNat_digitChar (Nat.lt_of_lt_of_le hd b.toNat_le)]
  rw [hright, digit?_eq]
  -- what is left is arithmetic of code points, range by range
  cases b <;> simp only [toNat, reduceCtorEq, false_and, true_and, if_false]
  all_goals split_ifs <;> simp only [Option.some.injEq, false_iff] <;> omega

end Base

/-! ## Numerals -/

/-- Digits of a base, at least one, of either case, that denote a number by their places. -/
def Numeral (b : Base) (cs : List Char) (n : Nat) : Prop :=
  cs ≠ [] ∧ ∃ ds : List Nat, (∀ d ∈ ds, d < b.toNat) ∧ cs.map Char.toLower = ds.map Nat.digitChar ∧
    Nat.ofDigits b.toNat ds.reverse = n

/-- A numeral with a plus sign in front, or with none. -/
inductive Signed (b : Base) : List Char → Nat → Prop
  | plain {cs : List Char} {n : Nat} (h : Numeral b cs n) : Signed b cs n
  | plus {cs : List Char} {n : Nat} (h : Numeral b cs n) : Signed b ('+' :: cs) n

/-- Characters are digits exactly when they are the characters of some digits but for their case. -/
theorem mapM_digit?_eq_some_iff {b : Base} {cs : List Char} {ds : List Nat} :
    cs.mapM b.digit? = some ds ↔
      (∀ d ∈ ds, d < b.toNat) ∧ cs.map Char.toLower = ds.map Nat.digitChar := by
  induction cs generalizing ds with
  | nil => cases ds <;> simp
  | cons c cs ih =>
    simp only [List.mapM_cons, Option.bind_eq_bind, Option.bind_eq_some_iff, Option.pure_def, ih,
      Base.digit?_eq_some_iff]
    constructor
    · rintro ⟨d, ⟨hd, hc⟩, ds, ⟨hds, hcs⟩, ⟨⟩⟩
      exact ⟨List.forall_mem_cons.2 ⟨hd, hds⟩, congrArg₂ List.cons hc hcs⟩
    · rintro ⟨hall, hmap⟩
      cases ds with
      | nil => cases hmap
      | cons d ds =>
        obtain ⟨hd, hds⟩ := List.forall_mem_cons.1 hall
        obtain ⟨hc, hcs⟩ := List.cons_eq_cons.1 hmap
        exact ⟨d, ⟨hd, hc⟩, ds, ⟨hds, hcs⟩, rfl⟩

/-- The running sum of digits is their value by places. -/
theorem valueFrom_zero (b : Base) (ds : List Nat) :
    valueFrom b 0 ds = Nat.ofDigits b.toNat ds.reverse := by
  rw [Nat.ofDigits_eq_foldr, List.foldr_reverse, valueFrom]
  congr 1
  funext n d
  rw [Nat.cast_id, Nat.mul_comm, Nat.add_comm]

/-- The reader accepts exactly the numerals whose value fits in 64 bits. -/
theorem readDigits_eq_ok_iff {b : Base} {cs : List Char} (h : cs ≠ []) {n : Nat} :
    readDigits b 0 cs = .ok n ↔ Numeral b cs n ∧ n < UInt64.size := by
  rw [readDigits_eq_ok (by decide)]
  constructor
  · rintro ⟨ds, hds, hvalue, hn⟩
    obtain ⟨hall, hmap⟩ := mapM_digit?_eq_some_iff.1 hds
    exact ⟨⟨h, ds, hall, hmap, (valueFrom_zero b ds).symm.trans hvalue⟩, hn⟩
  · rintro ⟨⟨-, ds, hall, hmap, hvalue⟩, hn⟩
    exact ⟨ds, mapM_digit?_eq_some_iff.2 ⟨hall, hmap⟩, (valueFrom_zero b ds).trans hvalue, hn⟩

namespace Numeral

variable {b : Base} {cs : List Char} {n : Nat}

theorem exists_digit? (h : Numeral b cs n) {c : Char} (hc : c ∈ cs) : ∃ d, b.digit? c = some d := by
  obtain ⟨-, ds, hall, hmap, -⟩ := h
  have hmem : c.toLower ∈ ds.map Nat.digitChar := hmap ▸ List.mem_map_of_mem hc
  obtain ⟨d, hd, hdigit⟩ := List.mem_map.1 hmem
  exact ⟨d, Base.digit?_eq_some_iff.2 ⟨hall d hd, hdigit.symm⟩⟩

/-- A numeral too large for 64 bits is an overflow, not a bad digit. -/
theorem readDigits_eq_overflow (h : Numeral b cs n) (hn : UInt64.size ≤ n) :
    readDigits b 0 cs = .error .overflow := by
  obtain ⟨-, ds, hall, hmap, hvalue⟩ := h
  rw [← valueFrom_zero] at hvalue
  exact Text.readDigits_eq_overflow (mapM_digit?_eq_some_iff.2 ⟨hall, hmap⟩) (by decide) (hvalue ▸ hn)

/-- A sign is no digit. -/
theorem head?_ne_plus (h : Numeral b cs n) : cs.head? ≠ some '+' := by
  intro hplus
  obtain ⟨d, hd⟩ := h.exists_digit? (List.mem_of_mem_head? hplus)
  cases b <;> cases hd

end Numeral

/-! ## Words -/

theorem readWord_plus (b : Base) {cs : List Char} (h : cs ≠ []) :
    readWord b ('+' :: cs) = (readDigits b 0 cs).map UInt64.ofNat := by
  obtain ⟨c, cs, rfl⟩ := List.exists_cons_of_ne_nil h
  rfl

theorem readWord_plain (b : Base) {cs : List Char} (h : cs ≠ []) (hplus : cs.head? ≠ some '+') :
    readWord b cs = (readDigits b 0 cs).map UInt64.ofNat := by
  fun_cases readWord b cs with
  | case1 => exact absurd rfl h
  | case2 => exact absurd rfl hplus
  | case3 => exact absurd rfl hplus
  | case4 => rfl

theorem map_readDigits_eq_ok_iff {b : Base} {cs : List Char} (h : cs ≠ []) {v : UInt64} :
    (readDigits b 0 cs).map UInt64.ofNat = .ok v ↔ Numeral b cs v.toNat := by
  constructor
  · intro hread
    cases hdigits : readDigits b 0 cs with
    | error e => rw [hdigits] at hread; cases hread
    | ok n =>
      rw [hdigits] at hread
      cases hread
      obtain ⟨hnumeral, hn⟩ := (readDigits_eq_ok_iff h).1 hdigits
      rwa [UInt64.toNat_ofNat_of_lt' hn]
  · intro hnumeral
    rw [(readDigits_eq_ok_iff h).2 ⟨hnumeral, v.toNat_lt_size⟩]
    exact congrArg Except.ok UInt64.ofNat_toNat

/-- A word is read as a number exactly when it is a numeral of that number, signed or not. -/
theorem readWord_eq_ok_iff {b : Base} {cs : List Char} {v : UInt64} :
    readWord b cs = .ok v ↔ Signed b cs v.toNat := by
  constructor
  · intro h
    cases cs with
    | nil => cases h
    | cons c ds =>
      by_cases hplus : c = '+'
      · subst hplus
        -- a sign with nothing behind it is refused, as no numeral is empty
        by_cases hds : ds = []
        · subst hds
          cases h
        · rw [readWord_plus b hds] at h
          exact .plus ((map_readDigits_eq_ok_iff hds).1 h)
      · rw [readWord_plain b (List.cons_ne_nil c ds) (by simpa using hplus)] at h
        exact .plain ((map_readDigits_eq_ok_iff (List.cons_ne_nil c ds)).1 h)
  · intro h
    cases h with
    | plain h =>
      rw [readWord_plain b h.1 h.head?_ne_plus]
      exact (map_readDigits_eq_ok_iff h.1).2 h
    | plus h =>
      rw [readWord_plus b h.1]
      exact (map_readDigits_eq_ok_iff h.1).2 h

namespace Signed

variable {b : Base} {cs : List Char} {n : Nat}

/-- The same with an optional plus sign. -/
theorem readWord_eq_overflow (h : Signed b cs n) (hn : UInt64.size ≤ n) :
    readWord b cs = .error .overflow := by
  cases h with
  | plain h => rw [readWord_plain b h.1 h.head?_ne_plus, h.readDigits_eq_overflow hn]; rfl
  | plus h => rw [readWord_plus b h.1, h.readDigits_eq_overflow hn]; rfl

theorem plus_or_digit? (h : Signed b cs n) {c : Char} (hc : c ∈ cs) :
    c = '+' ∨ ∃ d, b.digit? c = some d := by
  cases h with
  | plain h => exact .inr (h.exists_digit? hc)
  | plus h => exact (List.mem_cons.1 hc).imp_right h.exists_digit?

end Signed

/-! ## Written numbers -/

namespace Numeral

variable {b : Base} {cs : List Char} {n : Nat}

/-- One more digit behind a numeral. -/
theorem append_digit (h : Numeral b cs n) {d : Nat} (hd : d < b.toNat) :
    Numeral b (cs ++ [d.digitChar]) (b.toNat * n + d) := by
  obtain ⟨hne, ds, hall, hmap, hvalue⟩ := h
  refine ⟨by simp, ds ++ [d], ?_, ?_, ?_⟩
  · exact List.forall_mem_append.2 ⟨hall, List.forall_mem_singleton.2 hd⟩
  · rw [List.map_append, List.map_append, hmap, List.map_singleton, List.map_singleton,
      toLower_digitChar (Nat.lt_of_lt_of_le hd b.toNat_le)]
  · rw [List.reverse_append, List.reverse_singleton, List.singleton_append, Nat.ofDigits_cons, hvalue,
      Nat.add_comm]

/-- A zero in front changes nothing. -/
theorem cons_zero (h : Numeral b cs n) : Numeral b ('0' :: cs) n := by
  obtain ⟨-, ds, hall, hmap, hvalue⟩ := h
  refine ⟨List.cons_ne_nil _ _, 0 :: ds, ?_, ?_, ?_⟩
  · exact List.forall_mem_cons.2 ⟨Nat.zero_lt_of_lt b.one_lt_toNat, hall⟩
  · rw [List.map_cons, List.map_cons, hmap]
    rfl
  · rw [List.reverse_cons, Nat.ofDigits_append_zero, hvalue]

/-- Leading zeros do not change a numeral's value. -/
theorem zeros_append (h : Numeral b cs n) (zeros : Nat) :
    Numeral b (List.replicate zeros '0' ++ cs) n := by
  induction zeros with
  | zero => exact h
  | succ zeros ih => exact ih.cons_zero

/-- Capital letters stand for the same digits. -/
theorem of_map_toLower (h : Numeral b (cs.map Char.toLower) n) : Numeral b cs n := by
  obtain ⟨hne, ds, hall, hmap, hvalue⟩ := h
  refine ⟨fun hnil => hne (List.map_eq_nil_iff.2 hnil), ds, hall, ?_, hvalue⟩
  have hidem : Char.toLower ∘ Char.toLower = Char.toLower := funext toLower_toLower
  rwa [List.map_map, hidem] at hmap

end Numeral

theorem numeral_digitChar {b : Base} {d : Nat} (h : d < b.toNat) : Numeral b [d.digitChar] d := by
  refine ⟨List.cons_ne_nil _ _, [d], List.forall_mem_singleton.2 h, ?_, Nat.ofDigits_singleton⟩
  rw [List.map_singleton, List.map_singleton, toLower_digitChar (Nat.lt_of_lt_of_le h b.toNat_le)]

/-- The digits of a number denote it. -/
theorem numeral_toDigits (b : Base) (n : Nat) : Numeral b (Nat.toDigits b.toNat n) n := by
  have hbase := b.one_lt_toNat
  induction n using Nat.strongRecOn with
  | ind n ih =>
    by_cases hlt : n < b.toNat
    · rw [Nat.toDigits_of_lt_base hlt]
      exact numeral_digitChar hlt
    · -- the quotient is written in front of the last digit
      have hdiv : n / b.toNat < n := Nat.div_lt_self (by omega) hbase
      have hmod : n % b.toNat < b.toNat := Nat.mod_lt n (by omega)
      have hnumeral := (ih (n / b.toNat) hdiv).append_digit hmod
      rwa [Nat.div_add_mod, ← Nat.toDigits_of_base_le hbase (Nat.not_lt.1 hlt)] at hnumeral

/-- A number may be written with zeros in front and with letters of either case. -/
theorem numeral_of_toDigits {b : Base} {cs : List Char} {n zeros : Nat}
    (h : cs.map Char.toLower = List.replicate zeros '0' ++ Nat.toDigits b.toNat n) :
    Numeral b cs n :=
  .of_map_toLower (h ▸ (numeral_toDigits b n).zeros_append zeros)

end Iommu.Text
