/-
  Reading a 64-bit number from its digits.

  The text is one optional plus sign and then digits, most significant first, in base 10 or 16 with
  letters of either case.  Digits are taken from the left, and the first thing wrong is the one
  reported: a character that is no digit before the overflow it would otherwise complete.  So
  `readWord b cs = .ok v` says that every character is a digit and that `v` is the number they
  denote (`readDigits_eq_ok`), and digits alone that denote a larger one are an overflow
  (`readDigits_eq_overflow`).
-/

namespace Iommu.Text

/-- Why a text is not a 64-bit number. -/
inductive NumberError
  | empty
  | invalidDigit
  | overflow
deriving DecidableEq

namespace NumberError

/-- The message of a numeral that is refused. -/
def message : NumberError → String
  | empty => "cannot parse integer from empty string"
  | invalidDigit => "invalid digit found in string"
  | overflow => "number too large to fit in target type"

end NumberError

/-- The two bases in which numbers are written. -/
inductive Base
  | ten
  | sixteen
deriving DecidableEq

namespace Base

/-- The base as a number. -/
def toNat : Base → Nat
  | ten => 10
  | sixteen => 16

/-- The value of a digit, in either case. -/
def digit? (b : Base) (c : Char) : Option Nat :=
  if '0' ≤ c ∧ c ≤ '9' then some (c.toNat - 48)
  else if b = sixteen ∧ 'a' ≤ c ∧ c ≤ 'f' then some (c.toNat - 87)
  else if b = sixteen ∧ 'A' ≤ c ∧ c ≤ 'F' then some (c.toNat - 55)
  else none

end Base

/-- Continues a number whose leading digits have the value `acc`. -/
def readDigits (b : Base) (acc : Nat) : List Char → Except NumberError Nat
  | [] => .ok acc
  | c :: cs =>
    match b.digit? c with
    | none => .error .invalidDigit
    | some d =>
      if acc * b.toNat + d < UInt64.size then readDigits b (acc * b.toNat + d) cs
      else .error .overflow

/-- Reads a number with an optional plus sign.  A sign with nothing behind it is an invalid digit. -/
def readWord (b : Base) (cs : List Char) : Except NumberError UInt64 :=
  match cs with
  | [] => .error .empty
  | ['+'] => .error .invalidDigit
  | '+' :: ds => (readDigits b 0 ds).map UInt64.ofNat
  | ds => (readDigits b 0 ds).map UInt64.ofNat

/-- The number that a list of digits denotes behind leading digits of value `acc`. -/
def valueFrom (b : Base) (acc : Nat) (ds : List Nat) : Nat :=
  ds.foldl (fun n d => n * b.toNat + d) acc

/-- Reading on makes no number smaller. -/
theorem le_valueFrom (b : Base) (acc : Nat) (ds : List Nat) : acc ≤ valueFrom b acc ds := by
  induction ds generalizing acc with
  | nil => exact Nat.le_refl _
  | cons d ds ih =>
    refine Nat.le_trans ?_ (ih _)
    cases b <;> simp only [Base.toNat] <;> omega

/-- A number is read exactly when every character is a digit and the value fits in 64 bits. -/
theorem readDigits_eq_ok {b : Base} {acc : Nat} (h : acc < UInt64.size) {cs : List Char} {v : Nat} :
    readDigits b acc cs = .ok v ↔
      ∃ ds, cs.mapM b.digit? = some ds ∧ valueFrom b acc ds = v ∧ v < UInt64.size := by
  induction cs generalizing acc with
  | nil => simp [readDigits, valueFrom]; rintro rfl; exact h
  | cons c cs ih =>
    cases hd : b.digit? c with
    | none => simp [readDigits, hd, List.mapM_cons]
    | some d =>
      by_cases hlt : acc * b.toNat + d < UInt64.size
      · simp only [readDigits, hd, if_pos hlt, ih hlt, List.mapM_cons, Option.bind_eq_bind,
          Option.bind_some, Option.bind_eq_some_iff, Option.pure_def]
        constructor
        · rintro ⟨ds, hds, hv, hb⟩
          exact ⟨d :: ds, ⟨ds, hds, rfl⟩, hv, hb⟩
        · rintro ⟨_, ⟨ds, hds, ⟨⟩⟩, hv, hb⟩
          exact ⟨ds, hds, hv, hb⟩
      · simp only [readDigits, hd, if_neg hlt, List.mapM_cons, Option.bind_eq_bind,
          Option.bind_some, Option.bind_eq_some_iff, Option.pure_def]
        constructor
        · intro hf; cases hf
        · rintro ⟨_, ⟨ds, hds, ⟨⟩⟩, hv, hb⟩
          have := le_valueFrom b (acc * b.toNat + d) ds
          have hv' : valueFrom b (acc * b.toNat + d) ds = v := hv
          omega

/-- Digits of a number too large for 64 bits are an overflow, however far behind it shows. -/
theorem readDigits_eq_overflow {b : Base} {acc : Nat} {cs : List Char} {ds : List Nat}
    (hds : cs.mapM b.digit? = some ds) (h : acc < UInt64.size)
    (hvalue : UInt64.size ≤ valueFrom b acc ds) : readDigits b acc cs = .error .overflow := by
  induction cs generalizing acc ds with
  | nil =>
    cases hds
    exact absurd hvalue (Nat.not_le.2 h)
  | cons c cs ih =>
    simp only [List.mapM_cons, Option.bind_eq_bind, Option.bind_eq_some_iff, Option.pure_def] at hds
    obtain ⟨d, hd, ds, hds, ⟨⟩⟩ := hds
    simp only [readDigits, hd]
    split
    case isTrue hlt => exact ih hds hlt hvalue
    case isFalse => rfl

example : readWord .sixteen "fF".toList = .ok 255 := by rfl
example : readWord .ten "+".toList = .error .invalidDigit := by rfl
example : readWord .ten "18446744073709551616".toList = .error .overflow := by rfl
example : readWord .ten "18446744073709551616x".toList = .error .overflow := by rfl
example : readWord .ten "1844674407370955161x".toList = .error .invalidDigit := by rfl

end Iommu.Text
