/-
  How tokens are spelled, and that a text is cut into the tokens that it spells.

  The rules are those of the format.  A mark is one character and a word stands for itself; a number has
  no leading zero, digits on both sides of its point and digits in its exponent; a string holds
  characters and escapes between quotes.  `Spells ts cs` says that the text `cs` is the tokens `ts` with
  any white space before, between and behind them.

  The crux is where a token ends (`cutToken_append`).  Marks, words and strings close themselves.  A number
  ends where a character follows that could not continue it, so two numbers must not stand side by
  side (`Separated`); under that proviso the text is cut back into its tokens (`cutAll_of_spells`).
-/
import Mathlib.Data.List.Chain
import Iommu.Json.Token

namespace Iommu.Json

/-! ## Spelling -/

/-- White space. -/
def Blank (ws : List Char) : Prop := ∀ c ∈ ws, isSpace c = true

/-- Digits, at least one. -/
def Digits (ds : List Char) : Prop := ds ≠ [] ∧ ∀ c ∈ ds, c.isDigit = true

/-- The digits before the point: a zero alone, or digits that do not begin with one. -/
def Whole (ds : List Char) : Prop := Digits ds ∧ (ds.head? = some '0' → ds = ['0'])

/-- A point and digits, or nothing. -/
inductive Fraction : List Char → Prop
  | absent : Fraction []
  | point {ds : List Char} (h : Digits ds) : Fraction ('.' :: ds)

/-- The letter of an exponent, a sign if there is one, and digits; or nothing. -/
inductive Exponent : List Char → Prop
  | absent : Exponent []
  | unsigned {e : Char} {ds : List Char} (he : e = 'e' ∨ e = 'E') (h : Digits ds) :
    Exponent (e :: ds)
  | signed {e sign : Char} {ds : List Char} (he : e = 'e' ∨ e = 'E') (hs : sign = '+' ∨ sign = '-')
    (h : Digits ds) : Exponent (e :: sign :: ds)

/-- A number is a plain run of digits, or a literal with a sign, a fraction or an exponent. -/
inductive SpellsNumber : Json → List Char → Prop
  | natural {ds : List Char} (h : Whole ds) : SpellsNumber (.natural (naturalOf ds)) ds
  | literal {sign whole fraction exponent : List Char} (hs : sign = [] ∨ sign = ['-'])
    (hw : Whole whole) (hf : Fraction fraction) (he : Exponent exponent)
    (h : sign ≠ [] ∨ fraction ≠ [] ∨ exponent ≠ []) :
    SpellsNumber (.number (String.ofList (sign ++ whole ++ fraction ++ exponent)))
      (sign ++ whole ++ fraction ++ exponent)

/-- A piece of a string is a plain character, an escape of one letter, or a unit by its four digits. -/
inductive SpellsPiece : Piece → List Char → Prop
  | plain {c : Char} (h : 0x20 ≤ c.toNat) (hq : c ≠ '"') (hb : c ≠ '\\') : SpellsPiece (.char c) [c]
  | escape {e c : Char} (h : escape? e = some c) : SpellsPiece (.char c) ['\\', e]
  | unit {a b c d : Char} {n : Nat} (h : unit? a b c d = some n) :
    SpellsPiece (.unit n) ['\\', 'u', a, b, c, d]

/-- The pieces of a string, one behind the other. -/
inductive SpellsPieces : List Piece → List Char → Prop
  | nil : SpellsPieces [] []
  | cons {p : Piece} {cs rest : List Char} {ps : List Piece} (h : SpellsPiece p cs)
    (hs : SpellsPieces ps rest) : SpellsPieces (p :: ps) (cs ++ rest)

/-- How a token is written. -/
inductive SpellsToken : Token → List Char → Prop
  | openBrace : SpellsToken .openBrace ['\x7b']
  | closeBrace : SpellsToken .closeBrace ['\x7d']
  | openBracket : SpellsToken .openBracket ['[']
  | closeBracket : SpellsToken .closeBracket [']']
  | colon : SpellsToken .colon [':']
  | comma : SpellsToken .comma [',']
  | null : SpellsToken (.scalar .null) ['n', 'u', 'l', 'l']
  | yes : SpellsToken (.scalar (.bool true)) ['t', 'r', 'u', 'e']
  | no : SpellsToken (.scalar (.bool false)) ['f', 'a', 'l', 's', 'e']
  | number {v : Json} {cs : List Char} (h : SpellsNumber v cs) : SpellsToken (.scalar v) cs
  | str {ps : List Piece} {cs : List Char} (h : SpellsPieces ps cs) :
    SpellsToken (.str (textOf [] ps)) ('"' :: cs ++ ['"'])

/-- How tokens are written: any white space may stand before, between and behind them. -/
inductive Spells : List Token → List Char → Prop
  | nil {ws : List Char} (hw : Blank ws) : Spells [] ws
  | cons {ws cs rest : List Char} {t : Token} {ts : List Token} (hw : Blank ws)
    (h : SpellsToken t cs) (hs : Spells ts rest) : Spells (t :: ts) (ws ++ cs ++ rest)

/-! ## Where a number ends -/

/-- Whether a number could go on with a character. -/
def continues (c : Char) : Bool := c.isDigit || c = '.' || c = 'e' || c = 'E'

/-- No number goes on into the text. -/
def Ends (cs : List Char) : Prop := ∀ c ∈ cs.head?, continues c = false

/-- Where a number ends there is no further digit. -/
theorem Ends.isDigit {cs : List Char} (h : Ends cs) : ∀ c ∈ cs.head?, c.isDigit = false := by
  intro c hc
  have hcontinues := h c hc
  simp only [continues, Bool.or_eq_false_iff] at hcontinues
  exact hcontinues.1.1.1

/-- A run of digits begins with one. -/
theorem Digits.head {ds : List Char} (h : Digits ds) : ∃ c r, ds = c :: r ∧ c.isDigit = true := by
  obtain ⟨c, r, rfl⟩ := List.exists_cons_of_ne_nil h.1
  exact ⟨c, r, rfl, h.2 c List.mem_cons_self⟩

/-- Digits are cut off up to the first character that is none. -/
theorem takeWhile_digits {ds rest : List Char} (h : ∀ c ∈ ds, c.isDigit = true)
    (hrest : ∀ c ∈ rest.head?, c.isDigit = false) :
    (ds ++ rest).takeWhile Char.isDigit = ds ∧ (ds ++ rest).dropWhile Char.isDigit = rest := by
  rw [List.takeWhile_append_of_pos h, List.dropWhile_append_of_pos h]
  cases rest with
  | nil => exact ⟨List.append_nil ds, rfl⟩
  | cons c r =>
    have hc := hrest c rfl
    rw [List.takeWhile_cons_of_neg (by simp [hc]), List.dropWhile_cons_of_neg (by simp [hc])]
    exact ⟨List.append_nil ds, rfl⟩

/-- Digits are cut off up to what is no digit. -/
theorem cutDigits_append {ds rest : List Char} (h : Digits ds)
    (hrest : ∀ c ∈ rest.head?, c.isDigit = false) : cutDigits (ds ++ rest) = some (ds, rest) := by
  obtain ⟨htake, hdrop⟩ := takeWhile_digits h.2 hrest
  rw [cutDigits, htake, hdrop]
  obtain ⟨c, r, rfl, -⟩ := h.head
  rfl

/-- So is an integer. -/
theorem cutInteger_append {ds rest : List Char} (h : Whole ds)
    (hrest : ∀ c ∈ rest.head?, c.isDigit = false) : cutInteger (ds ++ rest) = some (ds, rest) := by
  obtain ⟨c, r, rfl, hc⟩ := h.1.head
  rw [List.cons_append, cutInteger]
  by_cases hzero : c = '0'
  · rw [if_pos hzero]
    obtain ⟨rfl, rfl⟩ := List.cons_eq_cons.1 (h.2 (congrArg some hzero))
    rfl
  · obtain ⟨htake, hdrop⟩ :=
      takeWhile_digits (fun x hx => h.1.2 x (List.mem_cons_of_mem c hx)) hrest
    rw [if_neg hzero, if_pos hc, htake, hdrop]

/-- Behind the whole part a fraction or an exponent goes on with no digit. -/
theorem Fraction.ends {fs rest : List Char} (h : Fraction fs)
    (hrest : ∀ c ∈ rest.head?, c.isDigit = false) : ∀ c ∈ (fs ++ rest).head?, c.isDigit = false := by
  cases h with
  | absent => exact hrest
  | point h =>
    rintro c ⟨⟩
    decide

/-- With an exponent or without one, the fraction has ended. -/
theorem Exponent.ends {es rest : List Char} (h : Exponent es) (hrest : Ends rest) :
    ∀ c ∈ (es ++ rest).head?, c.isDigit = false ∧ c ≠ '.' := by
  cases h with
  | absent =>
    intro c hc
    have hcontinues := hrest c hc
    simp only [continues, Bool.or_eq_false_iff, decide_eq_false_iff_not] at hcontinues
    exact ⟨hcontinues.1.1.1, hcontinues.1.1.2⟩
  | unsigned he h =>
    rintro c ⟨⟩
    rcases he with rfl | rfl <;> decide
  | signed he hs h =>
    rintro c ⟨⟩
    rcases he with rfl | rfl <;> decide

/-- A fraction is cut off whole. -/
theorem cutFraction_append {fs rest : List Char} (h : Fraction fs)
    (hrest : ∀ c ∈ rest.head?, c.isDigit = false ∧ c ≠ '.') :
    cutFraction (fs ++ rest) = some (fs, rest) := by
  cases h with
  | absent =>
    rw [List.nil_append]
    unfold cutFraction
    split
    · exact absurd rfl (hrest '.' rfl).2
    · rfl
  | point h =>
    rw [List.cons_append, cutFraction, cutDigits_append h fun c hc => (hrest c hc).1]
    rfl

/-- Behind its letter an exponent goes on with a sign or with digits. -/
theorem cutExponent_letter {e : Char} (he : e = 'e' ∨ e = 'E') (r : List Char) :
    cutExponent (e :: r) =
      match r with
      | '+' :: r' => (cutDigits r').map fun (ds, rest) => (e :: '+' :: ds, rest)
      | '-' :: r' => (cutDigits r').map fun (ds, rest) => (e :: '-' :: ds, rest)
      | r => (cutDigits r).map fun (ds, rest) => (e :: ds, rest) := by
  have hletter : (decide (e = 'e') || decide (e = 'E')) = true := by simpa using he
  unfold cutExponent
  exact if_pos hletter

/-- A digit behind the letter is no sign. -/
theorem cutExponent_unsigned {e c : Char} {r : List Char} (he : e = 'e' ∨ e = 'E')
    (hc : c.isDigit = true) : cutExponent (e :: c :: r) =
      (cutDigits (c :: r)).map fun (ds, rest) => (e :: ds, rest) := by
  rw [cutExponent_letter he]
  split
  · rename_i heq
    obtain ⟨rfl, -⟩ := List.cons_eq_cons.1 heq
    exact absurd hc (by decide)
  · rename_i heq
    obtain ⟨rfl, -⟩ := List.cons_eq_cons.1 heq
    exact absurd hc (by decide)
  · rfl

theorem cutExponent_signed {e sign : Char} (he : e = 'e' ∨ e = 'E') (hs : sign = '+' ∨ sign = '-')
    (r : List Char) : cutExponent (e :: sign :: r) =
      (cutDigits r).map fun (ds, rest) => (e :: sign :: ds, rest) := by
  rw [cutExponent_letter he]
  rcases hs with rfl | rfl <;> rfl

/-- An exponent is cut off whole. -/
theorem cutExponent_append {es rest : List Char} (h : Exponent es) (hrest : Ends rest) :
    cutExponent (es ++ rest) = some (es, rest) := by
  cases h with
  | absent =>
    cases rest with
    | nil => rfl
    | cons c r =>
      have hcontinues := hrest c rfl
      simp only [continues, Bool.or_eq_false_iff, decide_eq_false_iff_not] at hcontinues
      unfold cutExponent
      exact if_neg (by simp [hcontinues.1.2, hcontinues.2])
  | @unsigned e ds he h =>
    obtain ⟨c, r, rfl, hc⟩ := h.head
    rw [List.cons_append, List.cons_append, cutExponent_unsigned he hc, ← List.cons_append,
      cutDigits_append h hrest.isDigit]
    rfl
  | @signed e sign ds he hs h =>
    rw [List.cons_append, List.cons_append, cutExponent_signed he hs,
      cutDigits_append h hrest.isDigit]
    rfl

/-- What a number denotes, by its parts. -/
def ofParts (sign whole fraction exponent : List Char) : Json :=
  if sign.isEmpty && fraction.isEmpty && exponent.isEmpty then .natural (naturalOf whole)
  else .number (String.ofList (sign ++ whole ++ fraction ++ exponent))

/-- A number is cut off part by part, its sign first. -/
theorem cutNumber_eq_some {sign cs whole fraction exponent r1 r2 r3 : List Char}
    (hs : sign = [] ∧ cs.head? ≠ some '-' ∨ sign = ['-'])
    (hw : cutInteger cs = some (whole, r1)) (hf : cutFraction r1 = some (fraction, r2))
    (he : cutExponent r2 = some (exponent, r3)) :
    cutNumber (sign ++ cs) = some (ofParts sign whole fraction exponent, r3) := by
  rcases hs with ⟨rfl, hs⟩ | rfl
  · cases cs with
    | nil => cases hw
    | cons c r =>
      unfold cutNumber
      rw [List.nil_append]
      split
      rename_i heq
      split at heq
      · rename_i hminus
        exact absurd (congrArg some (List.cons_eq_cons.1 hminus).1) hs
      · cases heq
        simp only [hw, hf, he, ofParts]
        split <;> rfl
  · simp only [cutNumber, List.cons_append, List.nil_append, hw, hf, he, ofParts]
    split <;> rfl

/-- A number is cut into its parts, -/
theorem cutNumber_parts {sign whole fraction exponent rest : List Char}
    (hs : sign = [] ∨ sign = ['-']) (hw : Whole whole) (hf : Fraction fraction)
    (he : Exponent exponent) (hrest : Ends rest) :
    cutNumber (sign ++ whole ++ fraction ++ exponent ++ rest) =
      some (ofParts sign whole fraction exponent, rest) := by
  have hexponent := he.ends hrest
  have hsplit : sign ++ whole ++ fraction ++ exponent ++ rest =
      sign ++ (whole ++ (fraction ++ (exponent ++ rest))) := by simp
  have hdigit : (whole ++ (fraction ++ (exponent ++ rest))).head? ≠ some '-' := by
    obtain ⟨c, r, rfl, hc⟩ := hw.1.head
    intro hminus
    obtain rfl : c = '-' := Option.some.inj hminus
    exact absurd hc (by decide)
  rw [hsplit]
  exact cutNumber_eq_some (hs.imp_left fun h => ⟨h, hdigit⟩)
    (cutInteger_append hw (hf.ends fun c hc => (hexponent c hc).1))
    (cutFraction_append hf hexponent) (cutExponent_append he hrest)

/-- and so it is cut off whole. -/
theorem cutNumber_append {v : Json} {cs rest : List Char} (h : SpellsNumber v cs)
    (hrest : Ends rest) : cutNumber (cs ++ rest) = some (v, rest) := by
  cases h with
  | natural h =>
    have hparts := cutNumber_parts (Or.inl rfl) h .absent .absent hrest
    rwa [List.nil_append, List.append_nil, List.append_nil] at hparts
  | literal hs hw hf he h =>
    rw [cutNumber_parts hs hw hf he hrest, ofParts, if_neg]
    simp only [Bool.and_eq_true, List.isEmpty_iff]
    rintro ⟨⟨hs', hf'⟩, he'⟩
    exact h.elim (· hs') fun h => h.elim (· hf') (· he')

/-- The first character of a number. -/
theorem SpellsNumber.head {v : Json} {cs : List Char} (h : SpellsNumber v cs) :
    ∃ c r, cs = c :: r ∧ (c.isDigit = true ∨ c = '-') := by
  cases h with
  | natural h =>
    obtain ⟨c, r, rfl, hc⟩ := h.1.head
    exact ⟨c, r, rfl, Or.inl hc⟩
  | literal hs hw hf he h =>
    rcases hs with rfl | rfl
    · obtain ⟨c, r, rfl, hc⟩ := hw.1.head
      exact ⟨c, _, rfl, Or.inl hc⟩
    · exact ⟨'-', _, rfl, Or.inr rfl⟩

/-! ## Strings -/

theorem escape?_u : escape? 'u' = none := by decide

/-- A piece of a text is cut off whole. -/
theorem cutPieces_append {p : Piece} {cs : List Char} (h : SpellsPiece p cs) (ps : List Piece)
    (rest : List Char) : cutPieces ps (cs ++ rest) = cutPieces (p :: ps) rest := by
  cases h with
  | @plain c h hq hb =>
    have hlow : (decide (c.toNat < 0x20) || decide (c = '\\')) = false := by
      simp only [Bool.or_eq_false_iff, decide_eq_false_iff_not]
      exact ⟨Nat.not_lt.2 h, hb⟩
    rw [List.singleton_append, cutPieces]
    · rw [hlow, if_neg Bool.false_ne_true]
    all_goals simp_all
  | @escape e c h =>
    have hu : e ≠ 'u' := by
      rintro rfl
      rw [escape?_u] at h
      cases h
    rw [List.cons_append, List.singleton_append, cutPieces]
    · rw [h]
    · exact fun _ _ _ _ _ he => absurd he hu
  | @unit a b c d n h =>
    simp only [List.cons_append, List.nil_append]
    rw [cutPieces, h]

/-- A string is cut up to its closing quote. -/
theorem cutPieces_of_spells {ps : List Piece} {cs : List Char} (h : SpellsPieces ps cs)
    (before : List Piece) (rest : List Char) :
    cutPieces before (cs ++ '"' :: rest) = some (before.reverse ++ ps, rest) := by
  induction h generalizing before with
  | nil =>
    rw [List.nil_append, cutPieces, List.append_nil]
  | cons h hs ih =>
    rw [List.append_assoc, cutPieces_append h, ih, List.reverse_cons, List.append_assoc,
      List.singleton_append]

/-! ## Tokens -/

/-- Whether a token is a number or a word. -/
def Token.isScalar : Token → Bool
  | .scalar _ => true
  | _ => false

/-- A number is cut off as such: its first character begins nothing else. -/
theorem cutToken_number {c : Char} (h : c.isDigit = true ∨ c = '-') (r : List Char) :
    cutToken (c :: r) = (cutNumber (c :: r)).map fun (n, rest) => (.scalar n, rest) := by
  unfold cutToken
  split
  case h_1 => contradiction
  case h_12 => rfl
  -- a mark, a quote or the first letter of a word is neither a digit nor a minus sign
  all_goals
    rename_i heq
    obtain ⟨rfl, -⟩ := List.cons_eq_cons.1 heq
    exact absurd h (by decide)

/-- A token is cut off the text that it begins, provided that a number could not go on. -/
theorem cutToken_append {t : Token} {cs rest : List Char} (h : SpellsToken t cs)
    (hrest : t.isScalar = true → Ends rest) : cutToken (cs ++ rest) = some (t, rest) := by
  cases h with
  | number h =>
    obtain ⟨c, r, rfl, hc⟩ := h.head
    rw [List.cons_append, cutToken_number hc, ← List.cons_append, cutNumber_append h (hrest rfl)]
    rfl
  | @str ps cs h =>
    have hsplit : '"' :: cs ++ ['"'] ++ rest = '"' :: (cs ++ '"' :: rest) := by simp
    rw [hsplit, cutToken, cutPieces_of_spells h]
    rfl
  | _ => rfl

/-- A token begins with a character that is no white space. -/
theorem SpellsToken.head {t : Token} {cs : List Char} (h : SpellsToken t cs) :
    ∃ c r, cs = c :: r ∧ isSpace c = false ∧ (t.isScalar = false → continues c = false) := by
  cases h with
  | number h =>
    obtain ⟨c, r, rfl, hc⟩ := h.head
    refine ⟨c, r, rfl, ?_, nofun⟩
    rcases hc with hc | rfl
    · rw [← Bool.not_eq_true]
      intro hspace
      simp only [isSpace, Bool.or_eq_true, decide_eq_true_eq] at hspace
      rcases hspace with ((rfl | rfl) | rfl) | rfl <;> exact absurd hc (by decide)
    · decide
  | str h => exact ⟨_, _, rfl, by decide, fun _ => by decide⟩
  | null => exact ⟨_, _, rfl, by decide, nofun⟩
  | yes => exact ⟨_, _, rfl, by decide, nofun⟩
  | no => exact ⟨_, _, rfl, by decide, nofun⟩
  | _ => exact ⟨_, _, rfl, by decide, fun _ => by decide⟩

/-- No two numbers or words stand side by side. -/
def Separated (ts : List Token) : Prop :=
  ts.IsChain fun a b => a.isScalar = false ∨ b.isScalar = false

/-- Behind a number or word a text goes on with white space or with the mark or string that comes
    next. -/
theorem Spells.ends {t : Token} {ts : List Token} {cs : List Char} (h : Spells ts cs)
    (hs : Separated (t :: ts)) (ht : t.isScalar = true) : Ends cs := by
  have hblank : ∀ {ws rest : List Char}, Blank ws → ws ≠ [] → Ends (ws ++ rest) := by
    intro ws rest hw hne
    obtain ⟨c, r, rfl⟩ := List.exists_cons_of_ne_nil hne
    rintro x ⟨⟩
    have hspace := hw c List.mem_cons_self
    simp only [isSpace, Bool.or_eq_true, decide_eq_true_eq] at hspace
    rcases hspace with ((rfl | rfl) | rfl) | rfl <;> decide
  cases h with
  | nil hw =>
    cases cs with
    | nil => rintro c ⟨⟩
    | cons c r =>
      rw [← List.append_nil (c :: r)]
      exact hblank hw (List.cons_ne_nil c r)
  | @cons ws cs rest t' ts' hw htoken hs' =>
    cases ws with
    | nil =>
      have hscalar : t'.isScalar = false := by
        rcases (List.isChain_cons_cons.1 hs).1 with h | h
        · rw [ht] at h
          cases h
        · exact h
      obtain ⟨c, r, rfl, -, hcontinues⟩ := htoken.head
      rintro x ⟨⟩
      exact hcontinues hscalar
    | cons c r =>
      rw [List.append_assoc]
      exact hblank hw (List.cons_ne_nil c r)

/-- White space between tokens is passed over. -/
theorem cutAll_blank {ws : List Char} (hw : Blank ws) (found : List Token) {steps : Nat}
    (rest : List Char) (hsteps : ws.length ≤ steps) :
    cutAll found steps (ws ++ rest) = cutAll found (steps - ws.length) rest := by
  induction ws generalizing steps with
  | nil => rfl
  | cons c ws ih =>
    obtain ⟨n, rfl⟩ : ∃ n, steps = n + 1 := ⟨steps - 1, by rw [List.length_cons] at hsteps; omega⟩
    have hc : isSpace c = true := hw c List.mem_cons_self
    rw [List.length_cons] at hsteps ⊢
    rw [List.cons_append, cutAll, if_pos hc,
      ih (fun x hx => hw x (List.mem_cons_of_mem c hx)) (by omega)]
    congr 1
    omega

/-- A text is cut into the tokens that it spells. -/
theorem cutAll_of_spells {ts : List Token} {cs : List Char} (h : Spells ts cs) (hs : Separated ts)
    (found : List Token) {steps : Nat} (hsteps : cs.length ≤ steps) :
    cutAll found steps cs = (found.reverse ++ ts, []) := by
  induction h generalizing found steps with
  | @nil ws hw =>
    rw [← List.append_nil ws, cutAll_blank hw found [] hsteps, List.append_nil]
    cases steps - ws.length <;> rfl
  | @cons ws cs rest t ts hw htoken hrest ih =>
    rw [List.length_append, List.length_append] at hsteps
    obtain ⟨c, r, rfl, hspace, -⟩ := htoken.head
    rw [List.length_cons] at hsteps
    obtain ⟨n, hn⟩ : ∃ n, steps - ws.length = n + 1 := ⟨steps - ws.length - 1, by omega⟩
    have hcut : cutToken (c :: r ++ rest) = some (t, rest) :=
      cutToken_append htoken (hrest.ends hs)
    rw [List.append_assoc, cutAll_blank hw found _ (by omega), hn, List.cons_append, cutAll,
      if_neg (by simp [hspace]), ← List.cons_append, hcut]
    dsimp only
    rw [ih hs.tail (t :: found) (by omega), List.reverse_cons, List.append_assoc,
      List.singleton_append]

/-- The tokens of a text are those that it spells. -/
theorem tokens?_of_spells {ts : List Token} {s : String} (h : Spells ts s.toList)
    (hs : Separated ts) : tokens? s = some ts := by
  simp only [tokens?, cutTokens]
  rw [cutAll_of_spells h hs [] (Nat.le_refl _)]
  rfl

end Iommu.Json
