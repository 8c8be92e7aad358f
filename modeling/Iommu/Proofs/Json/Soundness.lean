/-
  Nothing is read that was not spelled: the reader accepts the grammar and no other text.

  What the lexer cuts off, part by part, was spelled by the characters that are gone, so a text that
  is cut into tokens up to its end spells them (`spells_of_tokens?`).

  The reader keeps in its state all that it has read.  `ReadState.read` writes the open arrays and
  objects out as tokens again, with what is done of them, and the crux is that a token read is just
  one more of these (`read_readToken`).  So the tokens that make up a document are the document's, and
  with the other direction a text is read as a document exactly if it spells it
  (`parse?_eq_some_iff`).  Hence what was read can be written, and reads the same (`parse?_render`).
-/
import Mathlib.Data.List.TakeWhile
import Iommu.Proofs.Json.Document

namespace Iommu.Json

/-! ## Numbers -/

/-- What is cut off as digits is a run of digits. -/
theorem digits_of_cutDigits {cs ds rest : List Char} (h : cutDigits cs = some (ds, rest)) :
    Digits ds ∧ cs = ds ++ rest := by
  unfold cutDigits at h
  split at h
  · cases h
  · rename_i hne
    obtain ⟨rfl, rfl⟩ := Prod.mk.inj (Option.some.inj h)
    refine ⟨⟨hne, fun c hc => List.mem_takeWhile_imp hc⟩, ?_⟩
    exact List.takeWhile_append_dropWhile.symm

/-- What is cut off as an integer has no zero in front. -/
theorem whole_of_cutInteger {cs ds rest : List Char} (h : cutInteger cs = some (ds, rest)) :
    Whole ds ∧ cs = ds ++ rest := by
  cases cs with
  | nil => cases h
  | cons c r =>
    rw [cutInteger] at h
    split at h
    · rename_i hzero
      obtain ⟨rfl, rfl⟩ := Prod.mk.inj (Option.some.inj h)
      subst hzero
      exact ⟨⟨⟨List.cons_ne_nil _ _, by simp⟩, fun _ => rfl⟩, rfl⟩
    · rename_i hzero
      split at h
      · rename_i hc
        obtain ⟨rfl, rfl⟩ := Prod.mk.inj (Option.some.inj h)
        refine ⟨⟨⟨List.cons_ne_nil _ _, ?_⟩, fun hhead => absurd (Option.some.inj hhead) hzero⟩, ?_⟩
        · intro x hx
          rcases List.mem_cons.1 hx with rfl | hx
          · exact hc
          · exact List.mem_takeWhile_imp hx
        · rw [List.cons_append, List.takeWhile_append_dropWhile]
      · cases h

/-- Digits that are cut off behind other characters. -/
theorem digits_of_behind (front : List Char) {cs ds rest : List Char}
    (h : (cutDigits cs).map (fun (ds, rest) => (front ++ ds, rest)) = some (ds, rest)) :
    ∃ ds', Digits ds' ∧ ds = front ++ ds' ∧ cs = ds' ++ rest := by
  obtain ⟨⟨ds', _⟩, hcut, heq⟩ := Option.map_eq_some_iff.1 h
  obtain ⟨rfl, rfl⟩ := Prod.mk.inj heq
  obtain ⟨hdigits, hcs⟩ := digits_of_cutDigits hcut
  exact ⟨ds', hdigits, rfl, hcs⟩

/-- What is cut off as a fraction is a point with digits, or nothing. -/
theorem fraction_of_cutFraction {cs fs rest : List Char} (h : cutFraction cs = some (fs, rest)) :
    Fraction fs ∧ cs = fs ++ rest := by
  unfold cutFraction at h
  split at h
  · obtain ⟨ds, hdigits, rfl, rfl⟩ := digits_of_behind ['.'] h
    exact ⟨.point hdigits, rfl⟩
  · obtain ⟨rfl, rfl⟩ := Prod.mk.inj (Option.some.inj h)
    exact ⟨.absent, rfl⟩

/-- What is cut off as an exponent is one, or nothing. -/
theorem exponent_of_cutExponent {cs es rest : List Char} (h : cutExponent cs = some (es, rest)) :
    Exponent es ∧ cs = es ++ rest := by
  cases cs with
  | nil =>
    obtain ⟨rfl, rfl⟩ := Prod.mk.inj (Option.some.inj h)
    exact ⟨.absent, rfl⟩
  | cons e r =>
    by_cases he : e = 'e' ∨ e = 'E'
    · rw [cutExponent_letter he] at h
      split at h
      · obtain ⟨ds, hdigits, rfl, rfl⟩ := digits_of_behind [e, '+'] h
        exact ⟨.signed he (Or.inl rfl) hdigits, rfl⟩
      · obtain ⟨ds, hdigits, rfl, rfl⟩ := digits_of_behind [e, '-'] h
        exact ⟨.signed he (Or.inr rfl) hdigits, rfl⟩
      · obtain ⟨ds, hdigits, rfl, rfl⟩ := digits_of_behind [e] h
        exact ⟨.unsigned he hdigits, rfl⟩
    · have hletter : ¬ (decide (e = 'e') || decide (e = 'E')) = true := by simpa using he
      unfold cutExponent at h
      obtain ⟨rfl, rfl⟩ := Prod.mk.inj (Option.some.inj ((if_neg hletter).symm.trans h))
      exact ⟨.absent, rfl⟩

/-- What is cut off as a number is one. -/
theorem spells_of_cutNumber {v : Json} {cs rest : List Char} (h : cutNumber cs = some (v, rest)) :
    ∃ front, SpellsNumber v front ∧ cs = front ++ rest := by
  unfold cutNumber at h
  split at h
  rename_i sign unsigned hsplit
  obtain ⟨hs, rfl⟩ : (sign = [] ∨ sign = ['-']) ∧ cs = sign ++ unsigned := by
    split at hsplit
    · obtain ⟨rfl, rfl⟩ := Prod.mk.inj hsplit
      exact ⟨Or.inr rfl, rfl⟩
    · obtain ⟨rfl, rfl⟩ := Prod.mk.inj hsplit
      exact ⟨Or.inl rfl, rfl⟩
  split at h
  · cases h
  rename_i whole r₁ hwhole
  split at h
  · cases h
  rename_i fraction r₂ hfraction
  split at h
  · cases h
  rename_i exponent r₃ hexponent
  obtain ⟨hw, rfl⟩ := whole_of_cutInteger hwhole
  obtain ⟨hf, rfl⟩ := fraction_of_cutFraction hfraction
  obtain ⟨he, rfl⟩ := exponent_of_cutExponent hexponent
  split at h
  · rename_i hempty
    simp only [Bool.and_eq_true, List.isEmpty_iff] at hempty
    obtain ⟨⟨rfl, rfl⟩, rfl⟩ := hempty
    obtain ⟨rfl, rfl⟩ := Prod.mk.inj (Option.some.inj h)
    exact ⟨whole, .natural hw, rfl⟩
  · rename_i hempty
    obtain ⟨rfl, rfl⟩ := Prod.mk.inj (Option.some.inj h)
    refine ⟨_, .literal hs hw hf he ?_, by simp⟩
    simpa [or_iff_not_imp_left] using hempty

/-! ## Strings -/

/-- What is cut off up to the closing quote are pieces of a string. -/
theorem spells_of_cutPieces {before ps : List Piece} {cs rest : List Char}
    (h : cutPieces before cs = some (ps, rest)) :
    ∃ new front, SpellsPieces new front ∧ ps = before.reverse ++ new ∧ cs = front ++ '"' :: rest := by
  fun_induction cutPieces before cs with
  | case1 => cases h
  | case2 before r =>
    obtain ⟨rfl, rfl⟩ := Prod.mk.inj (Option.some.inj h)
    exact ⟨[], [], .nil, (List.append_nil _).symm, rfl⟩
  | case3 before a b c d r n hn ih =>
    obtain ⟨new, front, hnew, rfl, rfl⟩ := ih h
    exact ⟨.unit n :: new, _, .cons (.unit hn) hnew, by simp, rfl⟩
  | case4 => cases h
  | case5 before e r hu c hc ih =>
    obtain ⟨new, front, hnew, rfl, rfl⟩ := ih h
    exact ⟨.char c :: new, _, .cons (.escape hc) hnew, by simp, rfl⟩
  | case6 => cases h
  | case7 => cases h
  | case8 before c r hq hu hb hplain ih =>
    obtain ⟨new, front, hnew, rfl, rfl⟩ := ih h
    simp only [Bool.or_eq_true, decide_eq_true_eq, not_or] at hplain
    exact ⟨.char c :: new, _, .cons (.plain (Nat.not_lt.1 hplain.1) hq hplain.2) hnew, by simp, rfl⟩

/-! ## Tokens -/

/-- What is cut off as a word is the word. -/
theorem eq_append_of_cutWord {w cs rest : List Char} (h : cutWord w cs = some rest) :
    cs = w ++ rest := by
  induction w generalizing cs with
  | nil => exact Option.some.inj h
  | cons x w ih =>
    cases cs with
    | nil => cases h
    | cons c cs =>
      rw [cutWord] at h
      split at h
      · rename_i hx
        rw [hx, ih h, List.cons_append]
      · cases h

/-- A word that is cut off stands for its token. -/
theorem eq_append_of_word {t t' : Token} {w cs rest : List Char}
    (h : (cutWord w cs).map (fun rest => (t', rest)) = some (t, rest)) : t' = t ∧ cs = w ++ rest := by
  obtain ⟨_, hcut, heq⟩ := Option.map_eq_some_iff.1 h
  obtain ⟨ht, rfl⟩ := Prod.mk.inj heq
  exact ⟨ht, eq_append_of_cutWord hcut⟩

/-- What is cut off as a token spells it. -/
theorem spells_of_cutToken {t : Token} {cs rest : List Char} (h : cutToken cs = some (t, rest)) :
    ∃ front, SpellsToken t front ∧ cs = front ++ rest := by
  unfold cutToken at h
  split at h
  case h_1 => cases h
  case h_8 =>
    obtain ⟨⟨ps, _⟩, hcut, heq⟩ := Option.map_eq_some_iff.1 h
    obtain ⟨rfl, rfl⟩ := Prod.mk.inj heq
    obtain ⟨new, front, hnew, rfl, rfl⟩ := spells_of_cutPieces hcut
    exact ⟨_, .str hnew, by simp⟩
  case h_9 =>
    obtain ⟨rfl, rfl⟩ := eq_append_of_word h
    exact ⟨_, .yes, rfl⟩
  case h_10 =>
    obtain ⟨rfl, rfl⟩ := eq_append_of_word h
    exact ⟨_, .no, rfl⟩
  case h_11 =>
    obtain ⟨rfl, rfl⟩ := eq_append_of_word h
    exact ⟨_, .null, rfl⟩
  case h_12 =>
    obtain ⟨⟨v, _⟩, hcut, heq⟩ := Option.map_eq_some_iff.1 h
    obtain ⟨rfl, rfl⟩ := Prod.mk.inj heq
    obtain ⟨front, hfront, rfl⟩ := spells_of_cutNumber hcut
    exact ⟨front, .number hfront, rfl⟩
  -- the marks are a character each
  all_goals
    obtain ⟨rfl, rfl⟩ := Prod.mk.inj (Option.some.inj h)
    exact ⟨[_], by constructor, rfl⟩

/-- A text that is cut up to its end spells what was cut off. -/
theorem spells_of_cutAll {found ts : List Token} {steps : Nat} {cs : List Char}
    (h : cutAll found steps cs = (ts, [])) : ∃ new, Spells new cs ∧ ts = found.reverse ++ new := by
  fun_induction cutAll found steps cs with
  | case1 found cs =>
    obtain ⟨rfl, rfl⟩ := Prod.mk.inj h
    exact ⟨[], .nil blank_nil, (List.append_nil _).symm⟩
  | case2 found steps =>
    obtain ⟨rfl, -⟩ := Prod.mk.inj h
    exact ⟨[], .nil blank_nil, (List.append_nil _).symm⟩
  | case3 found steps c r hspace ih =>
    obtain ⟨new, hnew, rfl⟩ := ih h
    have hblank : Blank [c] := by simpa [Blank] using hspace
    exact ⟨new, hnew.blank hblank, rfl⟩
  | case4 found steps c r hspace t rest hcut ih =>
    obtain ⟨new, hnew, rfl⟩ := ih h
    obtain ⟨front, hfront, heq⟩ := spells_of_cutToken hcut
    exact ⟨t :: new, heq ▸ hnew.token hfront, by simp⟩
  | case5 found steps c r hspace hcut => cases h

/-- A text spells its tokens. -/
theorem spells_of_tokens? {ts : List Token} {s : String} (h : tokens? s = some ts) :
    Spells ts s.toList := by
  unfold tokens? at h
  split at h
  · rename_i hcut
    obtain ⟨new, hnew, hts⟩ := spells_of_cutAll hcut
    rw [← Option.some.inj h, hts]
    exact hnew
  · cases h

/-! ## What was read -/

/-- The tokens of elements that have a comma behind them. -/
def openElements (xs : List Json) : List Token := xs.flatMap fun x => x.tokens ++ [.comma]

/-- The tokens of members that have a comma behind them. -/
def openMembers (ms : List (Option String × Json)) : List Token :=
  ms.flatMap fun m => .str m.1 :: .colon :: (m.2.tokens ++ [.comma])

/-- The last element of an array stands in front of the bracket. -/
theorem tokens_arr_concat (xs : List Json) (v : Json) : (arr (xs ++ [v])).tokens =
    .openBracket :: (openElements xs ++ (v.tokens ++ [.closeBracket])) := by
  have hmoved : ∀ (x : Json) (xs : List Json),
      x.tokens ++ elementTokens (xs ++ [v]) = openElements (x :: xs) ++ v.tokens := by
    intro x xs
    induction xs generalizing x with
    | nil => simp [elementTokens, openElements]
    | cons y ys ih =>
      rw [List.cons_append, elementTokens, ih y]
      simp [openElements]
  cases xs with
  | nil => rfl
  | cons x xs =>
    rw [List.cons_append, tokens, ← List.append_assoc, hmoved, List.append_assoc]

/-- The last member of an object stands in front of the brace. -/
theorem tokens_obj_concat (ms : List (Option String × Json)) (key : Option String) (v : Json) :
    (obj (ms ++ [(key, v)])).tokens =
      .openBrace :: (openMembers ms ++ .str key :: .colon :: (v.tokens ++ [.closeBrace])) := by
  have hmoved : ∀ (m : Option String × Json) (ms : List (Option String × Json)),
      .str m.1 :: .colon :: (m.2.tokens ++ memberTokens (ms ++ [(key, v)])) =
        openMembers (m :: ms) ++ .str key :: .colon :: v.tokens := by
    intro m ms
    induction ms generalizing m with
    | nil => simp [memberTokens, openMembers]
    | cons m' ms ih =>
      rw [List.cons_append, memberTokens, ih m']
      simp [openMembers]
  cases ms with
  | nil => rfl
  | cons m ms =>
    have hm := congrArg (· ++ [Token.closeBrace]) (hmoved m ms)
    simpa [tokens] using hm

/-- What was read of an open array or object. -/
def Frame.read : Frame → List Token
  | .element done => .openBracket :: openElements done.reverse
  | .member done key => .openBrace :: (openMembers done.reverse ++ [.str key, .colon])

/-- What was read behind the open arrays and objects. -/
def Expect.read : Expect → List Token
  | .value => []
  | .firstElement => [.openBracket]
  | .firstKey => [.openBrace]
  | .key done => .openBrace :: openMembers done.reverse
  | .colon done name => .openBrace :: (openMembers done.reverse ++ [.str name])
  | .ended v => v.tokens

/-- All that was read. -/
def ReadState.read (s : ReadState) : List Token :=
  s.frames.reverse.flatMap Frame.read ++ s.expect.read

/-- A number or a word, if it is one, is a proper value of one token. -/
def Token.Atomic (t : Token) : Prop := ∀ v, t = .scalar v → v.tokens = [t] ∧ v.Proper

/-- What is spelled as one token holds no document with parts. -/
theorem SpellsToken.atomic {t : Token} {cs : List Char} (h : SpellsToken t cs) : t.Atomic := by
  rintro v rfl
  cases h with
  | number h =>
    cases h with
    | natural h => exact ⟨rfl, trivial⟩
    | literal hs hw hf he h =>
      refine ⟨rfl, ?_⟩
      rw [Proper, String.toList_ofList]
      exact .literal hs hw hf he h
  | _ => exact ⟨rfl, trivial⟩

theorem Spells.atomic {ts : List Token} {cs : List Char} (h : Spells ts cs) :
    ∀ t ∈ ts, t.Atomic := by
  induction h with
  | nil => exact List.forall_mem_nil _
  | cons _ ht _ ih => exact List.forall_mem_cons.2 ⟨ht.atomic, ih⟩

/-- A token in the place of a value is one more token read. -/
theorem read_readValue {frames : List Frame} {t : Token} {s : ReadState} (ht : t.Atomic)
    (h : readValue frames t = some s) : s.read = frames.reverse.flatMap Frame.read ++ [t] := by
  unfold readValue at h
  split at h
  · obtain rfl := Option.some.inj h
    rw [ReadState.read, Expect.read, (ht _ rfl).1]
  · obtain rfl := Option.some.inj h
    rfl
  · obtain rfl := Option.some.inj h
    rfl
  · obtain rfl := Option.some.inj h
    rfl
  · cases h

/-- A token behind a value is one more token read. -/
theorem read_readEnd {v : Json} {frames : List Frame} {t : Token} {s : ReadState}
    (h : readEnd v frames t = some s) :
    s.read = frames.reverse.flatMap Frame.read ++ v.tokens ++ [t] := by
  unfold readEnd at h
  split at h
  · obtain rfl := Option.some.inj h
    simp [ReadState.read, Frame.read, Expect.read, openElements]
  · obtain rfl := Option.some.inj h
    rw [ReadState.read, Expect.read, List.reverse_cons, tokens_arr_concat]
    simp [Frame.read]
  · obtain rfl := Option.some.inj h
    simp [ReadState.read, Frame.read, Expect.read, openMembers]
  · obtain rfl := Option.some.inj h
    rw [ReadState.read, Expect.read, List.reverse_cons, tokens_obj_concat]
    simp [Frame.read]
  · cases h

/-- A token that is read is one more that was read. -/
theorem read_readToken {s s' : ReadState} {t : Token} (ht : t.Atomic)
    (h : readToken s t = some s') : s'.read = s.read ++ [t] := by
  obtain ⟨expect, frames⟩ := s
  unfold readToken at h
  split at h
  case h_1 hexpect =>
    obtain rfl : expect = .value := hexpect
    rw [read_readValue ht h]
    simp [ReadState.read, Expect.read]
  case h_2 hexpect =>
    obtain rfl : expect = .firstElement := hexpect
    obtain rfl := Option.some.inj h
    simp [ReadState.read, Expect.read, tokens]
  case h_3 hexpect _ =>
    obtain rfl : expect = .firstElement := hexpect
    rw [read_readValue ht h]
    simp [ReadState.read, Expect.read, Frame.read, openElements]
  case h_4 hexpect =>
    obtain rfl : expect = .firstKey := hexpect
    obtain rfl := Option.some.inj h
    simp [ReadState.read, Expect.read, tokens]
  case h_5 hexpect =>
    obtain rfl : expect = .firstKey := hexpect
    obtain rfl := Option.some.inj h
    simp [ReadState.read, Expect.read, openMembers]
  case h_6 hexpect =>
    obtain rfl : expect = .key _ := hexpect
    obtain rfl := Option.some.inj h
    simp [ReadState.read, Expect.read]
  case h_7 hexpect =>
    obtain rfl : expect = .colon _ _ := hexpect
    obtain rfl := Option.some.inj h
    simp [ReadState.read, Expect.read, Frame.read]
  case h_8 hexpect =>
    obtain rfl : expect = .ended _ := hexpect
    rw [read_readEnd h]
    rfl
  case h_9 => cases h

/-- So are all tokens of a list. -/
theorem read_readAll {s s' : ReadState} {ts : List Token} (hts : ∀ t ∈ ts, t.Atomic)
    (h : readAll s ts = some s') : s'.read = s.read ++ ts := by
  induction ts generalizing s with
  | nil =>
    obtain rfl := Option.some.inj h
    exact (List.append_nil _).symm
  | cons t ts ih =>
    obtain ⟨ht, hts⟩ := List.forall_mem_cons.1 hts
    rw [readAll] at h
    split at h
    · rename_i s₁ hstep
      rw [ih hts h, read_readToken ht hstep, List.append_assoc, List.singleton_append]
    · cases h

/-- What makes up a document are its tokens. -/
theorem tokens_of_ofTokens? {ts : List Token} {j : Json} (hts : ∀ t ∈ ts, t.Atomic)
    (h : ofTokens? ts = some j) : j.tokens = ts := by
  unfold ofTokens? at h
  split at h
  · rename_i hread
    obtain rfl := Option.some.inj h
    exact read_readAll hts hread
  · cases h

/-- A text is read as a document exactly if it spells its tokens. -/
theorem parse?_eq_some_iff {s : String} {j : Json} :
    parse? s = some j ↔ Spells j.tokens s.toList := by
  refine ⟨fun h => ?_, parse?_of_spells⟩
  unfold parse? at h
  split at h
  · rename_i ts hcut
    have hspells := spells_of_tokens? hcut
    rw [tokens_of_ofTokens? hspells.atomic h]
    exact hspells
  · cases h

/-! ## What was read can be written -/

mutual

/-- A document is proper if its tokens are. -/
theorem proper_of_tokens (j : Json) (h : ∀ t ∈ j.tokens, t.Atomic) : j.Proper := by
  match j with
  | .null => trivial
  | .bool _ => trivial
  | .natural _ => trivial
  | .number _ => exact (h _ List.mem_cons_self _ rfl).2
  | .str _ => trivial
  | .arr [] => trivial
  | .arr (x :: xs) =>
    rw [tokens, List.forall_mem_cons, List.forall_mem_append, List.forall_mem_append] at h
    obtain ⟨-, hx, hxs, -⟩ := h
    exact ⟨proper_of_tokens x hx, properElements_of_tokens xs hxs⟩
  | .obj [] => trivial
  | .obj ((_, v) :: ms) =>
    rw [tokens, List.forall_mem_cons, List.forall_mem_cons, List.forall_mem_cons,
      List.forall_mem_append, List.forall_mem_append] at h
    obtain ⟨-, -, -, hv, hms, -⟩ := h
    exact ⟨proper_of_tokens v hv, properMembers_of_tokens ms hms⟩

/-- So it is with the elements of an array, -/
theorem properElements_of_tokens (xs : List Json) (h : ∀ t ∈ elementTokens xs, t.Atomic) :
    ProperElements xs := by
  match xs with
  | [] => trivial
  | x :: xs =>
    rw [elementTokens, List.forall_mem_cons, List.forall_mem_append] at h
    obtain ⟨-, hx, hxs⟩ := h
    exact ⟨proper_of_tokens x hx, properElements_of_tokens xs hxs⟩

/-- and with the members of an object. -/
theorem properMembers_of_tokens (ms : List (Option String × Json))
    (h : ∀ t ∈ memberTokens ms, t.Atomic) : ProperMembers ms := by
  match ms with
  | [] => trivial
  | (_, v) :: ms =>
    rw [memberTokens, List.forall_mem_cons, List.forall_mem_cons, List.forall_mem_cons,
      List.forall_mem_append] at h
    obtain ⟨-, -, -, hv, hms⟩ := h
    exact ⟨proper_of_tokens v hv, properMembers_of_tokens ms hms⟩

end

/-- What is written of a document that was read is read as that document. -/
theorem parse?_render {s : String} {j : Json} (h : parse? s = some j) : parse? j.render = some j := by
  have hspells := parse?_eq_some_iff.1 h
  exact parse?_of_spells (spells_render (proper_of_tokens j hspells.atomic))

end Iommu.Json
