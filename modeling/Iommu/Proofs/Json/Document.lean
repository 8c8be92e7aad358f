/-
  Documents as texts: what is written is read back, in whatever layout.

  `j.tokens` is the one sequence of tokens that makes up the document `j`.  A text that spells it, with any
  white space between the tokens and its strings escaped in any way, is read as `j`
  (`parse?_of_spells`): numbers and words never stand side by side in it (`separated_tokens`), so it
  is cut back into these tokens, and the reader takes the tokens of a value from wherever a value is
  expected to where it has ended (`readAll_tokens`).

  The writer spells the tokens of its document in one such layout (`spells_render`).  Both facts follow
  the shape of the document, with the text or the tokens that come behind left open.
-/
import Iommu.Json.Reader
import Iommu.Json.Writer
import Iommu.Proofs.Json.Spelling

namespace Iommu.Json

/-! ## The tokens of a document -/

mutual

/-- The tokens that make up a document. -/
def tokens : Json → List Token
  | .null => [.scalar .null]
  | .bool b => [.scalar (.bool b)]
  | .natural n => [.scalar (.natural n)]
  | .number literal => [.scalar (.number literal)]
  | .str s => [.str s]
  | .arr [] => [.openBracket, .closeBracket]
  | .arr (x :: xs) => .openBracket :: (x.tokens ++ (elementTokens xs ++ [.closeBracket]))
  | .obj [] => [.openBrace, .closeBrace]
  | .obj ((key, v) :: ms) =>
    .openBrace :: .str key :: .colon :: (v.tokens ++ (memberTokens ms ++ [.closeBrace]))

/-- The tokens of the elements behind the first. -/
def elementTokens : List Json → List Token
  | [] => []
  | x :: xs => .comma :: (x.tokens ++ elementTokens xs)

/-- The tokens of the members behind the first. -/
def memberTokens : List (Option String × Json) → List Token
  | [] => []
  | (key, v) :: ms => .comma :: .str key :: .colon :: (v.tokens ++ memberTokens ms)

end

/-! ## Numbers and words apart -/

/-- The tokens are separated, and begin with a mark if at all. -/
structure Fenced (ts : List Token) : Prop where
  separated : Separated ts
  mark : ∀ t ∈ ts.head?, t.isScalar = false

/-- A token that is no scalar keeps apart from anything. -/
theorem Separated.cons {t : Token} {ts : List Token} (h : Separated ts)
    (ht : t.isScalar = false) : Separated (t :: ts) :=
  List.isChain_cons.2 ⟨fun _ _ => Or.inl ht, h⟩

theorem Fenced.cons {t : Token} {ts : List Token} (h : Separated ts) (ht : t.isScalar = false) :
    Fenced (t :: ts) := by
  refine ⟨h.cons ht, ?_⟩
  rintro x ⟨⟩
  exact ht

/-- Any one token may stand before a mark. -/
theorem Fenced.before {ts : List Token} (h : Fenced ts) (t : Token) : Separated (t :: ts) :=
  List.isChain_cons.2 ⟨fun x hx => Or.inr (h.mark x hx), h.separated⟩

mutual

/-- The tokens of a document keep apart, with whatever may follow it. -/
theorem separated_tokens (j : Json) {ts : List Token} (h : Fenced ts) :
    Separated (j.tokens ++ ts) := by
  match j with
  | .null => exact h.before _
  | .bool _ => exact h.before _
  | .natural _ => exact h.before _
  | .number _ => exact h.before _
  | .str _ => exact h.before _
  | .arr [] => exact (h.before .closeBracket).cons rfl
  | .arr (x :: xs) =>
    simp only [tokens, List.cons_append, List.append_assoc, List.nil_append]
    exact (separated_tokens x (fenced_elementTokens xs (.cons h.separated rfl))).cons rfl
  | .obj [] => exact (h.before .closeBrace).cons rfl
  | .obj ((_, v) :: ms) =>
    simp only [tokens, List.cons_append, List.append_assoc, List.nil_append]
    exact (((separated_tokens v (fenced_memberTokens ms (.cons h.separated rfl))).cons rfl).cons
      rfl).cons rfl

/-- So do those of elements behind a comma, -/
theorem fenced_elementTokens (xs : List Json) {ts : List Token} (h : Fenced ts) :
    Fenced (elementTokens xs ++ ts) := by
  match xs with
  | [] => exact h
  | x :: xs =>
    simp only [elementTokens, List.cons_append, List.append_assoc]
    exact .cons (separated_tokens x (fenced_elementTokens xs h)) rfl

/-- and those of members. -/
theorem fenced_memberTokens (ms : List (Option String × Json)) {ts : List Token} (h : Fenced ts) :
    Fenced (memberTokens ms ++ ts) := by
  match ms with
  | [] => exact h
  | (_, v) :: ms =>
    simp only [memberTokens, List.cons_append, List.append_assoc]
    exact .cons (((separated_tokens v (fenced_memberTokens ms h)).cons rfl).cons rfl) rfl

end

/-! ## Reading -/

/-- In an array just opened an element is read like any other. -/
theorem readAll_firstElement (x : Json) (frames : List Frame) (ts : List Token) :
    readAll ⟨.firstElement, frames⟩ (x.tokens ++ ts) =
      readAll ⟨.value, .element [] :: frames⟩ (x.tokens ++ ts) := by
  match x with
  | .null => rfl
  | .bool _ => rfl
  | .natural _ => rfl
  | .number _ => rfl
  | .str _ => rfl
  | .arr [] => rfl
  | .arr (_ :: _) => rfl
  | .obj [] => rfl
  | .obj (_ :: _) => rfl

mutual

/-- Where a value is expected, the tokens of one are read as that value. -/
theorem readAll_tokens (j : Json) (frames : List Frame) (ts : List Token) :
    readAll ⟨.value, frames⟩ (j.tokens ++ ts) = readAll ⟨.ended j, frames⟩ ts := by
  match j with
  | .null => rfl
  | .bool _ => rfl
  | .natural _ => rfl
  | .number _ => rfl
  | .str _ => rfl
  | .arr [] => rfl
  | .arr (x :: xs) =>
    simp only [tokens, List.cons_append, List.append_assoc, List.nil_append]
    show readAll ⟨.firstElement, frames⟩ _ = _
    rw [readAll_firstElement, readAll_tokens x, readAll_elementTokens xs]
    rfl
  | .obj [] => rfl
  | .obj ((key, v) :: ms) =>
    simp only [tokens, List.cons_append, List.append_assoc, List.nil_append]
    show readAll ⟨.value, .member [] key :: frames⟩ _ = _
    rw [readAll_tokens v, readAll_memberTokens ms]
    rfl

/-- Behind an element the rest of its array is read. -/
theorem readAll_elementTokens (xs : List Json) (v : Json) (done : List Json) (frames : List Frame)
    (ts : List Token) :
    readAll ⟨.ended v, .element done :: frames⟩ (elementTokens xs ++ .closeBracket :: ts) =
      readAll ⟨.ended (.arr (done.reverse ++ v :: xs)), frames⟩ ts := by
  match xs with
  | [] =>
    show readAll ⟨.ended (.arr (v :: done).reverse), frames⟩ ts = _
    rw [List.reverse_cons]
  | x :: xs =>
    simp only [elementTokens, List.cons_append, List.append_assoc]
    show readAll ⟨.value, .element (v :: done) :: frames⟩ _ = _
    rw [readAll_tokens x, readAll_elementTokens xs, List.reverse_cons, List.append_assoc,
      List.singleton_append]

/-- Behind a member the rest of its object is read. -/
theorem readAll_memberTokens (ms : List (Option String × Json)) (key : Option String) (v : Json)
    (done : List (Option String × Json)) (frames : List Frame) (ts : List Token) :
    readAll ⟨.ended v, .member done key :: frames⟩ (memberTokens ms ++ .closeBrace :: ts) =
      readAll ⟨.ended (.obj (done.reverse ++ (key, v) :: ms)), frames⟩ ts := by
  match ms with
  | [] =>
    show readAll ⟨.ended (.obj ((key, v) :: done).reverse), frames⟩ ts = _
    rw [List.reverse_cons]
  | (key', x) :: ms =>
    simp only [memberTokens, List.cons_append, List.append_assoc]
    show readAll ⟨.value, .member ((key, v) :: done) key' :: frames⟩ _ = _
    rw [readAll_tokens x, readAll_memberTokens ms, List.reverse_cons, List.append_assoc,
      List.singleton_append]

end

/-- The tokens of a document are read as the document. -/
theorem ofTokens?_tokens (j : Json) : ofTokens? j.tokens = some j := by
  have hread := readAll_tokens j [] []
  rw [List.append_nil] at hread
  rw [ofTokens?, hread]
  rfl

/-- A text that spells the tokens of a document is read as that document. -/
theorem parse?_of_spells {j : Json} {s : String} (h : Spells j.tokens s.toList) :
    parse? s = some j := by
  have hfenced : Fenced [] := ⟨List.isChain_nil, nofun⟩
  have hseparated := separated_tokens j hfenced
  rw [List.append_nil] at hseparated
  rw [parse?, tokens?_of_spells h hseparated]
  exact ofTokens?_tokens j

/-! ## Written numbers -/

/-- Digits that are written stand for the number. -/
theorem naturalOf_decimalDigits (n : Nat) : naturalOf (decimalDigits n) = n := by
  have hfold := Nat.ofDigitChars_ten_toDigits (n := n)
  rw [Nat.ofDigitChars_eq_foldl] at hfold
  rw [naturalOf, decimalDigits, ← hfold]
  congr 1
  · funext m c
    rw [Nat.mul_comm]
    rfl
  · rw [hfold]

/-- They have no leading zero. -/
theorem whole_decimalDigits (n : Nat) : Whole (decimalDigits n) := by
  refine ⟨⟨Nat.toDigits_ne_nil, fun c hc => Nat.isDigit_of_mem_toDigits (by decide) (by decide) hc⟩, ?_⟩
  rw [decimalDigits]
  induction n using Nat.strongRecOn with
  | ind n ih =>
    intro hzero
    by_cases hlt : n < 10
    · rw [Nat.toDigits_of_lt_base hlt] at hzero ⊢
      rw [Option.some.inj hzero]
    · have hsplit := Nat.toDigits_of_base_le (by decide : 1 < 10) (Nat.not_lt.1 hlt)
      rw [hsplit, List.head?_append_of_ne_nil _ Nat.toDigits_ne_nil] at hzero
      -- the leading digits would stand for zero
      have hvalue := naturalOf_decimalDigits (n / 10)
      rw [decimalDigits, ih (n / 10) (by omega) hzero] at hvalue
      have hnone : naturalOf ['0'] = 0 := by decide
      omega

/-! ## Written strings -/

/-- The escape of a control character is read back. -/
theorem unit?_control : ∀ n < 0x20, unit? '0' '0' (hexChar (n / 16)) (hexChar n) = some n := by
  decide

/-- A unit that is no half of a pair stands for a character. -/
theorem textOf_unit {n : Nat} (h : n < 0xD800) (read : List Char) (ps : List Piece) :
    textOf read (.unit n :: ps) = textOf (Char.ofNat n :: read) ps := by
  have hhigh : isHighHalf n = false := by simp [isHighHalf, h]
  have hlow : isLowHalf n = false := by
    have : n < 0xDC00 := by omega
    simp [isLowHalf, this]
  cases ps with
  | nil => simp [textOf, hhigh, hlow]
  | cons p r => simp [textOf, hhigh, hlow]

/-- A character is written as one piece that stands for it. -/
theorem spellsPiece_escaped (c : Char) : ∃ p, SpellsPiece p (escaped c) ∧
    ∀ read ps, textOf read (p :: ps) = textOf (c :: read) ps := by
  have hchar : ∀ e c', escape? e = some c' →
      ∃ p, SpellsPiece p ['\\', e] ∧ ∀ read ps, textOf read (p :: ps) = textOf (c' :: read) ps :=
    fun e c' h => ⟨.char c', .escape h, fun _ _ => by rw [textOf]⟩
  unfold escaped
  split
  · rename_i h
    exact h ▸ hchar '"' '"' rfl
  split
  · rename_i h
    exact h ▸ hchar '\\' '\\' rfl
  split
  · rename_i h
    exact h ▸ hchar 'n' '\n' rfl
  split
  · rename_i h
    exact h ▸ hchar 'r' '\r' rfl
  split
  · rename_i h
    exact h ▸ hchar 't' '\t' rfl
  split
  · rename_i h
    exact h ▸ hchar 'b' '\x08' rfl
  split
  · rename_i h
    exact h ▸ hchar 'f' '\x0c' rfl
  split
  · rename_i h
    refine ⟨.unit c.toNat, .unit (unit?_control c.toNat h), fun read ps => ?_⟩
    rw [textOf_unit (by omega), Char.ofNat_toNat]
  · rename_i hq hb _ _ _ _ _ h
    exact ⟨.char c, .plain (Nat.not_lt.1 h) hq hb, fun _ _ => by rw [textOf]⟩

/-- The characters of a text are written as pieces that make it up. -/
theorem spellsPieces_escaped (cs : List Char) : ∃ ps, SpellsPieces ps (cs.flatMap escaped) ∧
    ∀ read, textOf read ps = some (String.ofList (read.reverse ++ cs)) := by
  induction cs with
  | nil => exact ⟨[], .nil, fun read => by rw [textOf, List.append_nil]⟩
  | cons c cs ih =>
    obtain ⟨p, hp, hc⟩ := spellsPiece_escaped c
    obtain ⟨ps, hps, hcs⟩ := ih
    refine ⟨p :: ps, .cons hp hps, fun read => ?_⟩
    rw [hc, hcs, List.reverse_cons, List.append_assoc, List.singleton_append]

/-- A text is written between quotes, with escapes for what needs one. -/
theorem spellsToken_writeString (s : Option String) : SpellsToken (.str s) (writeString s) := by
  cases s with
  | none =>
    have hpieces : SpellsPieces [.unit 0xd800] ['\\', 'u', 'd', '8', '0', '0'] :=
      .cons (.unit (by decide)) .nil
    exact .str hpieces
  | some s =>
    obtain ⟨ps, hps, htext⟩ := spellsPieces_escaped s.toList
    have hs : textOf [] ps = some s := by
      rw [htext, List.reverse_nil, List.nil_append, String.ofList_toList]
    have htoken := SpellsToken.str hps
    rwa [hs] at htoken

/-! ## Written documents -/

mutual

/-- The literals among the numbers of a document are numbers. -/
def Proper : Json → Prop
  | .number literal => SpellsNumber (.number literal) literal.toList
  | .arr xs => ProperElements xs
  | .obj ms => ProperMembers ms
  | _ => True

/-- Every element is proper. -/
def ProperElements : List Json → Prop
  | [] => True
  | x :: xs => x.Proper ∧ ProperElements xs

/-- Every value is proper. -/
def ProperMembers : List (Option String × Json) → Prop
  | [] => True
  | (_, v) :: ms => v.Proper ∧ ProperMembers ms

end

/-- A new line with its indentation is blank. -/
theorem blank_newLine (depth : Nat) : Blank (newLine depth) := by
  intro c hc
  rcases List.mem_cons.1 hc with rfl | hc
  · decide
  · rw [List.eq_of_mem_replicate hc]
    decide

theorem blank_nil : Blank [] := List.forall_mem_nil _

theorem blank_space : Blank [' '] := by simp [Blank, isSpace]

namespace Spells

variable {t : Token} {ts : List Token} {ws cs rest : List Char}

/-- White space may stand in front. -/
theorem blank (h : Spells ts rest) (hw : Blank ws) : Spells ts (ws ++ rest) := by
  have happend : ∀ {ws' : List Char}, Blank ws' → Blank (ws ++ ws') := fun hw' c hc =>
    (List.mem_append.1 hc).elim (hw c) (hw' c)
  cases h with
  | nil hw' => exact .nil (happend hw')
  | cons hw' ht hs =>
    rw [← List.append_assoc, ← List.append_assoc]
    exact .cons (happend hw') ht hs

/-- A token may stand in front. -/
theorem token (h : Spells ts rest) (ht : SpellsToken t cs) : Spells (t :: ts) (cs ++ rest) :=
  .cons blank_nil ht h

end Spells

mutual

/-- A document is written as its tokens, in lines. -/
theorem spells_write (j : Json) (depth : Nat) (hj : j.Proper) {ts : List Token} {cs : List Char}
    (h : Spells ts cs) : Spells (j.tokens ++ ts) (write depth j ++ cs) := by
  match j with
  | .null => exact h.token .null
  | .bool true => exact h.token .yes
  | .bool false => exact h.token .no
  | .natural n =>
    have hn := SpellsNumber.natural (whole_decimalDigits n)
    rw [naturalOf_decimalDigits] at hn
    exact h.token (.number hn)
  | .number literal => exact h.token (.number hj)
  | .str s => exact h.token (spellsToken_writeString s)
  | .arr [] => exact (h.token .closeBracket).token .openBracket
  | .arr (x :: xs) =>
    simp only [Proper, ProperElements] at hj
    simp only [tokens, write, List.cons_append, List.append_assoc, List.nil_append]
    have hclose := (h.token .closeBracket).blank (blank_newLine depth)
    have hrest := spells_writeElements xs (depth + 1) hj.2 hclose
    have hfirst := spells_write x (depth + 1) hj.1 hrest
    exact (hfirst.blank (blank_newLine (depth + 1))).token .openBracket
  | .obj [] => exact (h.token .closeBrace).token .openBrace
  | .obj ((key, v) :: ms) =>
    simp only [Proper, ProperMembers] at hj
    simp only [tokens, write, List.cons_append, List.append_assoc, List.nil_append]
    have hclose := (h.token .closeBrace).blank (blank_newLine depth)
    have hrest := spells_writeMembers ms (depth + 1) hj.2 hclose
    have hvalue := spells_write v (depth + 1) hj.1 hrest
    have hcolon := (hvalue.blank blank_space).token .colon
    have hkey := hcolon.token (spellsToken_writeString key)
    exact (hkey.blank (blank_newLine (depth + 1))).token .openBrace

/-- Elements are written with a comma in front of each, -/
theorem spells_writeElements (xs : List Json) (depth : Nat) (hxs : ProperElements xs)
    {ts : List Token} {cs : List Char} (h : Spells ts cs) :
    Spells (elementTokens xs ++ ts) (writeElements depth xs ++ cs) := by
  match xs with
  | [] => exact h
  | x :: xs =>
    simp only [ProperElements] at hxs
    simp only [elementTokens, writeElements, List.cons_append, List.append_assoc]
    have hfirst := spells_write x depth hxs.1 (spells_writeElements xs depth hxs.2 h)
    exact (hfirst.blank (blank_newLine depth)).token .comma

/-- and members with their names. -/
theorem spells_writeMembers (ms : List (Option String × Json)) (depth : Nat)
    (hms : ProperMembers ms) {ts : List Token} {cs : List Char} (h : Spells ts cs) :
    Spells (memberTokens ms ++ ts) (writeMembers depth ms ++ cs) := by
  match ms with
  | [] => exact h
  | (key, v) :: ms =>
    simp only [ProperMembers] at hms
    simp only [memberTokens, writeMembers, List.cons_append, List.append_assoc, List.nil_append]
    have hvalue := spells_write v depth hms.1 (spells_writeMembers ms depth hms.2 h)
    have hcolon := (hvalue.blank blank_space).token .colon
    have hkey := hcolon.token (spellsToken_writeString key)
    exact (hkey.blank (blank_newLine depth)).token .comma

end

/-- The written text spells the document. -/
theorem spells_render {j : Json} (h : j.Proper) : Spells j.tokens j.render.toList := by
  have hwritten := spells_write j 0 h (.nil blank_nil)
  rwa [List.append_nil, List.append_nil, ← String.toList_ofList (l := write 0 j)] at hwritten

end Iommu.Json
