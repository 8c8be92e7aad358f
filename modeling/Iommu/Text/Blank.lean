/-
  White space, and what is left of a text without it at either end.

  `isBlank` is the Unicode property White_Space: twenty-five characters in ten ranges.  It contains
  every character that Lean's own `Char.isWhitespace` accepts (`isBlank_of_isWhitespace`), and the
  line and space characters outside ASCII that it does not.  Trimming takes off white space alone
  (`exists_eq_trimmed`) and all of it (`trimmed_append`).
-/

namespace Iommu.Text

/-- The ranges of code points with the property White_Space. -/
def blankRanges : List (Nat × Nat) :=
  [(0x09, 0x0D), (0x20, 0x20), (0x85, 0x85), (0xA0, 0xA0), (0x1680, 0x1680), (0x2000, 0x200A),
   (0x2028, 0x2029), (0x202F, 0x202F), (0x205F, 0x205F), (0x3000, 0x3000)]

/-- Whether a code point lies in one of the ranges. -/
def inRanges (ranges : List (Nat × Nat)) (n : Nat) : Bool :=
  ranges.any fun r => r.1 ≤ n && n ≤ r.2

/-- Whether a character is white space. -/
def isBlank (c : Char) : Bool := inRanges blankRanges c.toNat

/-- No white space stands among the printed characters of ASCII. -/
theorem le_or_le_of_isBlank {c : Char} (h : isBlank c = true) : c.toNat ≤ 0x20 ∨ 0x85 ≤ c.toNat := by
  have hedges : ∀ r ∈ blankRanges, r.2 ≤ 0x20 ∨ 0x85 ≤ r.1 := by decide
  obtain ⟨r, hr, hin⟩ := List.any_eq_true.1 h
  simp only [Bool.and_eq_true, decide_eq_true_eq] at hin
  have hedge := hedges r hr
  omega

example : (blankRanges.map fun r => r.2 + 1 - r.1).sum = 25 := by decide

/-- The characters of a text without white space at either end. -/
def trimmed (cs : List Char) : List Char :=
  ((cs.dropWhile isBlank).reverse.dropWhile isBlank).reverse

/-- Nothing is dropped from a text that begins with no white space. -/
theorem dropWhile_isBlank_eq_self {cs : List Char} (h : ∀ c ∈ cs.head?, isBlank c = false) :
    cs.dropWhile isBlank = cs := by
  cases cs with
  | nil => rfl
  | cons c cs => exact List.dropWhile_cons_of_neg (by simp [h c rfl])

/-- White space goes from both ends, and what stands between stays if it neither begins nor ends with
    white space. -/
theorem trimmed_append {lead text trail : List Char} (hlead : ∀ c ∈ lead, isBlank c = true)
    (htrail : ∀ c ∈ trail, isBlank c = true) (hfirst : ∀ c ∈ text.head?, isBlank c = false)
    (hlast : ∀ c ∈ text.getLast?, isBlank c = false) : trimmed (lead ++ text ++ trail) = text := by
  -- with no text at all the white space in front runs into that behind
  have hdropped : ∃ rest, (text ++ trail).dropWhile isBlank = text ++ rest ∧
      ∀ c ∈ rest.reverse, isBlank c = true := by
    cases text with
    | nil =>
      have hall : (trail ++ []).dropWhile isBlank = [] := List.dropWhile_append_of_pos htrail
      exact ⟨[], by simpa using hall, by simp⟩
    | cons c cs =>
      exact ⟨trail, dropWhile_isBlank_eq_self (by simpa using hfirst),
        fun c hc => htrail c (List.mem_reverse.1 hc)⟩
  obtain ⟨rest, hrest, hblank⟩ := hdropped
  rw [trimmed, List.append_assoc, List.dropWhile_append_of_pos hlead, hrest, List.reverse_append,
    List.dropWhile_append_of_pos hblank, dropWhile_isBlank_eq_self, List.reverse_reverse]
  simpa using hlast

/-- What is trimmed off a text is white space. -/
theorem exists_eq_trimmed (cs : List Char) : ∃ lead trail, cs = lead ++ trimmed cs ++ trail ∧
    (∀ c ∈ lead, isBlank c = true) ∧ ∀ c ∈ trail, isBlank c = true := by
  refine ⟨cs.takeWhile isBlank, ((cs.dropWhile isBlank).reverse.takeWhile isBlank).reverse, ?_,
    ?_, ?_⟩
  · rw [trimmed, List.append_assoc, ← List.reverse_append, List.takeWhile_append_dropWhile,
      List.reverse_reverse, List.takeWhile_append_dropWhile]
  · exact List.all_eq_true.1 List.all_takeWhile
  · intro c hc
    exact List.all_eq_true.1 List.all_takeWhile c (List.mem_reverse.1 hc)

/-- The text without white space at either end. -/
def trim (s : String) : String := String.ofList (trimmed s.toList)

example : trim "\t r-x\n" = "r-x" := by decide
example : trim "\u00a0a b\u3000" = "a b" := by decide
example : trim "\u200ba" = "\u200ba" := by decide

end Iommu.Text
