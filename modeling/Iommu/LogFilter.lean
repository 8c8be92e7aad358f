/-
  Log filters, which say what the program logs.

  A filter is a list of directives with commas between them, and an empty directive says nothing.
  A directive is one of
    * a level, or the name of a target;
    * a span in brackets, which may name fields in braces, with or without a target before it;
    * a target or a span with a level behind an equals sign.
  A level has a name and a number.  The number is read like every other number, so `+3` and `03` are
  the level `info` as well as `3` is.
-/
import Iommu.Text.Blank
import Iommu.Text.Natural

namespace Iommu.LogFilter

/-- The names of the levels.  The number of a level is its place in this list. -/
def levelNames : List String := ["off", "error", "warn", "info", "debug", "trace"]

/-- Whether a text is the name of a level, in letters of either case, or the number of one. -/
def isLevel (cs : List Char) : Bool :=
  levelNames.contains (String.ofList (cs.map Char.toLower)) ||
    match Text.readWord .ten cs with
    | .ok n => n.toNat < levelNames.length
    | .error _ => false

/-- Whether a name can begin with the character.  Every character outside ASCII can. -/
def beginsName (c : Char) : Bool :=
  c.isAlphanum || c = '-' || c = ':' || c = '_' || 0x7F < c.toNat

/-- What may stand behind a target or a span: nothing, or an equals sign and perhaps a level. -/
def isAssignment : List Char → Bool
  | [] => true
  | '=' :: level => level.isEmpty || isLevel level
  | _ => false

/-- Whether a text goes on as a directive does behind the bracket that opens a span. -/
def isSpan (cs : List Char) : Bool :=
  match cs.dropWhile fun c => c ≠ ']' && c ≠ '\x7b' with
  | [] => false
  | ']' :: rest => isAssignment rest
  | _ :: fields =>
    match fields.dropWhile (· ≠ '\x7d') with
    | _ :: ']' :: rest => isAssignment rest
    | _ => false

/-- Whether a text without white space at its ends is a directive. -/
def isDirective : List Char → Bool
  | [] => false
  | '[' :: rest => isSpan rest
  | c :: rest =>
    beginsName c &&
      match rest.dropWhile fun c => c ≠ '=' && c ≠ '[' with
      | '[' :: rest => isSpan rest
      | rest => isAssignment rest

/-- The parts of a text between the commas outside brackets.  `inside` says that the text begins
    inside. -/
def directives (inside : Bool) : List Char → List (List Char)
  | [] => [[]]
  | c :: rest =>
    if c = ',' && !inside then [] :: directives false rest
    else match directives ((inside || c = '[') && c ≠ ']') rest with
      | [] => [[c]]
      | d :: ds => (c :: d) :: ds

/-- Whether a text is a log filter. -/
def isLogFilter (s : String) : Bool :=
  (directives false s.toList).all fun d => d.isEmpty || isDirective (Text.trimmed d)

/-- Splitting loses nothing but commas. -/
theorem flatten_directives (inside : Bool) (cs : List Char) :
    (directives inside cs).flatten.filter (· ≠ ',') = cs.filter (· ≠ ',') := by
  induction cs generalizing inside with
  | nil => rfl
  | cons c rest ih =>
    unfold directives
    split
    · rename_i h
      simp_all
    · have h := ih ((inside || c = '[') && c ≠ ']')
      split
      · rename_i e
        rw [e] at h
        simp only [List.filter_cons, ← h, List.flatten_cons, List.flatten_nil, List.append_nil]
      · rename_i d ds e
        rw [e] at h
        simp only [List.filter_cons, ← h, List.flatten_cons, List.cons_append]

example : isLogFilter "info,,smmu=+3" = true := by decide +kernel
example : isLogFilter "smmu[walk\x7bstream=1,pasid\x7d]=Debug" = true := by decide +kernel
example : isLogFilter "a=b=c" = false := by decide +kernel
example : isLogFilter "a=6" = false := by decide +kernel

end Iommu.LogFilter
