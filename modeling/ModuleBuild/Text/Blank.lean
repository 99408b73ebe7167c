/-!
# Blank characters, trimming and lines

Tools write their messages with stray spaces and line ends around them. This module says which
characters are blank, how blanks are removed from the ends of a text, and how a text falls into
lines.

## Main definitions

* `Text.isBlank` — the characters with the Unicode property `White_Space`
* `Text.trim`, `Text.trimEnd` — a text without the blanks at its ends, or at its end
* `Text.lines` — the lines of a text, without their line ends
-/

namespace ModuleBuild

namespace Text

/-- The characters with the Unicode property `White_Space`. -/
def isBlank (c : Char) : Bool :=
  (0x9 ≤ c.toNat && c.toNat ≤ 0xD) || c.toNat == 0x20 || c.toNat == 0x85 || c.toNat == 0xA0 ||
    c.toNat == 0x1680 || (0x2000 ≤ c.toNat && c.toNat ≤ 0x200A) || c.toNat == 0x2028 ||
    c.toNat == 0x2029 || c.toNat == 0x202F || c.toNat == 0x205F || c.toNat == 0x3000

/-- A list of characters without the blanks at its front. -/
def dropBlanks (cs : List Char) : List Char := cs.dropWhile isBlank

/-- A list of characters without the blanks at its end. -/
def dropBlanksEnd (cs : List Char) : List Char := (dropBlanks cs.reverse).reverse

/-- A text without the blanks at its end. -/
def trimEnd (s : String) : String := String.ofList (dropBlanksEnd s.toList)

/-- A text without the blanks at either end. -/
def trim (s : String) : String := String.ofList (dropBlanksEnd (dropBlanks s.toList))

/-- Whether a text has nothing but blanks. -/
def isAllBlank (s : String) : Bool := s.toList.all isBlank

/-- A line that ended in a line feed loses one carriage return before it. -/
def dropReturn (line : List Char) : List Char :=
  if line.getLast? = some '\r' then line.dropLast else line

/-- The lines of a list of characters. A line ends at a line feed, or at a carriage return and a
line feed; a last line may lack the line feed, and then keeps a carriage return at its end. -/
def linesOf (cs : List Char) : List (List Char) :=
  match cs.splitOn '\n' with
  | [] => []
  | piece :: pieces => go piece pieces
where
  /-- The lines from the current piece on, the later pieces being given. -/
  go (piece : List Char) : List (List Char) → List (List Char)
    | [] => if piece.isEmpty then [] else [piece]
    | next :: pieces => dropReturn piece :: go next pieces

/-- The lines of a text. -/
def lines (s : String) : List String := (linesOf s.toList).map String.ofList

/-! ### What trimming leaves -/

@[simp] theorem dropBlanks_nil : dropBlanks [] = [] := rfl

theorem dropBlanks_eq_nil_iff {cs : List Char} :
    dropBlanks cs = [] ↔ ∀ c ∈ cs, isBlank c = true := by
  induction cs with
  | nil => simp
  | cons c cs ih =>
    by_cases h : isBlank c = true
    · rw [show dropBlanks (c :: cs) = dropBlanks cs from List.dropWhile_cons_of_pos h, ih]
      simp [h]
    · simp [dropBlanks, h]

theorem dropBlanksEnd_eq_nil_iff {cs : List Char} :
    dropBlanksEnd cs = [] ↔ ∀ c ∈ cs, isBlank c = true := by
  simp [dropBlanksEnd, dropBlanks_eq_nil_iff]

/-- No blank is left at the end. -/
theorem not_isBlank_of_getLast? {cs : List Char} {c : Char}
    (h : (dropBlanksEnd cs).getLast? = some c) : isBlank c = false := by
  rw [dropBlanksEnd, List.getLast?_reverse, dropBlanks] at h
  have hfirst := List.head?_dropWhile_not isBlank cs.reverse
  rwa [h] at hfirst

theorem dropBlanks_of_not_isBlank {cs : List Char} (h : ∀ c ∈ cs, isBlank c = false) :
    dropBlanks cs = cs := by
  cases cs with
  | nil => rfl
  | cons c rest => simp [dropBlanks, h c List.mem_cons_self]

/-- A line end behind a text without blanks is all that trimming removes. -/
theorem trim_append_newline {s : String} (h : ∀ c ∈ s.toList, isBlank c = false) :
    trim (s ++ "\n") = s := by
  have hfront : dropBlanks (s.toList ++ ['\n']) =
      if s.toList = [] then [] else s.toList ++ ['\n'] := by
    rcases hs : s.toList with _ | ⟨c, rest⟩
    · rfl
    · simp [dropBlanks, h c (by simp [hs])]
  have hend : dropBlanksEnd (dropBlanks (s.toList ++ ['\n'])) = s.toList := by
    rw [hfront]
    split
    · rename_i hs
      rw [hs]
      rfl
    · have hlast : dropBlanks ('\n' :: s.toList.reverse) = dropBlanks s.toList.reverse := rfl
      rw [dropBlanksEnd, List.reverse_append, List.reverse_singleton, List.singleton_append, hlast,
        dropBlanks_of_not_isBlank fun c hc => h c (List.mem_reverse.1 hc), List.reverse_reverse]
  rw [trim, String.toList_append, show "\n".toList = ['\n'] from rfl, hend, String.ofList_toList]

end Text

end ModuleBuild
