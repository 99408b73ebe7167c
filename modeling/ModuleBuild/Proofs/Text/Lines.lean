import ModuleBuild.Text.Blank

/-!
# Lines

A text falls into lines in two ways that come to the same. One may cut it at the line feeds and take
from each line but the last a carriage return at its end, as `Text.linesOf` does. Or one may first
put a line feed in the place of each carriage return and line feed, and then cut it. They differ
only in what they make of a line feed at the very end, behind which there is no line, so they agree
on a text whose end is trimmed.

## Main definitions

* `Text.unifyEnds` — a text whose lines all end in a mere line feed

## Main results

* `Text.splitOn_flatMap` — lines are read back from a text of lines
* `Text.linesOf_eq_splitOn` — the lines of a text with a trimmed end
-/

namespace ModuleBuild

/-! ### Splitting -/

/-- The parts of a list between separators hold no separator and nothing else that is new. -/
theorem mem_of_mem_splitOn {α : Type} [BEq α] [LawfulBEq α] {a x : α} {part xs : List α}
    (hpart : part ∈ xs.splitOn a) (hx : x ∈ part) : x ≠ a ∧ x ∈ xs := by
  induction xs generalizing part with
  | nil =>
    simp only [List.splitOn_nil, List.mem_singleton] at hpart
    simp [hpart] at hx
  | cons y ys ih =>
    rw [List.splitOn_cons_eq_if_modifyHead] at hpart
    split at hpart
    · rcases List.mem_cons.1 hpart with rfl | hpart
      · simp at hx
      · exact ⟨(ih hpart hx).1, List.mem_cons_of_mem _ (ih hpart hx).2⟩
    · rename_i hy
      rcases hsplit : ys.splitOn a with _ | ⟨first, rest⟩
      · exact absurd hsplit (List.splitOn_ne_nil _ _)
      rw [hsplit, List.modifyHead_cons] at hpart
      rcases List.mem_cons.1 hpart with rfl | hpart
      · rcases List.mem_cons.1 hx with rfl | hx
        · exact ⟨by simpa using hy, List.mem_cons_self⟩
        · have hfirst := ih (by simp [hsplit]) hx
          exact ⟨hfirst.1, List.mem_cons_of_mem _ hfirst.2⟩
      · have hrest := ih (by simp [hsplit, hpart]) hx
        exact ⟨hrest.1, List.mem_cons_of_mem _ hrest.2⟩

namespace Text

/-- **Lines are read back** from a text in which each is followed by a line feed. -/
theorem splitOn_flatMap {lines : List (List Char)} (h : ∀ line ∈ lines, '\n' ∉ line) :
    (lines.flatMap (· ++ ['\n'])).splitOn '\n' = lines ++ [[]] := by
  induction lines with
  | nil => rfl
  | cons line lines ih =>
    rw [List.flatMap_cons, List.append_assoc, List.singleton_append,
      List.splitOn_append_cons_self, List.splitOn_eq_singleton (h line List.mem_cons_self),
      ih fun l hl => h l (List.mem_cons_of_mem _ hl)]
    rfl

/-! ### Line ends -/

/-- The text with a line feed for each carriage return and line feed. -/
def unifyEnds : List Char → List Char
  | '\r' :: '\n' :: rest => '\n' :: unifyEnds rest
  | c :: rest => c :: unifyEnds rest
  | [] => []

variable {c : Char} {cs rest piece : List Char} {pieces : List (List Char)}

theorem exists_splitOn_eq (cs : List Char) :
    ∃ piece pieces, cs.splitOn '\n' = piece :: pieces :=
  List.exists_cons_of_ne_nil (List.splitOn_ne_nil _ _)

theorem linesOf_eq_go (h : cs.splitOn '\n' = piece :: pieces) :
    linesOf cs = linesOf.go piece pieces := by
  rw [linesOf, h]

theorem dropReturn_cons (h : c = '\r' → piece ≠ []) :
    dropReturn (c :: piece) = c :: dropReturn piece := by
  cases piece with
  | nil => simpa [dropReturn] using h
  | cons d piece =>
    unfold dropReturn
    rw [List.getLast?_cons_cons]
    split
    · rw [List.dropLast_cons_cons]
    · rfl

/-- One more character of the first piece is one more of the first line. -/
theorem go_cons (hlast : pieces = [] → piece ≠ []) (hreturn : c = '\r' → piece ≠ []) :
    linesOf.go (c :: piece) pieces = (linesOf.go piece pieces).modifyHead (c :: ·) := by
  cases pieces with
  | nil => simp [linesOf.go, hlast rfl]
  | cons next pieces => simp [linesOf.go, dropReturn_cons hreturn]

/-- A line feed ends an empty line. -/
theorem linesOf_feed (rest : List Char) : linesOf ('\n' :: rest) = [] :: linesOf rest := by
  obtain ⟨piece, pieces, hsplit⟩ := exists_splitOn_eq rest
  rw [linesOf_eq_go hsplit, linesOf, List.splitOn_cons_eq_if_modifyHead, if_pos (by rfl), hsplit]
  rfl

/-- So does a carriage return and a line feed. -/
theorem linesOf_return_feed (rest : List Char) :
    linesOf ('\r' :: '\n' :: rest) = [] :: linesOf rest := by
  obtain ⟨piece, pieces, hsplit⟩ := exists_splitOn_eq rest
  rw [linesOf_eq_go hsplit, linesOf, List.splitOn_cons_eq_if_modifyHead, if_neg (by decide),
    List.splitOn_cons_eq_if_modifyHead, if_pos (by rfl), hsplit]
  rfl

theorem linesOf_singleton (hc : c ≠ '\n') : linesOf [c] = [[c]] := by
  rw [linesOf, List.splitOn_eq_singleton (by simpa using hc.symm)]
  rfl

/-- Any other character is the next one of the first line. -/
theorem linesOf_cons (hc : c ≠ '\n') (hne : rest ≠ [])
    (hreturn : c = '\r' → rest.head? ≠ some '\n') :
    linesOf (c :: rest) = (linesOf rest).modifyHead (c :: ·) := by
  obtain ⟨piece, pieces, hsplit⟩ := exists_splitOn_eq rest
  -- the first piece is empty only if the text goes on with a line feed, and then there are others
  have hpiece : piece = [] → rest.head? = some '\n' ∧ pieces ≠ [] := by
    rintro rfl
    obtain ⟨d, rest, rfl⟩ := List.exists_cons_of_ne_nil hne
    rw [List.splitOn_cons_eq_if_modifyHead] at hsplit
    split at hsplit
    · rename_i hd
      obtain ⟨-, rfl⟩ := List.cons.inj hsplit
      exact ⟨congrArg some (eq_of_beq hd), List.splitOn_ne_nil _ _⟩
    · obtain ⟨piece, pieces, hrest⟩ := exists_splitOn_eq rest
      simp [hrest] at hsplit
  have hcons : (c :: rest).splitOn '\n' = (c :: piece) :: pieces := by
    rw [List.splitOn_cons_eq_if_modifyHead, if_neg (by simpa using hc), hsplit]
    rfl
  rw [linesOf_eq_go hcons, linesOf_eq_go hsplit, go_cons]
  · exact fun hnone hempty => (hpiece hempty).2 hnone
  · exact fun hcr hempty => hreturn hcr (hpiece hempty).1

theorem ne_nil_of_getLast? (hlast : (c :: rest).getLast? ≠ some '\n') (hc : c = '\n') :
    rest ≠ [] := by
  rintro rfl
  exact hlast (congrArg some hc)

/-- What comes later in a text has the same last character. -/
theorem getLast?_of_cons (hlast : (c :: rest).getLast? ≠ some '\n') (hne : rest ≠ []) :
    rest.getLast? ≠ some '\n' := by
  obtain ⟨d, rest, rfl⟩ := List.exists_cons_of_ne_nil hne
  rwa [List.getLast?_cons_cons] at hlast

/-- **The lines of a text whose last character is not a line feed.** -/
theorem linesOf_eq_splitOn (hne : cs ≠ []) (hlast : cs.getLast? ≠ some '\n') :
    linesOf cs = (unifyEnds cs).splitOn '\n' := by
  fun_induction unifyEnds cs with
  | case1 rest ih =>
    have hlater := getLast?_of_cons hlast (List.cons_ne_nil _ _)
    have hrest := ne_nil_of_getLast? hlater rfl
    rw [linesOf_return_feed, ih hrest (getLast?_of_cons hlater hrest),
      List.splitOn_cons_eq_if_modifyHead, if_pos (by rfl)]
  | case2 c rest hcr ih =>
    by_cases hrest : rest = []
    · subst hrest
      have hc : c ≠ '\n' := fun hc => ne_nil_of_getLast? hlast hc rfl
      rw [linesOf_singleton hc, unifyEnds, List.splitOn_eq_singleton (by simpa using hc.symm)]
    have hlines := ih hrest (getLast?_of_cons hlast hrest)
    rw [List.splitOn_cons_eq_if_modifyHead]
    by_cases hc : c = '\n'
    · rw [if_pos (beq_of_eq hc), hc, linesOf_feed, hlines]
    · rw [if_neg (by simpa using hc), linesOf_cons hc hrest ?_, hlines]
      intro hreturn hfeed
      obtain ⟨later, hrest⟩ := List.head?_eq_some_iff.1 hfeed
      exact hcr later hreturn hrest
  | case3 => exact absurd rfl hne

end Text

end ModuleBuild
