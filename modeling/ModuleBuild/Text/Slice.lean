import ModuleBuild.Text.Utf8

/-!
# Parts of a text between byte offsets

A text is kept as bytes, so a part of it can be named by the offsets of the bytes between which it
lies. A character may have several bytes, and inside of it a text cannot be cut: there is no part
then.

## Main definitions

* `Text.cut?` — the characters before and behind a byte offset
* `Text.slice?` — the part of a text between two byte offsets
* `Text.byteCount` — how many bytes characters have

## Main results

* `Text.cut?_eq_some_iff` — what lies before a byte offset has as many bytes
* `Text.cut?_of_ascii` — between characters of one byte a text can be cut anywhere
-/

namespace ModuleBuild

namespace Text

/-- The characters before and behind a byte offset, unless it is inside of a character or behind the
end. -/
def cut? : Nat → List Char → Option (List Char × List Char)
  | 0, cs => some ([], cs)
  | _ + 1, [] => none
  | n + 1, c :: cs =>
    if c.utf8Size ≤ n + 1 then
      (cut? (n + 1 - c.utf8Size) cs).map fun p => (c :: p.1, p.2)
    else none

/-- The part of a text between two byte offsets, if the text can be cut at both of them. -/
def slice? (s : String) (first last : Nat) : Option String :=
  if last < first then none
  else
    (cut? first s.toList).bind fun p =>
      (cut? (last - first) p.2).map fun q => String.ofList q.1

/-- How many bytes characters have. -/
def byteCount : List Char → Nat
  | [] => 0
  | c :: cs => c.utf8Size + byteCount cs

variable {cs front back : List Char} {n : Nat}

theorem byteCount_of_ascii (h : ∀ c ∈ cs, c.utf8Size = 1) : byteCount cs = cs.length := by
  induction cs with
  | nil => rfl
  | cons c cs ih =>
    rw [byteCount, h c List.mem_cons_self, ih fun d hd => h d (List.mem_cons_of_mem _ hd),
      List.length_cons, Nat.add_comm]

/-- **What lies before a byte offset** has as many bytes. -/
theorem cut?_eq_some_iff :
    cut? n cs = some (front, back) ↔ front ++ back = cs ∧ byteCount front = n := by
  induction cs generalizing n front back with
  | nil =>
    cases n with
    | zero =>
      simp only [cut?, Option.some.injEq, Prod.mk.injEq, List.append_eq_nil_iff]
      constructor
      · rintro ⟨rfl, rfl⟩
        exact ⟨⟨rfl, rfl⟩, rfl⟩
      · rintro ⟨⟨rfl, rfl⟩, -⟩
        exact ⟨rfl, rfl⟩
    | succ n =>
      simp only [cut?, reduceCtorEq, List.append_eq_nil_iff, false_iff, not_and]
      rintro ⟨rfl, rfl⟩
      simp [byteCount]
  | cons c cs ih =>
    have hsize : 0 < c.utf8Size := c.utf8Size_pos
    cases n with
    | zero =>
      simp only [cut?, Option.some.injEq, Prod.mk.injEq]
      constructor
      · rintro ⟨rfl, rfl⟩
        exact ⟨rfl, rfl⟩
      · rintro ⟨happend, hsum⟩
        rcases front with _ | ⟨d, front⟩
        · exact ⟨rfl, happend.symm⟩
        · have := d.utf8Size_pos
          rw [byteCount] at hsum
          omega
    | succ n =>
      simp only [cut?, Option.ite_none_right_eq_some, Option.map_eq_some_iff, Prod.exists,
        Prod.mk.injEq]
      constructor
      · rintro ⟨hle, front', back', hcut, rfl, rfl⟩
        obtain ⟨rfl, hsum⟩ := ih.1 hcut
        refine ⟨rfl, ?_⟩
        rw [byteCount]
        omega
      · rintro ⟨happend, hsum⟩
        rcases front with _ | ⟨d, front⟩
        · cases hsum
        · obtain ⟨rfl, rfl⟩ := List.cons.inj happend
          rw [byteCount] at hsum
          exact ⟨by omega, front, back, ih.2 ⟨rfl, by omega⟩, rfl, rfl⟩

/-- **Between characters of one byte** a text can be cut anywhere. -/
theorem cut?_of_ascii (h : ∀ c ∈ cs, c.utf8Size = 1) (hn : n ≤ cs.length) :
    cut? n cs = some (cs.take n, cs.drop n) := by
  refine cut?_eq_some_iff.2 ⟨List.take_append_drop n cs, ?_⟩
  rw [byteCount_of_ascii fun c hc => h c (List.mem_of_mem_take hc), List.length_take,
    Nat.min_eq_left hn]

/-- The part between two offsets, where every character has one byte. -/
theorem slice?_of_ascii {s : String} {first last : Nat} (h : ∀ c ∈ s.toList, c.utf8Size = 1)
    (hfirst : first ≤ last) (hlast : last ≤ s.toList.length) :
    slice? s first last = some (String.ofList ((s.toList.drop first).take (last - first))) := by
  have hbehind : ∀ c ∈ s.toList.drop first, c.utf8Size = 1 :=
    fun c hc => h c (List.mem_of_mem_drop hc)
  rw [slice?, if_neg (Nat.not_lt.2 hfirst), cut?_of_ascii h (Nat.le_trans hfirst hlast),
    Option.bind_some, cut?_of_ascii hbehind (by rw [List.length_drop]; omega), Option.map_some]

end Text

end ModuleBuild
