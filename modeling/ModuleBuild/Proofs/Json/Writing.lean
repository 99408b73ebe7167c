import ModuleBuild.Proofs.Json.Grammar

/-!
# Written values are spelled

A value is a document in both layouts, on one line and on many. So what a reader makes of the
documents of a value it makes of the written value, too. The layouts differ in the blanks that stand
around the parts of a value; apart from that they are put together in the same way.

## Main definitions

* `Json.tree` — a value as something that a document spells
* `Json.IsProper` — the numbers in a value are numbers

## Main results

* `Json.spells_quote` — a quoted text spells the text
* `Json.document_compact`, `Json.document_pretty` — a written value is a document of it
-/

namespace ModuleBuild

namespace Json

/-! ### Texts -/

/-- A quoted character is a letter, and spells the character. -/
theorem exists_letter (c : Char) : ∃ letter, SpellsLetter letter (quoteChar c) ∧
    ∀ letters, Letter.read? (letter :: letters) = (Letter.read? letters).map (c :: ·) := by
  have hescaped : ∀ e, (e, c) ∈ escapes → quoteChar c = ['\\', e] →
      ∃ letter, SpellsLetter letter (quoteChar c) ∧
        ∀ letters, Letter.read? (letter :: letters) = (Letter.read? letters).map (c :: ·) :=
    fun e he hquote => ⟨.char c, hquote ▸ .escaped he, fun _ => rfl⟩
  by_cases hquote : c = '"'
  · subst hquote
    exact hescaped '"' (by decide) rfl
  by_cases hback : c = '\\'
  · subst hback
    exact hescaped '\\' (by decide) rfl
  by_cases hb : c = '\x08'
  · subst hb
    exact hescaped 'b' (by decide) rfl
  by_cases ht : c = '\t'
  · subst ht
    exact hescaped 't' (by decide) rfl
  by_cases hn : c = '\n'
  · subst hn
    exact hescaped 'n' (by decide) rfl
  by_cases hf : c = '\x0c'
  · subst hf
    exact hescaped 'f' (by decide) rfl
  by_cases hr : c = '\r'
  · subst hr
    exact hescaped 'r' (by decide) rfl
  unfold quoteChar
  rw [if_neg hquote, if_neg hback, if_neg hb, if_neg ht, if_neg hn, if_neg hf, if_neg hr]
  split
  · -- other controls are written in four digits, the first two of them zeros
    rename_i hcontrol
    have hzero : Hex.value? '0' = some 0 := by decide
    have hletter := SpellsLetter.code hzero hzero
      (Hex.value?_digit (show c.toNat / 16 < 16 by omega))
      (Hex.value?_digit (show c.toNat % 16 < 16 by omega))
    have hcode : 4096 * 0 + 256 * 0 + 16 * (c.toNat / 16) + c.toNat % 16 = c.toNat := by omega
    rw [hcode] at hletter
    refine ⟨_, hletter, fun letters => ?_⟩
    have hhigh : isHighHalf c.toNat = false := by
      simp only [isHighHalf, Bool.and_eq_false_iff, decide_eq_false_iff_not]
      omega
    have hlow : isLowHalf c.toNat = false := by
      simp only [isLowHalf, Bool.and_eq_false_iff, decide_eq_false_iff_not]
      omega
    rw [Letter.read?_single hhigh hlow, Char.ofNat_toNat]
  · rename_i hcontrol
    exact ⟨.char c, .plain hquote hback (Nat.not_lt.1 hcontrol), fun _ => rfl⟩

theorem exists_letters (cs : List Char) :
    ∃ letters, SpellsLetters letters (cs.flatMap quoteChar) ∧ Letter.read? letters = some cs := by
  induction cs with
  | nil => exact ⟨[], .nil, rfl⟩
  | cons c cs ih =>
    obtain ⟨letters, hletters, hread⟩ := ih
    obtain ⟨letter, hletter, hcons⟩ := exists_letter c
    refine ⟨letter :: letters, ?_, ?_⟩
    · rw [List.flatMap_cons]
      exact .cons hletter hletters
    · rw [hcons, hread, Option.map_some]

/-- **A quoted text** spells the text. -/
theorem spells_quote (s : String) : SpellsText (some s) (quote s) := by
  obtain ⟨letters, hletters, hread⟩ := exists_letters s.toList
  have hspells := SpellsText.quoted hletters
  rw [hread, Option.map_some, String.ofList_toList] at hspells
  exact hspells

/-! ### Numbers -/

/-- The digits of a number are digits, and in order. -/
structure Numeral.IsProper (n : Numeral) : Prop where
  /-- Those before the point. -/
  whole : IsWhole n.whole
  /-- Those behind the point. -/
  fraction : ∀ digits ∈ n.fraction, IsDigits digits
  /-- Those of the exponent. -/
  exponent : ∀ e ∈ n.exponent, IsDigits e.2

theorem spellsNumeral_text {n : Numeral} (h : n.IsProper) : SpellsNumeral n n.text := by
  refine ⟨h.whole, n.fraction.elim [] ('.' :: ·),
    n.exponent.elim [] fun e => 'e' :: ((if e.1 then ['-'] else []) ++ e.2), ?_, ?_, ?_⟩
  · rcases hf : n.fraction with _ | digits
    · exact .absent
    · exact .present (h.fraction digits hf)
  · rcases he : n.exponent with _ | ⟨down, digits⟩
    · exact .absent
    · refine .present (.inl rfl) ?_ (h.exponent _ he)
      cases down
      · exact .absent
      · exact .minus
  · rw [Numeral.text]
    rcases n.exponent with _ | ⟨_ | _, digits⟩ <;> simp

/-! ### Values -/

mutual

/-- A value as something that a document spells. -/
def tree : Json → Tree
  | null => .null
  | bool b => .bool b
  | number n => .number n
  | text s => .text (some s)
  | list items => .list (itemTrees items)
  | object fields => .object (fieldTrees fields)

/-- The items of a list. -/
def itemTrees : List Json → List Tree
  | [] => []
  | v :: rest => v.tree :: itemTrees rest

/-- The fields of an object. -/
def fieldTrees : List (String × Json) → List (Option String × Tree)
  | [] => []
  | (k, v) :: rest => (some k, v.tree) :: fieldTrees rest

end

mutual

/-- The numbers in a value are numbers. -/
def IsProper : Json → Prop
  | number n => n.IsProper
  | list items => AreProper items
  | object fields => AreProperFields fields
  | _ => True

/-- Those in the items of a list. -/
def AreProper : List Json → Prop
  | [] => True
  | v :: rest => v.IsProper ∧ AreProper rest

/-- Those in the fields of an object. -/
def AreProperFields : List (String × Json) → Prop
  | [] => True
  | (_, v) :: rest => v.IsProper ∧ AreProperFields rest

end

section

variable {front gap back : List Char}

/-- The items of a list, after a comma. -/
theorem Spells.moreItems_of_items {v : Tree} {l : List Tree} {cs : List Char}
    (h : Spells (.items (v :: l)) cs) : Spells (.moreItems (v :: l)) (',' :: cs) := by
  cases h with
  | items h hmore => exact .moreItems h hmore

/-- The fields of an object, after a comma. -/
theorem Spells.moreFields_of_fields {f : Option String × Tree} {l : List (Option String × Tree)}
    {cs : List Char} (h : Spells (.fields (f :: l)) cs) :
    Spells (.moreFields (f :: l)) (',' :: cs) := by
  cases h with
  | fields h hmore => exact .moreFields h hmore

/-- Items with commas between them, in any layout. -/
theorem spells_items (spell : Json → List Char) (join : List Json → List Char)
    (hone : ∀ v, join [v] = front ++ spell v)
    (hmore : ∀ v w l, join (v :: w :: l) = front ++ spell v ++ ',' :: join (w :: l))
    (hfront : IsBlanks front) (hback : IsBlanks back) :
    ∀ (l : List Json) (v : Json), (∀ w ∈ v :: l, Spells (.value w.tree) (spell w)) →
      Spells (.items (itemTrees (v :: l))) (join (v :: l) ++ back) := by
  intro l
  induction l with
  | nil =>
    intro v hspell
    rw [hone, List.append_assoc, ← List.append_nil (front ++ _)]
    exact .items (.element hfront (hspell v List.mem_cons_self) hback) .noMoreItems
  | cons w l ih =>
    intro v hspell
    have hv := Spells.element hfront (hspell v List.mem_cons_self) isBlanks_nil
    have hrest := (ih w fun u hu => hspell u (List.mem_cons_of_mem _ hu)).moreItems_of_items
    rw [hmore, List.append_assoc, List.cons_append]
    rw [List.append_nil] at hv
    exact .items hv hrest

/-- Fields with commas between them, in any layout. -/
theorem spells_fields (spell : Json → List Char) (join : List (String × Json) → List Char)
    (hone : ∀ k v, join [(k, v)] = front ++ quote k ++ ':' :: (gap ++ spell v))
    (hmore : ∀ k v f l, join ((k, v) :: f :: l) =
      front ++ quote k ++ ':' :: (gap ++ spell v) ++ ',' :: join (f :: l))
    (hfront : IsBlanks front) (hgap : IsBlanks gap) (hback : IsBlanks back) :
    ∀ (l : List (String × Json)) (f : String × Json),
      (∀ g ∈ f :: l, Spells (.value g.2.tree) (spell g.2)) →
      Spells (.fields (fieldTrees (f :: l))) (join (f :: l) ++ back) := by
  have hmember : ∀ (k : String) {v : Json} {back : List Char}, IsBlanks back →
      Spells (.value (tree v)) (spell v) → Spells (.member (some k, tree v))
        (front ++ (quote k ++ ([] ++ ':' :: (gap ++ (spell v ++ back))))) :=
    fun k _ _ hback hv => .member hfront (spells_quote k) isBlanks_nil (.element hgap hv hback)
  intro l
  induction l with
  | nil =>
    rintro ⟨k, v⟩ hspell
    have hv := hmember k hback (hspell (k, v) List.mem_cons_self)
    have hrest := Spells.fields hv .noMoreFields
    rw [hone]
    simpa [fieldTrees] using hrest
  | cons f l ih =>
    rintro ⟨k, v⟩ hspell
    have hv := hmember k isBlanks_nil (hspell (k, v) List.mem_cons_self)
    have hrest := (ih f fun u hu => hspell u (List.mem_cons_of_mem _ hu)).moreFields_of_fields
    rw [hmore]
    simpa [fieldTrees] using Spells.fields hv hrest

end

/-- What holds of a value if it holds of all values right inside of it, holds of all values. -/
@[induction_eliminator]
theorem induction {motive : Json → Prop} (null : motive .null) (bool : ∀ b, motive (.bool b))
    (number : ∀ n, motive (.number n)) (text : ∀ s, motive (.text s))
    (list : ∀ items, (∀ v ∈ items, motive v) → motive (.list items))
    (object : ∀ fields, (∀ f ∈ fields, motive f.2) → motive (.object fields)) :
    ∀ v, motive v
  | .null => null
  | .bool b => bool b
  | .number n => number n
  | .text s => text s
  | .list items => list items fun v _ => induction null bool number text list object v
  | .object fields => object fields fun f hf =>
    have : sizeOf f.2 < sizeOf fields := by
      have := List.sizeOf_lt_of_mem hf
      cases f
      simp at this ⊢
      omega
    induction null bool number text list object f.2

theorem itemTrees_eq_map (l : List Json) : itemTrees l = l.map tree := by
  induction l with
  | nil => rfl
  | cons v l ih => rw [itemTrees, ih, List.map_cons]

theorem fieldTrees_eq_map (l : List (String × Json)) :
    fieldTrees l = l.map fun f => (some f.1, f.2.tree) := by
  induction l with
  | nil => rfl
  | cons f l ih =>
    obtain ⟨k, v⟩ := f
    rw [fieldTrees, ih, List.map_cons]

theorem areProper_iff {l : List Json} : AreProper l ↔ ∀ v ∈ l, v.IsProper := by
  induction l with
  | nil => simp [AreProper]
  | cons v l ih => simp [AreProper, ih]

theorem areProperFields_iff {l : List (String × Json)} :
    AreProperFields l ↔ ∀ f ∈ l, f.2.IsProper := by
  induction l with
  | nil => simp [AreProperFields]
  | cons f l ih => simp [AreProperFields, ih]

theorem isBlanks_newLine (level : Nat) : IsBlanks (newLine level) := by
  intro c hc
  rcases List.mem_cons.1 hc with rfl | hc
  · exact .inr (.inr (.inl rfl))
  · exact .inl (List.eq_of_mem_replicate hc)

/-- A value on one line. -/
theorem spells_compactChars (v : Json) (h : v.IsProper) :
    Spells (.value v.tree) (compactChars v) := by
  induction v with
  | null => exact .null
  | bool b =>
    cases b
    · exact .no
    · exact .yes
  | number n => exact .number (spellsNumeral_text h)
  | text s => exact .text (spells_quote s)
  | list items ih =>
    have hitems := areProper_iff.1 h
    rw [compactChars]
    refine .list ?_
    rcases items with _ | ⟨v, l⟩
    · exact .noItems isBlanks_nil
    · have hspells := spells_items compactChars compactItems
        (fun v => by rw [compactItems, List.nil_append])
        (fun v w l => by rw [compactItems, List.nil_append]; simp)
        isBlanks_nil isBlanks_nil l v fun w hw => ih w hw (hitems w hw)
      rwa [List.append_nil] at hspells
  | object fields ih =>
    have hfields := areProperFields_iff.1 h
    rw [compactChars]
    refine .object ?_
    rcases fields with _ | ⟨f, l⟩
    · exact .noFields isBlanks_nil
    · have hspells := spells_fields compactChars compactFields
        (fun k v => by rw [compactFields, List.nil_append, List.nil_append])
        (fun k v f l => by rw [compactFields, List.nil_append, List.nil_append]; simp)
        isBlanks_nil isBlanks_nil isBlanks_nil l f fun g hg => ih g hg (hfields g hg)
      rwa [List.append_nil] at hspells

/-- A value with its parts on lines of their own. -/
theorem spells_prettyChars (v : Json) (h : v.IsProper) :
    ∀ level, Spells (.value v.tree) (prettyChars level v) := by
  induction v with
  | null => intro level; exact .null
  | bool b =>
    intro level
    cases b
    · exact .no
    · exact .yes
  | number n => intro level; exact .number (spellsNumeral_text h)
  | text s => intro level; exact .text (spells_quote s)
  | list items ih =>
    intro level
    have hitems := areProper_iff.1 h
    rcases items with _ | ⟨v, l⟩
    · exact .list (.noItems isBlanks_nil)
    · have hspells := spells_items (prettyChars (level + 1)) (prettyItems (level + 1))
        (fun v => by rw [prettyItems])
        (fun v w l => by rw [prettyItems]; simp)
        (isBlanks_newLine (level + 1)) (isBlanks_newLine level) l v
        fun w hw => ih w hw (hitems w hw) (level + 1)
      rw [prettyChars]
      · simpa [tree] using Spells.list hspells
      · simp
  | object fields ih =>
    intro level
    have hfields := areProperFields_iff.1 h
    rcases fields with _ | ⟨f, l⟩
    · exact .object (.noFields isBlanks_nil)
    · have hspells := spells_fields (prettyChars (level + 1)) (prettyFields (level + 1))
        (fun k v => by rw [prettyFields]; simp)
        (fun k v f l => by rw [prettyFields] <;> simp)
        (isBlanks_newLine (level + 1)) isBlanks_blank (isBlanks_newLine level) l f
        fun g hg => ih g hg (hfields g hg) (level + 1)
      rw [prettyChars]
      · simpa [tree] using Spells.object hspells
      · simp

/-- **A value on one line** is a document of it. -/
theorem document_compact {v : Json} (h : v.IsProper) : Document v.tree v.compact := by
  have hspells := Spells.element isBlanks_nil (spells_compactChars v h) isBlanks_nil
  rw [List.nil_append, List.append_nil] at hspells
  rw [Document, compact, String.toList_ofList]
  exact hspells

/-- **A value on many lines** is a document of it. -/
theorem document_pretty {v : Json} (h : v.IsProper) : Document v.tree v.pretty := by
  have hspells := Spells.element isBlanks_nil (spells_prettyChars v h 0) isBlanks_nil
  rw [List.nil_append, List.append_nil] at hspells
  rw [Document, pretty, String.toList_ofList]
  exact hspells

end Json

end ModuleBuild
