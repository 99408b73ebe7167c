import ModuleBuild.Proofs.Json.Scanning

/-!
# Reading the tokens of JSON values

What the readers make of tokens that are those of a value. A value of no interest is passed over
whatever it is, a list is read item by item, and an object field by field. An error comes from the
first token that does not fit, and what stands behind it does not matter.

## Main definitions

* `Json.Tree.first` — the first token of a value
* `Json.resume` — what is left to do after a value has been passed over

## Main results

* `Json.skip_words` — every value is passed over
* `Json.readItems_words`, `Json.readTexts_words` — a list is read item by item
* `Json.readListOf_words` — and so is a list of values that are more than one token
* `Json.readObject_words`, `Json.readObject_map` — an object is read field by field
-/

namespace ModuleBuild

namespace Json

variable {v : Tree} {rest : List Token}

/-! ### First tokens -/

/-- The first token of a value. -/
def Tree.first : Tree → Token
  | .null => .null
  | .bool b => .bool b
  | .number n => .number n
  | .text s => textToken s
  | .list _ => .openBracket
  | .object _ => .openBrace

theorem Tree.exists_words_eq (v : Tree) : ∃ ts, v.words = v.first :: ts := by
  cases v <;> simp [Tree.words, Tree.first]

theorem Tree.first_ne (v : Tree) :
    v.first ≠ .closeBracket ∧ v.first ≠ .closeBrace ∧ v.first ≠ .comma ∧ v.first ≠ .colon := by
  cases v with
  | text s => cases s <;> simp [Tree.first, textToken]
  | _ => simp [Tree.first]

/-! ### Values that are passed over -/

/-- What is left to do after a value has been passed over inside of something. -/
def resume : List Enclosing → List Token → Except Error (List Token)
  | [], rest => .ok rest
  | outer, rest => skipFrom (.next, outer) rest

/-- The last token of a value. -/
theorem skipFrom_last {awaited : Skipping} {t : Token} {outer : List Enclosing}
    (h : skipToken awaited t = .ok (.next, outer)) :
    skipFrom awaited (t :: rest) = resume outer rest := by
  rw [skipFrom, h]
  cases outer <;> rfl

/-- Any other token of a value. -/
theorem skipFrom_cons {awaited : Skipping} {t : Token} (awaited' : Skipping)
    (h : skipToken awaited t = .ok awaited') (hnext : awaited'.2 ≠ []) :
    skipFrom awaited (t :: rest) = skipFrom awaited' rest := by
  rw [skipFrom, h]
  split
  · rename_i heq
    simp at heq
  · rename_i heq
    obtain rfl := Except.ok.inj heq
    exact absurd rfl hnext
  · rename_i heq
    obtain rfl := Except.ok.inj heq
    rfl

/-- A value is passed over, whatever it is inside of. -/
def Skipped (v : Tree) : Prop :=
  ∀ outer rest, skipFrom (.value, outer) (v.words ++ rest) = resume outer rest

/-- The items of a list after the first. -/
theorem skipFrom_moreItems {items : List Tree} (h : ∀ v ∈ items, Skipped v)
    (outer : List Enclosing) (rest : List Token) :
    skipFrom (.next, .list :: outer) (moreItemWords items ++ .closeBracket :: rest) =
      resume outer rest := by
  induction items with
  | nil => exact skipFrom_last rfl
  | cons v items ih =>
    rw [moreItemWords, List.cons_append, List.append_assoc,
      skipFrom_cons (.value, .list :: outer) rfl (by simp),
      h v List.mem_cons_self]
    exact ih fun w hw => h w (List.mem_cons_of_mem _ hw)

/-- The items of a list. -/
theorem skipFrom_items {items : List Tree} (h : ∀ v ∈ items, Skipped v)
    (outer : List Enclosing) (rest : List Token) :
    skipFrom (.firstItem, .list :: outer) (itemWords items ++ .closeBracket :: rest) =
      resume outer rest := by
  cases items with
  | nil => exact skipFrom_last rfl
  | cons v items =>
    have hfirst : ∀ rest, skipFrom (.firstItem, .list :: outer) (v.words ++ rest) =
        skipFrom (.value, .list :: outer) (v.words ++ rest) := by
      intro rest
      obtain ⟨ts, hts⟩ := v.exists_words_eq
      have htoken : skipToken (.firstItem, .list :: outer) v.first =
          skipToken (.value, .list :: outer) v.first := by
        cases v with
        | text s => cases s <;> rfl
        | _ => rfl
      rw [hts, List.cons_append, skipFrom, skipFrom, htoken]
    rw [itemWords, List.append_assoc, hfirst, h v List.mem_cons_self]
    exact skipFrom_moreItems (fun w hw => h w (List.mem_cons_of_mem _ hw)) outer rest

/-- A key is passed over. -/
theorem skipToken_key {awaited : Awaited} (h : awaited = .firstKey ∨ awaited = .key)
    (outer : List Enclosing) (k : Option String) :
    skipToken (awaited, outer) (textToken k) = .ok (.colon, outer) := by
  rcases h with rfl | rfl <;> cases k <;> rfl

/-- The fields of an object after the first. -/
theorem skipFrom_moreFields {fields : List (Option String × Tree)}
    (h : ∀ f ∈ fields, Skipped f.2) (outer : List Enclosing) (rest : List Token) :
    skipFrom (.next, .object :: outer) (moreFieldWords fields ++ .closeBrace :: rest) =
      resume outer rest := by
  induction fields with
  | nil => exact skipFrom_last rfl
  | cons f fields ih =>
    obtain ⟨k, v⟩ := f
    simp only [moreFieldWords, List.cons_append, List.append_assoc]
    rw [skipFrom_cons (.key, .object :: outer) rfl (by simp),
      skipFrom_cons _ (skipToken_key (.inr rfl) (.object :: outer) k) (by simp),
      skipFrom_cons (.value, .object :: outer) rfl (by simp),
      h (k, v) List.mem_cons_self]
    exact ih fun f hf => h f (List.mem_cons_of_mem _ hf)

/-- The fields of an object. -/
theorem skipFrom_fields {fields : List (Option String × Tree)}
    (h : ∀ f ∈ fields, Skipped f.2) (outer : List Enclosing) (rest : List Token) :
    skipFrom (.firstKey, .object :: outer) (fieldWords fields ++ .closeBrace :: rest) =
      resume outer rest := by
  cases fields with
  | nil => exact skipFrom_last rfl
  | cons f fields =>
    obtain ⟨k, v⟩ := f
    simp only [fieldWords, List.cons_append, List.append_assoc]
    rw [skipFrom_cons _ (skipToken_key (.inl rfl) (.object :: outer) k) (by simp),
      skipFrom_cons (.value, .object :: outer) rfl (by simp),
      h (k, v) List.mem_cons_self]
    exact skipFrom_moreFields (fun f hf => h f (List.mem_cons_of_mem _ hf)) outer rest

/-- **Every value is passed over.** -/
theorem skipped (v : Tree) : Skipped v := by
  induction v with
  | null => intro outer rest; exact skipFrom_last rfl
  | bool b => intro outer rest; exact skipFrom_last rfl
  | number n => intro outer rest; exact skipFrom_last rfl
  | text s =>
    intro outer rest
    refine skipFrom_last ?_
    cases s <;> rfl
  | list items ih =>
    intro outer rest
    rw [Tree.words, List.cons_append, List.append_assoc, List.singleton_append,
      skipFrom_cons (.firstItem, .list :: outer) rfl (by simp)]
    exact skipFrom_items ih outer rest
  | object fields ih =>
    intro outer rest
    rw [Tree.words, List.cons_append, List.append_assoc, List.singleton_append,
      skipFrom_cons (.firstKey, .object :: outer) rfl (by simp)]
    exact skipFrom_fields ih outer rest

theorem skip_words (v : Tree) (rest : List Token) : skip (v.words ++ rest) = .ok rest :=
  skipped v [] rest

/-- A field that is of no interest is passed over. -/
theorem skipField_words {σ : Type} (s : σ) (v : Tree) (rest : List Token) :
    skipField s (.colon :: (v.words ++ rest)) = .ok (s, rest) := by
  simp [skipField, afterColon, skip_words, bind, Except.bind, pure, Except.pure]

/-! ### Lists of single tokens -/

/-- A reader of single tokens takes one from a value that is more than one token only to refuse
it. -/
def IsSingle {α : Type} (item : Token → Except Error α) (v : Tree) : Prop :=
  ∀ a, item v.first = .ok a → v.words = [v.first]

/-- One item of a list, and then the others. -/
theorem readItem_words {α : Type} {item : Token → Except Error α} {v : Tree} {ts more : List Token}
    {others : Except Error (List α)} (hv : IsSingle item v) (hts : v.words = v.first :: ts)
    (hmore : readMoreItems item more = others.map (·, rest)) :
    (do
      let a ← item v.first
      let (as, rest) ← readMoreItems item (ts ++ more)
      return (a :: as, rest)) =
    (do
      let a ← item v.first
      let as ← others
      return a :: as).map (·, rest) := by
  rcases hitem : item v.first with e | a
  · rfl
  · obtain rfl : ts = [] := by
      have hsingle := hv a hitem
      rw [hts] at hsingle
      exact (List.cons.inj hsingle).2
    rw [List.nil_append, hmore]
    rcases others with e | as <;> rfl

/-- The items of a list after the first. -/
theorem readMoreItems_words {α : Type} {item : Token → Except Error α} {items : List Tree}
    (h : ∀ v ∈ items, IsSingle item v) (rest : List Token) :
    readMoreItems item (moreItemWords items ++ .closeBracket :: rest) =
      (items.mapM fun v => item v.first).map (·, rest) := by
  induction items with
  | nil => rfl
  | cons v items ih =>
    obtain ⟨ts, hts⟩ := v.exists_words_eq
    have hmore := ih fun w hw => h w (List.mem_cons_of_mem _ hw)
    rw [moreItemWords, List.cons_append, List.append_assoc, hts, List.cons_append, readMoreItems,
      List.mapM_cons]
    · exact readItem_words (h v List.mem_cons_self) hts hmore
    · exact v.first_ne.1

/-- **A list is read item by item.** -/
theorem readItems_words {α : Type} {item : Token → Except Error α} {items : List Tree}
    (h : ∀ v ∈ items, IsSingle item v) (rest : List Token) :
    readItems item (itemWords items ++ .closeBracket :: rest) =
      (items.mapM fun v => item v.first).map (·, rest) := by
  cases items with
  | nil => rfl
  | cons v items =>
    obtain ⟨ts, hts⟩ := v.exists_words_eq
    have hmore := readMoreItems_words (fun w hw => h w (List.mem_cons_of_mem _ hw)) rest
    rw [itemWords, List.append_assoc, hts, List.cons_append, readItems, List.mapM_cons]
    · exact readItem_words (h v List.mem_cons_self) hts hmore
    · exact v.first_ne.1

/-! ### Lists of texts -/

/-- A text is taken from a text only. -/
theorem textOf_first_eq_ok {reason s : String} :
    textOf reason v.first = .ok s ↔ v = .text (some s) := by
  cases v with
  | text s' => cases s' <;> simp [Tree.first, textToken, textOf]
  | _ => simp [Tree.first, textOf]

theorem isSingle_textOf (reason : String) (v : Tree) : IsSingle (textOf reason) v := by
  intro s hs
  obtain rfl := textOf_first_eq_ok.1 hs
  rfl

theorem mapM_textOf_eq_ok {reason : String} {items : List Tree} {texts : List String} :
    (items.mapM fun v => textOf reason v.first) = .ok texts ↔
      items = texts.map fun s => .text (some s) := by
  induction items generalizing texts with
  | nil => cases texts <;> simp [pure, Except.pure]
  | cons v items ih =>
    rw [List.mapM_cons]
    constructor
    · intro h
      rcases hv : textOf reason v.first with e | s
      · simp [hv, bind, Except.bind] at h
      · rcases hitems : items.mapM fun v => textOf reason v.first with e | texts'
        · simp [hv, hitems, bind, Except.bind] at h
        · obtain rfl : s :: texts' = texts := by
            simpa [hv, hitems, bind, Except.bind, pure, Except.pure] using h
          rw [textOf_first_eq_ok.1 hv, ih.1 hitems, List.map_cons]
    · intro h
      rcases texts with _ | ⟨s, texts⟩
      · simp at h
      · obtain ⟨rfl, hitems⟩ := List.cons.inj (h.trans (List.map_cons ..))
        simp [textOf_first_eq_ok.2 rfl, ih.2 hitems, bind, Except.bind, pure, Except.pure]

/-- **A list of texts** is read text by text. -/
theorem readTexts_words (expected : String) (texts : List String) (rest : List Token) :
    readTexts expected ((Tree.list (texts.map fun s => .text (some s))).words ++ rest) =
      .ok (texts, rest) := by
  rw [Tree.words, List.cons_append, List.append_assoc, List.singleton_append, readTexts,
    readItems_words fun v _ => isSingle_textOf "a string" v, mapM_textOf_eq_ok.2 rfl]
  rfl

/-! ### Lists of values -/

/-- The first element of a list begins right after the bracket. -/
theorem nextElement_first (v : Tree) (rest : List Token) :
    nextElement true (v.words ++ rest) = .ok (some (v.words ++ rest)) := by
  cases v with
  | text s => cases s <;> rfl
  | _ => rfl

/-- Any other element begins after a comma. -/
theorem nextElement_more (v : Tree) (rest : List Token) :
    nextElement false (.comma :: (v.words ++ rest)) = .ok (some (v.words ++ rest)) := by
  cases v with
  | text s => cases s <;> rfl
  | _ => rfl

section

variable {α : Type} {read : List Token → Reading α} {spelled : α → Tree} {l : List α}

/-- The elements of a list after the first. -/
theorem readElements_moreWords
    (h : ∀ a ∈ l, ∀ rest, read ((spelled a).words ++ rest) = .ok (a, rest)) (rest : List Token) :
    ∀ fuel, l.length < fuel →
      readElements read fuel false (moreItemWords (l.map spelled) ++ .closeBracket :: rest) =
        .ok (l, rest) := by
  induction l with
  | nil =>
    intro fuel hfuel
    obtain ⟨fuel, rfl⟩ := Nat.exists_eq_add_one_of_ne_zero (Nat.ne_of_gt hfuel)
    rfl
  | cons a l ih =>
    intro fuel hfuel
    obtain ⟨fuel, rfl⟩ := Nat.exists_eq_add_one_of_ne_zero (Nat.ne_of_gt (Nat.zero_lt_of_lt hfuel))
    have hmore := ih (fun b hb => h b (List.mem_cons_of_mem _ hb)) fuel (by simpa using hfuel)
    rw [List.map_cons, moreItemWords, List.cons_append, List.append_assoc, readElements,
      nextElement_more]
    simp only [bind, Except.bind, pure, Except.pure]
    rw [h a List.mem_cons_self]
    dsimp only
    rw [hmore]

/-- A list has no more elements than tokens. -/
theorem length_le_moreItemWords (items : List Tree) :
    items.length ≤ (moreItemWords items).length := by
  induction items with
  | nil => exact Nat.le_refl 0
  | cons v items ih =>
    simp only [moreItemWords, List.length_cons, List.length_append]
    omega

/-- **A list is read element by element.** -/
theorem readListOf_words (expected : String)
    (h : ∀ a ∈ l, ∀ rest, read ((spelled a).words ++ rest) = .ok (a, rest)) (rest : List Token) :
    readListOf expected read ((Tree.list (l.map spelled)).words ++ rest) = .ok (l, rest) := by
  rw [Tree.words, List.cons_append, List.append_assoc, List.singleton_append, readListOf]
  cases l with
  | nil => rfl
  | cons a l =>
    have hlength := length_le_moreItemWords (l.map spelled)
    rw [List.length_map] at hlength
    have hmore := readElements_moreWords (fun b hb => h b (List.mem_cons_of_mem _ hb)) rest
    rw [List.map_cons, itemWords, List.append_assoc, readElements, nextElement_first]
    simp only [bind, Except.bind, pure, Except.pure]
    rw [h a List.mem_cons_self]
    dsimp only
    rw [hmore _ (by simp only [List.length_append, List.length_cons]; omega)]

end

/-- The first element of a list that stands for an object. -/
theorem readElement_words {α : Type} (absent : Except Error α) (read : List Token → Reading α)
    (v : Tree) (rest : List Token) :
    readElement true absent read (v.words ++ rest) = read (v.words ++ rest) := by
  rw [readElement, nextElement_first]
  rfl

/-! ### Objects -/

/-- A field whose key is a text. -/
def keyed (f : String × Tree) : Option String × Tree := (some f.1, f.2)

section

variable {σ : Type} {field : σ → String → List Token → Reading σ}
  {step : σ → String × Tree → Except Error σ}

/-- What becomes of a state when a field is read does not hang on what stands behind the field. -/
def ReadsField (field : σ → String → List Token → Reading σ)
    (step : σ → String × Tree → Except Error σ) (f : String × Tree) : Prop :=
  ∀ s rest, field s f.1 (.colon :: (f.2.words ++ rest)) = (step s f).map (·, rest)

/-- The fields of an object after the first. -/
theorem readFields_moreWords {fields : List (String × Tree)}
    (h : ∀ f ∈ fields, ReadsField field step f) (rest : List Token) :
    ∀ (fuel : Nat) (s : σ), fields.length < fuel →
      readFields field fuel s false (moreFieldWords (fields.map keyed) ++ .closeBrace :: rest) =
        (fields.foldlM step s).map (·, rest) := by
  induction fields with
  | nil =>
    intro fuel s hfuel
    obtain ⟨fuel, rfl⟩ := Nat.exists_eq_add_one_of_ne_zero (Nat.ne_of_gt hfuel)
    rfl
  | cons f fields ih =>
    intro fuel s hfuel
    obtain ⟨fuel, rfl⟩ := Nat.exists_eq_add_one_of_ne_zero (Nat.ne_of_gt (Nat.zero_lt_of_lt hfuel))
    have hread := h f List.mem_cons_self s
      (moreFieldWords (fields.map keyed) ++ .closeBrace :: rest)
    have hmore := ih (fun f hf => h f (List.mem_cons_of_mem _ hf)) fuel
    obtain ⟨k, v⟩ := f
    simp only [List.map_cons, keyed, moreFieldWords, textToken, List.cons_append,
      List.append_assoc, readFields, nextKey, readKey, Except.map, bind, Except.bind,
      Bool.false_eq_true, if_false, List.foldlM_cons] at hread ⊢
    rw [hread]
    rcases step s (k, v) with e | s'
    · rfl
    · exact hmore s' (by simpa using hfuel)

/-- An object has no more fields than tokens. -/
theorem length_le_moreFieldWords (fields : List (Option String × Tree)) :
    fields.length ≤ (moreFieldWords fields).length := by
  induction fields with
  | nil => exact Nat.le_refl 0
  | cons f fields ih =>
    obtain ⟨k, v⟩ := f
    simp only [moreFieldWords, List.length_cons, List.length_append]
    omega

/-- **An object is read field by field.** -/
theorem readObject_words {fields : List (String × Tree)}
    (h : ∀ f ∈ fields, ReadsField field step f) (s : σ) (rest : List Token) :
    readObject field s (fieldWords (fields.map keyed) ++ .closeBrace :: rest) =
      (fields.foldlM step s).map (·, rest) := by
  cases fields with
  | nil => rfl
  | cons f fields =>
    have hread := h f List.mem_cons_self s
      (moreFieldWords (fields.map keyed) ++ .closeBrace :: rest)
    have hmore := readFields_moreWords (fun f hf => h f (List.mem_cons_of_mem _ hf)) rest
    have hlength := length_le_moreFieldWords (fields.map keyed)
    obtain ⟨k, v⟩ := f
    simp only [List.map_cons, keyed, fieldWords, textToken, List.cons_append,
      List.append_assoc, readObject, readFields, nextKey, readKey, Except.map, bind, Except.bind,
      if_true, List.foldlM_cons] at hread ⊢
    rw [hread]
    rcases step s (k, v) with e | s'
    · rfl
    · refine hmore _ s' ?_
      rw [List.length_map] at hlength
      simp only [List.length_cons, List.length_append]
      omega

/-- What becomes of a state when a field is read that nothing follows. -/
def readAlone (field : σ → String → List Token → Reading σ) (s : σ) (f : String × Tree) :
    Except Error σ :=
  (field s f.1 (.colon :: f.2.words)).map Prod.fst

theorem ReadsField.readAlone_eq {f : String × Tree} (h : ReadsField field step f) (s : σ) :
    readAlone field s f = step s f := by
  have hread := h s []
  rw [List.append_nil] at hread
  rw [readAlone, hread]
  cases step s f <;> rfl

theorem ReadsField.alone {f : String × Tree} (h : ReadsField field step f) :
    ReadsField field (readAlone field) f := by
  intro s rest
  rw [h s rest, h.readAlone_eq]

section

variable {α : Type} {l : List α} {spelled : α → String × Tree} {put : σ → α → Except Error σ}

theorem foldlM_readAlone (h : ∀ a ∈ l, ReadsField field (fun s _ => put s a) (spelled a)) (s : σ) :
    (l.map spelled).foldlM (readAlone field) s = l.foldlM put s := by
  induction l generalizing s with
  | nil => rfl
  | cons a l ih =>
    rw [List.map_cons, List.foldlM_cons, List.foldlM_cons, (h a List.mem_cons_self).readAlone_eq]
    exact bind_congr (ih fun b hb => h b (List.mem_cons_of_mem _ hb))

/-- **An object is read part by part,** where each of its fields is how a part is spelled. -/
theorem readObject_map (h : ∀ a ∈ l, ReadsField field (fun s _ => put s a) (spelled a)) (s : σ)
    (rest : List Token) :
    readObject field s (fieldWords ((l.map spelled).map keyed) ++ .closeBrace :: rest) =
      (l.foldlM put s).map (·, rest) := by
  have hfields : ∀ f ∈ l.map spelled, ReadsField field (readAlone field) f := by
    intro f hf
    obtain ⟨a, ha, rfl⟩ := List.mem_map.1 hf
    exact (h a ha).alone
  rw [readObject_words hfields, foldlM_readAlone h]

end

end

/-- What becomes of a state when a field that may be given once is read. -/
def putOnce {σ α : Type} (name : String) (old : Option α) (store : Option α → σ) (a : α) :
    Except Error σ :=
  if old.isSome then .error (.mismatch (.duplicate name)) else .ok (store (some a))

/-- A field that may be given once is read whatever follows it. -/
theorem readOnce_words {σ α : Type} {read : List Token → Reading α} {a : α}
    (h : ∀ rest, read (v.words ++ rest) = .ok (a, rest)) (name : String) (old : Option α)
    (store : Option α → σ) (rest : List Token) :
    readOnce name old store read (.colon :: (v.words ++ rest)) =
      (putOnce name old store a).map (·, rest) := by
  unfold readOnce putOnce
  split
  · rfl
  · simp only [afterColon, bind, Except.bind, pure, Except.pure, h, Except.map]

end Json

end ModuleBuild
