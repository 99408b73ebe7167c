import ModuleBuild.Proofs.Toml.Scanning

/-!
# TOML documents are read

The reader takes every document of the grammar apart into the statements of its lines. What stands
in brackets is read up to its bracket, item by item; each step takes at least one character, so the
reader never runs out of steps. What the statements build is another matter: the lines are read
alike whether or not they repeat a key.

## Main definitions

* `Toml.Part.IsRead` — what the reader makes of a part of a value

## Main results

* `Toml.Spells.isRead` — every part of a value is read
* `Toml.statementsTo_spelled` — lines are read
* `Toml.parse_document` — a document spells what its lines build
-/

namespace ModuleBuild

namespace Toml

variable {c : Char} {cs rest : List Char} {depth : Nat}

/-! ### What follows a value -/

theorem ends_break {ending : List Char} (h : IsBreak ending) : Ends (ending ++ rest) := by
  cases h <;> exact ends_cons (by decide)

theorem IsLineTail.ends (h : IsLineTail cs) (hrest : Ends rest) : Ends (cs ++ rest) := by
  cases h with
  | blanks h => exact hrest.blanks h
  | comment h hwords =>
    rw [List.append_assoc]
    exact (ends_cons (by decide)).blanks h

theorem IsTrivia.ends (h : IsTrivia cs) (hrest : Ends rest) : Ends (cs ++ rest) := by
  cases h with
  | blanks h => exact hrest.blanks h
  | line h hending hmore =>
    rw [List.append_assoc, List.append_assoc]
    exact h.ends (ends_break hending)

theorem FollowsLine.ends {next : List Char} (h : FollowsLine rest next) : Ends rest := by
  cases h with
  | ending h => exact ends_break h
  | nothing => exact ends_nil

/-! ### How values begin -/

/-- A character that a run may begin with begins nothing else. -/
theorem startsWord_of_isRunChar (h : isRunChar c = true) :
    StartsWord c ∧ ¬IsQuote c ∧ c ∉ ['[', ']', '\x7b', '\x7d'] := by
  have hne : ∀ d, isRunChar d = false → c ≠ d := by
    rintro d hd rfl
    exact Bool.false_ne_true (hd.symm.trans h)
  have hblank : isBlank c = false := by
    simp [isBlank, hne ' ' (by decide), hne '\t' (by decide)]
  refine ⟨⟨hblank, ⟨hne _ (by decide), hne _ (by decide)⟩, hne _ (by decide)⟩, ?_, ?_⟩
  · rintro (hc | hc)
    · exact hne _ (by decide) hc
    · exact hne _ (by decide) hc
  · simp [hne '[' (by decide), hne ']' (by decide), hne '\x7b' (by decide),
      hne '\x7d' (by decide)]

theorem startsWord_of_isQuote (h : IsQuote c) : StartsWord c ∧ c ∉ ['[', ']', '\x7b', '\x7d'] := by
  rcases h with rfl | rfl <;> exact ⟨⟨by decide, ⟨by decide, by decide⟩, by decide⟩, by decide⟩

theorem startsWord_of_startsKey (h : StartsKey c) :
    StartsWord c ∧ c ∉ ['[', ']', '\x7b', '\x7d'] := by
  rcases h with h | h
  · exact startsWord_of_isQuote h
  · have hrun : isRunChar c = true := by
      simp only [isKeyChar, Bool.or_eq_true] at h
      simp only [isRunChar, Bool.or_eq_true]
      tauto
    exact ⟨(startsWord_of_isRunChar hrun).1, (startsWord_of_isRunChar hrun).2.2⟩

theorem SpellsText.exists_cons {s : String} (h : SpellsText s cs) :
    ∃ quote cs', cs = quote :: cs' ∧ IsQuote quote := by
  cases h with
  | short h =>
    cases h with
    | quoted hquote h => exact ⟨_, _, rfl, hquote⟩
  | block hquote h => exact ⟨_, _, rfl, hquote⟩
  | below hquote hending h => exact ⟨_, _, rfl, hquote⟩

theorem SpellsScalar.exists_cons {v : Node} (h : SpellsScalar v cs) :
    ∃ c cs', cs = c :: cs' ∧ isRunChar c = true := by
  obtain ⟨hrun, hscalar⟩ := h
  cases cs with
  | nil => exact absurd hscalar (by simp [show scalar [] = none by decide])
  | cons c cs => exact ⟨c, cs, rfl, hrun c List.mem_cons_self⟩

theorem exists_cons_of_isDate (h : isDate cs = true) : ∃ c cs', cs = c :: cs' := by
  cases cs with
  | nil => exact absurd h (by decide)
  | cons c cs => exact ⟨c, cs, rfl⟩

/-- No value begins with a blank, a comment or a closing bracket. -/
theorem Spells.exists_cons {v : Node} (h : Spells depth (.value v) cs) :
    ∃ c cs', cs = c :: cs' ∧ StartsWord c ∧ c ≠ ']' := by
  have hne : ∀ {c : Char}, c ∉ ['[', ']', '\x7b', '\x7d'] → c ≠ ']' := by
    rintro c hc rfl
    exact hc (by decide)
  have hopen : ∀ {c : Char}, c = '[' ∨ c = '\x7b' → StartsWord c ∧ c ≠ ']' := by
    rintro c (rfl | rfl) <;> exact ⟨⟨by decide, ⟨by decide, by decide⟩, by decide⟩, by decide⟩
  cases h with
  | text h =>
    obtain ⟨c, cs, rfl, hc⟩ := h.exists_cons
    exact ⟨c, cs, rfl, (startsWord_of_isQuote hc).1, hne (startsWord_of_isQuote hc).2⟩
  | scalar h =>
    obtain ⟨c, cs, rfl, hc⟩ := h.exists_cons
    exact ⟨c, cs, rfl, (startsWord_of_isRunChar hc).1, hne (startsWord_of_isRunChar hc).2.2⟩
  | @dateAndTime _ date time hdate hdateRun =>
    obtain ⟨c, cs, rfl⟩ := exists_cons_of_isDate hdate
    have hc : isRunChar c = true := hdateRun c List.mem_cons_self
    exact ⟨c, _, rfl, (startsWord_of_isRunChar hc).1, hne (startsWord_of_isRunChar hc).2.2⟩
  | list => exact ⟨_, _, rfl, hopen (.inl rfl)⟩
  | noMembers => exact ⟨_, _, rfl, hopen (.inr rfl)⟩
  | inline => exact ⟨_, _, rfl, hopen (.inr rfl)⟩

/-- A key and its value begin with a part of the key, after blanks. -/
theorem Spells.skipBlanks_member {m : List String × Node} (h : Spells depth (.member m) cs)
    (rest : List Char) : ∃ c cs', skipBlanks (cs ++ rest) = c :: cs' ∧ StartsKey c := by
  cases h with
  | member hkey =>
    rw [List.append_assoc]
    exact hkey.skipBlanks _

/-- So do the values of a table in braces. -/
theorem Spells.skipBlanks_members {l : List (List String × Node)}
    (h : Spells depth (.members l) cs) (rest : List Char) :
    ∃ c cs', skipBlanks (cs ++ rest) = c :: cs' ∧ StartsKey c := by
  cases h with
  | lastMember h hback =>
    rw [List.append_assoc]
    exact h.skipBlanks_member _
  | members h hback hmore =>
    rw [List.append_assoc]
    exact h.skipBlanks_member _

/-! ### Single values -/

/-- What is neither a list nor a table is a text or a run. -/
theorem valueTo_cons (h : c ∉ ['[', ']', '\x7b', '\x7d']) : valueTo depth (c :: cs) =
    if c = '"' ∨ c = '\x27' then (text (c :: cs)).map fun (s, rest) => (.text s, rest)
    else scalar (c :: cs) := by
  have hlist : c ≠ '[' := by rintro rfl; exact h (by decide)
  have hbrace : c ≠ '\x7b' := by rintro rfl; exact h (by decide)
  rw [valueTo]
  · exact fun _ _ heq => hlist heq
  · exact fun _ _ heq => hbrace heq

theorem valueTo_text {s : String} (h : SpellsText s cs) (hrest : Ends rest) :
    valueTo depth (cs ++ rest) = some (.text s, rest) := by
  obtain ⟨c, cs, rfl, hc⟩ := h.exists_cons
  have hquote : c = '"' ∨ c = '\x27' := hc
  rw [List.cons_append, valueTo_cons (startsWord_of_isQuote hc).2, if_pos hquote,
    ← List.cons_append, text_spelled h hrest.ne_quote]
  rfl

theorem valueTo_run (h : isRunChar c = true) : valueTo depth (c :: cs) = scalar (c :: cs) := by
  obtain ⟨-, hquote, hbracket⟩ := startsWord_of_isRunChar h
  rw [valueTo_cons hbracket]
  exact if_neg hquote

theorem valueTo_scalar {v : Node} (h : SpellsScalar v cs) (hrest : Ends rest) :
    valueTo depth (cs ++ rest) = some (v, rest) := by
  obtain ⟨c, cs, rfl, hc⟩ := h.exists_cons
  rw [List.cons_append, valueTo_run hc, ← List.cons_append, scalar_spelled h hrest]

/-- A time belongs to the date in front of it. -/
theorem valueTo_dateAndTime {date time : List Char} (hdate : isDate date = true)
    (hdateRun : ∀ c ∈ date, isRunChar c = true) (htime : isZonedTime time = true)
    (htimeRun : ∀ c ∈ time, isRunChar c = true) (hrest : Ends rest) :
    valueTo depth (date ++ ' ' :: time ++ rest) = some (.moment, rest) := by
  have hblank : ∀ c, (' ' :: (time ++ rest)).head? = some c → isRunChar c = false := by
    intro c hc
    obtain rfl : ' ' = c := by simpa using hc
    rfl
  obtain ⟨htake, hdrop⟩ := span_append hdateRun hblank
  obtain ⟨htakeTime, hdropTime⟩ := span_append htimeRun fun c => hrest.not_isRunChar
  have hskip : skipTimeAfterDate (' ' :: (time ++ rest)) = rest := by
    rw [skipTimeAfterDate, htakeTime, hdropTime, if_pos htime]
  have htrue : date ≠ ['t', 'r', 'u', 'e'] := by rintro rfl; exact absurd hdate (by decide)
  have hfalse : date ≠ ['f', 'a', 'l', 's', 'e'] := by rintro rfl; exact absurd hdate (by decide)
  obtain ⟨c, date, rfl⟩ := exists_cons_of_isDate hdate
  rw [List.append_assoc, List.cons_append, List.cons_append,
    valueTo_run (hdateRun c List.mem_cons_self), ← List.cons_append, scalar]
  rw [htake, hdrop, if_neg htrue, if_neg hfalse, if_pos hdate, hskip]

/-! ### Lists and tables in braces -/

section

variable {item : List Char → Option (Node × List Char)} {fuel : Nat} {read : List Node} {v : Node}
  {more : List Char}

/-- The end of a list, perhaps behind a comma. -/
theorem listItems_end (h : skipTrivia false cs = some (']' :: rest)) :
    listItems item (fuel + 1) read cs = some (read.reverse, rest) := by
  rw [listItems, h]
  rfl

/-- The last item of a list. -/
theorem listItems_last (h : skipTrivia false cs = some (c :: more)) (hc : c ≠ ']')
    (hitem : item (c :: more) = some (v, rest))
    (hend : skipTrivia false rest = some (']' :: cs')) :
    listItems item (fuel + 1) read cs = some (read.reverse ++ [v], cs') := by
  rw [listItems, h]
  simp [hc, hitem, hend]

/-- An item of a list that others follow. -/
theorem listItems_more (h : skipTrivia false cs = some (c :: more)) (hc : c ≠ ']')
    (hitem : item (c :: more) = some (v, rest))
    (hend : skipTrivia false rest = some (',' :: cs')) :
    listItems item (fuel + 1) read cs = listItems item fuel (v :: read) cs' := by
  rw [listItems, h]
  simp [hc, hitem, hend]

/-- Blanks in front of a key make no difference. -/
theorem keyValue_skipBlanks (cs : List Char) :
    keyValue item (skipBlanks cs) = keyValue item cs := by
  rw [keyValue, keyValue, key, key, keyParts_skipBlanks]

theorem inlineEntries_skipBlanks (entries : Entries) (cs : List Char) :
    inlineEntries item fuel entries (skipBlanks cs) = inlineEntries item fuel entries cs := by
  cases fuel with
  | zero => rfl
  | succ fuel => rw [inlineEntries, inlineEntries, keyValue_skipBlanks]

/-- A key and the value behind its mark. -/
theorem keyValue_member {path : List String} {key blanks : List Char} (hkey : SpellsKey path key)
    (hlength : path.length < depthLimit) (hblanks : IsBlanks blanks) (hc : isBlank c = false)
    (hitem : item (c :: cs) = some (v, rest)) :
    keyValue item (key ++ '=' :: (blanks ++ c :: cs)) = some ((path, v), rest) := by
  rw [keyValue, key_spelled hkey hlength (by decide) (by decide) (by decide)]
  simp only [Option.bind_eq_bind, Option.bind_some]
  rw [skipBlanks_append_cons hblanks hc, hitem]
  rfl

variable {m : List String × Node} {back : List Char}

/-- The last value of a table in braces. -/
theorem inlineEntries_last (hback : IsBlanks back)
    (hmember : keyValue item cs = some (m, back ++ '\x7d' :: rest)) (entries : Entries) :
    inlineEntries item (fuel + 1) entries cs = (addAll [m] entries).map (·, rest) := by
  rw [inlineEntries, hmember]
  simp only [Option.bind_eq_bind, Option.bind_some, addAll, List.foldlM_cons, List.foldlM_nil,
    skipBlanks_append_cons hback (show isBlank '\x7d' = false by decide)]
  cases addAt m.1 m.2 .header entries <;> rfl

/-- A value of a table in braces that others follow. -/
theorem inlineEntries_more (hback : IsBlanks back)
    (hmember : keyValue item cs = some (m, back ++ ',' :: rest)) (entries : Entries) :
    inlineEntries item (fuel + 1) entries cs =
      (addAt m.1 m.2 .header entries).bind fun entries => inlineEntries item fuel entries rest := by
  rw [inlineEntries, hmember]
  simp only [Option.bind_eq_bind, Option.bind_some,
    skipBlanks_append_cons hback (show isBlank ',' = false by decide)]

end

/-- A table in braces, in which there is a key. -/
theorem valueTo_inline {l : List (List String × Node)} {entries : Entries}
    (h : Spells depth (.members l) cs)
    (hread : inlineEntries (valueTo depth) ('\x7b' :: (cs ++ '\x7d' :: rest)).length []
      (cs ++ '\x7d' :: rest) = some (entries, rest)) :
    valueTo (depth + 1) ('\x7b' :: (cs ++ '\x7d' :: rest)) = some (.inline entries, rest) := by
  obtain ⟨c, cs', hskip, hc⟩ := h.skipBlanks_members ('\x7d' :: rest)
  have hne : c ≠ '\x7d' := by
    rintro rfl
    exact (startsWord_of_startsKey hc).2 (by decide)
  rw [← inlineEntries_skipBlanks, hskip] at hread
  rw [valueTo, hskip]
  split
  · rename_i heq
    exact absurd (List.cons.inj heq).1 hne
  · rw [hread]
    rfl

/-- What the reader makes of a part of a value. -/
def Part.IsRead (depth : Nat) : Part → List Char → Prop
  | value v, cs => ∀ rest, Ends rest → valueTo depth (cs ++ rest) = some (v, rest)
  | items l, cs => ∀ (rest : List Char) (read : List Node) (fuel : Nat), cs.length < fuel →
    listItems (valueTo depth) fuel read (cs ++ ']' :: rest) = some (read.reverse ++ l, rest)
  | member m, cs => ∀ rest, Ends rest → keyValue (valueTo depth) (cs ++ rest) = some (m, rest)
  | members l, cs => ∀ (rest : List Char) (entries : Entries) (fuel : Nat), cs.length < fuel →
    inlineEntries (valueTo depth) fuel entries (cs ++ '\x7d' :: rest) =
      (addAll l entries).map (·, rest)

/-- **Every part of a value is read.** -/
theorem Spells.isRead {p : Part} (h : Spells depth p cs) : p.IsRead depth cs := by
  have hcomma : StartsWord ',' := ⟨by decide, ⟨by decide, by decide⟩, by decide⟩
  have hclose : StartsWord ']' := ⟨by decide, ⟨by decide, by decide⟩, by decide⟩
  induction h with
  | text h => exact fun rest hrest => valueTo_text h hrest
  | scalar h => exact fun rest hrest => valueTo_scalar h hrest
  | dateAndTime hdate hdateRun htime htimeRun =>
    exact fun rest hrest => valueTo_dateAndTime hdate hdateRun htime htimeRun hrest
  | @list depth l cs h ih =>
    intro rest hrest
    rw [List.cons_append, List.append_assoc, List.singleton_append, valueTo,
      ih rest [] _ (by simp only [List.length_cons, List.length_append]; omega)]
    rfl
  | @noMembers depth cs h =>
    intro rest hrest
    rw [List.cons_append, List.append_assoc, List.singleton_append, valueTo,
      skipBlanks_append_cons h (by decide)]
    rfl
  | @inline depth l entries cs h hentries ih =>
    intro rest hrest
    have hfuel : cs.length < ('\x7b' :: (cs ++ '\x7d' :: rest)).length := by
      simp only [List.length_cons, List.length_append]
      omega
    have hread := ih rest [] _ hfuel
    rw [hentries] at hread
    rw [List.cons_append, List.append_assoc, List.singleton_append]
    exact valueTo_inline h hread
  | @noItems depth cs h =>
    intro rest read fuel hfuel
    obtain ⟨fuel, rfl⟩ := Nat.exists_eq_add_one_of_ne_zero (Nat.ne_of_gt (Nat.zero_lt_of_lt hfuel))
    rw [listItems_end (skipTrivia_spelled h hclose), List.append_nil]
  | @lastItem depth v front cs back hfront h hback ih =>
    intro rest read fuel hfuel
    obtain ⟨fuel, rfl⟩ := Nat.exists_eq_add_one_of_ne_zero (Nat.ne_of_gt (Nat.zero_lt_of_lt hfuel))
    obtain ⟨c, cs, rfl, hc, hne⟩ := h.exists_cons
    rw [List.append_assoc, List.append_assoc]
    exact listItems_last (skipTrivia_spelled hfront hc) hne
      (ih _ (hback.ends (ends_cons (by decide)))) (skipTrivia_spelled hback hclose)
  | @items depth v l front cs back cs' hfront h hback hmore ih ihMore =>
    intro rest read fuel hfuel
    obtain ⟨fuel, rfl⟩ := Nat.exists_eq_add_one_of_ne_zero (Nat.ne_of_gt (Nat.zero_lt_of_lt hfuel))
    obtain ⟨c, cs, rfl, hc, hne⟩ := h.exists_cons
    simp only [List.length_append, List.length_cons] at hfuel
    rw [List.append_assoc, List.append_assoc, List.append_assoc, List.cons_append,
      List.cons_append]
    refine (listItems_more (skipTrivia_spelled hfront hc) hne
      (ih _ (hback.ends (ends_cons (by decide)))) (skipTrivia_spelled hback hcomma)).trans ?_
    rw [ihMore rest _ fuel (by omega)]
    simp
  | @member depth path v key blanks cs hkey hlength hblanks h ih =>
    intro rest hrest
    obtain ⟨c, cs, rfl, hc, -⟩ := h.exists_cons
    rw [List.append_assoc, List.cons_append, List.append_assoc]
    exact keyValue_member hkey hlength hblanks hc.1 (ih rest hrest)
  | @lastMember depth m cs back h hback ih =>
    intro rest entries fuel hfuel
    obtain ⟨fuel, rfl⟩ := Nat.exists_eq_add_one_of_ne_zero (Nat.ne_of_gt (Nat.zero_lt_of_lt hfuel))
    have hends : Ends (back ++ '\x7d' :: rest) := (ends_cons (by decide)).blanks hback
    rw [List.append_assoc]
    exact inlineEntries_last hback (ih _ hends) entries
  | @members depth m l cs back cs' h hback hmore ih ihMore =>
    intro rest entries fuel hfuel
    obtain ⟨fuel, rfl⟩ := Nat.exists_eq_add_one_of_ne_zero (Nat.ne_of_gt (Nat.zero_lt_of_lt hfuel))
    simp only [List.length_append, List.length_cons] at hfuel
    have hends : Ends (back ++ ',' :: (cs' ++ '\x7d' :: rest)) :=
      (ends_cons (by decide)).blanks hback
    rw [List.append_assoc, List.append_assoc, List.cons_append,
      inlineEntries_more hback (ih _ hends), addAll, List.foldlM_cons]
    rcases addAt m.1 m.2 .header entries with _ | entries'
    · rfl
    · exact ihMore rest entries' fuel (by omega)

/-! ### Lines -/

/-- No key begins with a bracket. -/
theorem SpellsKey.ne_bracket {path : List String} (h : SpellsKey path cs) (more : List Char) :
    cs ++ rest ≠ '[' :: more := by
  intro heq
  obtain ⟨c, cs', hskip, hc⟩ := h.skipBlanks rest
  rw [heq, skipBlanks_cons_of_not (by decide)] at hskip
  obtain ⟨rfl, -⟩ := List.cons.inj hskip
  exact (startsWord_of_startsKey hc).2 (by decide)

theorem startsWord_bracket : StartsWord '[' := ⟨by decide, ⟨by decide, by decide⟩, by decide⟩

/-- A statement is read, without the blanks in front of it. -/
theorem statement_spelled {s : Statement} (h : SpellsStatement s cs) (hrest : Ends rest) :
    ∃ c cs', skipBlanks (cs ++ rest) = c :: cs' ∧ StartsWord c ∧
      statement (c :: cs') = some (s, rest) := by
  cases h with
  | @table path cs h hlength =>
    refine ⟨'[', cs ++ ']' :: rest, by simp [isBlank], startsWord_bracket, ?_⟩
    rw [statement]
    · rw [key_spelled h hlength (by decide) (by decide) (by decide)]
      rfl
    · exact h.ne_bracket
  | @element path cs h hlength =>
    refine ⟨'[', '[' :: (cs ++ ']' :: ']' :: rest), by simp [isBlank], startsWord_bracket, ?_⟩
    rw [statement, key_spelled h hlength (by decide) (by decide) (by decide)]
    rfl
  | @entry path v cs h =>
    obtain ⟨c, cs', hskip, hc⟩ := h.skipBlanks_member rest
    refine ⟨c, cs', hskip, (startsWord_of_startsKey hc).1, ?_⟩
    have hne : c ≠ '[' := by
      rintro rfl
      exact (startsWord_of_startsKey hc).2 (by decide)
    have hread : keyValue value (c :: cs') = some ((path, v), rest) := by
      rw [← hskip, keyValue_skipBlanks]
      exact h.isRead rest hrest
    rw [statement, hread]
    · rfl
    · exact fun _ heq => hne (List.cons.inj heq).1
    · exact fun _ heq => hne (List.cons.inj heq).1

theorem statementsTo_nil (fuel : Nat) : statementsTo (fuel + 1) [] = some [] := rfl

/-- What begins with neither a line end nor a comment is a statement. -/
theorem statementsTo_statement {s : Statement} {cs' more next : List Char} {fuel : Nat}
    (hskip : skipBlanks cs = c :: cs') (hc : StartsWord c)
    (hread : statement (c :: cs') = some (s, more)) (hend : lineEnd more = some next) :
    statementsTo (fuel + 1) cs = (statementsTo fuel next).map (s :: ·) := by
  obtain ⟨-, ⟨hfeed, hreturn⟩, hcomment⟩ := hc
  rw [statementsTo, hskip]
  split
  · rename_i heq
    exact absurd heq (by simp)
  · rename_i heq
    exact absurd (List.cons.inj heq).1 hfeed
  · rename_i heq
    exact absurd (List.cons.inj heq).1 hreturn
  · rename_i heq
    exact absurd (List.cons.inj heq).1 hcomment
  · rw [hread]
    simp only [Option.bind_eq_bind, Option.bind_some, hend]
    cases statementsTo fuel next <;> rfl

/-- **A line is read,** and then the others. -/
theorem statementsTo_line {l : List Statement} {next : List Char} {fuel : Nat}
    (h : SpellsLine l cs) (hrest : FollowsLine rest next) (hfuel : 0 < fuel) :
    statementsTo (fuel + 1) (cs ++ rest) = (statementsTo fuel next).map (l ++ ·) := by
  obtain ⟨fuel, rfl⟩ := Nat.exists_eq_add_one_of_ne_zero (Nat.ne_of_gt hfuel)
  have hsame : ∀ o : Option (List Statement), o.map ([] ++ ·) = o := fun o => by simp
  cases h with
  | empty h =>
    cases h with
    | blanks h =>
      rw [statementsTo, skipBlanks_append h, hrest.skipBlanks, hsame]
      cases hrest with
      | ending hending => cases hending <;> rfl
      | nothing => rfl
    | comment h hwords =>
      have hend : lineEnd ('#' :: (‹List Char› ++ rest)) = some next :=
        lineEnd_spelled (.comment isBlanks_nil hwords) hrest
      rw [List.append_assoc, List.cons_append, statementsTo, skipBlanks_append_cons h (by decide),
        hsame]
      simp only [hend]
      rfl
  | @statement s front cs back hfront h hback =>
    obtain ⟨c, cs', hskip, hc, hread⟩ := statement_spelled h (hback.ends hrest.ends)
    rw [← skipBlanks_append hfront] at hskip
    rw [List.append_assoc, List.append_assoc,
      statementsTo_statement hskip hc hread (lineEnd_spelled hback hrest)]
    rfl

/-- A line without characters says nothing. -/
theorem SpellsLine.eq_nil {l : List Statement} (h : SpellsLine l []) : l = [] := by
  generalize hcs : ([] : List Char) = cs at h
  cases h with
  | empty => rfl
  | @statement s front cs back hfront h hback =>
    obtain ⟨c, cs', hskip, -⟩ := statement_spelled h ends_nil
    simp_all [skipBlanks]

/-- **Lines are read.** -/
theorem statementsTo_spelled {l : List Statement} (h : SpellsLines l cs) :
    ∀ fuel, cs.length < fuel → statementsTo fuel cs = some l := by
  induction h with
  | @last l cs h =>
    intro fuel hfuel
    rcases cs with _ | ⟨c, cs⟩
    · obtain ⟨fuel, rfl⟩ := Nat.exists_eq_add_one_of_ne_zero (Nat.ne_of_gt hfuel)
      rw [h.eq_nil, statementsTo_nil]
    · obtain ⟨fuel, rfl⟩ : ∃ k, fuel = k + 1 + 1 := ⟨fuel - 2, by simp at hfuel; omega⟩
      have hread := statementsTo_line h .nothing (Nat.succ_pos fuel)
      rw [List.append_nil, statementsTo_nil] at hread
      simpa using hread
  | @more l l' cs ending cs' h hending hmore ih =>
    intro fuel hfuel
    have hlength : 0 < ending.length := by cases hending <;> simp
    simp only [List.length_append] at hfuel
    obtain ⟨fuel, rfl⟩ : ∃ k, fuel = k + 1 := ⟨fuel - 1, by omega⟩
    rw [statementsTo_line h (.ending hending) (by omega), ih fuel (by omega)]
    rfl

/-- **A document spells what its lines build.** -/
theorem parse_document {l : List Statement} {text : String} (h : Document l text) :
    parse text = assemble l := by
  rw [parse, statements, statementsTo_spelled h _ (Nat.lt_succ_self _)]
  rfl

end Toml

end ModuleBuild
