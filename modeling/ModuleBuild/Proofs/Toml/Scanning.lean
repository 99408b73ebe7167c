import Mathlib.Data.List.DropRight
import ModuleBuild.Proofs.Toml.Grammar

/-!
# The words of TOML documents are read

Every spelling of a text, a key or a run is read from the front of a list of characters as what it
spells, whatever follows it. A run ends where no more of it can follow, so it matters what stands
behind a value: in a document that is a comma, a closing mark, a comment or the end of the line,
perhaps with blanks in front.

## Main definitions

* `Toml.Ends` — a value in front of a text ends there

## Main results

* `Toml.skipTrivia_spelled`, `Toml.lineEnd_spelled` — what stands between words is skipped
* `Toml.text_spelled`, `Toml.key_spelled`, `Toml.scalar_spelled` — texts, keys and runs are read
-/

namespace ModuleBuild

namespace Toml

variable {c quote : Char} {cs rest : List Char}

/-! ### Between words -/

theorem isBlank_iff : isBlank c = true ↔ c = ' ' ∨ c = '\t' := by simp [isBlank]

/-- Blanks in front are skipped. -/
theorem skipBlanks_append (h : IsBlanks cs) : skipBlanks (cs ++ rest) = skipBlanks rest :=
  List.dropWhile_append_of_pos h

@[simp] theorem skipBlanks_cons_of_not (h : isBlank c = false) :
    skipBlanks (c :: rest) = c :: rest := List.dropWhile_cons_of_neg (by simp [h])

@[simp] theorem skipBlanks_skipBlanks (cs : List Char) :
    skipBlanks (skipBlanks cs) = skipBlanks cs := List.dropWhile_idempotent isBlank cs

/-- Blanks are skipped up to a character that is none. -/
theorem skipBlanks_append_cons (h : IsBlanks cs) (hc : isBlank c = false) :
    skipBlanks (cs ++ c :: rest) = c :: rest := by
  rw [skipBlanks_append h, skipBlanks_cons_of_not hc]

theorem skipTrivia_feed (inside : Bool) :
    skipTrivia inside ('\n' :: rest) = skipTrivia false rest := by
  cases inside <;> rw [skipTrivia]

theorem skipTrivia_break {ending : List Char} (h : IsBreak ending) (inside : Bool) :
    skipTrivia inside (ending ++ rest) = skipTrivia false rest := by
  cases h with
  | feed => exact skipTrivia_feed inside
  | pair => cases inside <;> rw [List.cons_append, List.singleton_append, skipTrivia]

/-- The character is not a part of the end of a line. -/
def NoBreak (c : Char) : Prop := c ≠ '\n' ∧ c ≠ '\r'

theorem noBreak_of_isBlank (h : isBlank c = true) : NoBreak c := by
  rcases isBlank_iff.1 h with rfl | rfl <;> exact ⟨by decide, by decide⟩

theorem noBreak_of_isCommentChar (h : isCommentChar c = true) : NoBreak c := by
  constructor <;> rintro rfl <;> exact absurd h (by decide)

theorem skipTrivia_cons_outside (h : NoBreak c) :
    skipTrivia false (c :: rest) =
      if isBlank c then skipTrivia false rest
      else if c = '#' then skipTrivia true rest else some (c :: rest) := by
  rw [skipTrivia]
  · exact h.1
  · rintro _ rfl
    exact absurd rfl h.2

theorem skipTrivia_cons_inside (h : NoBreak c) :
    skipTrivia true (c :: rest) = if isCommentChar c then skipTrivia true rest else none := by
  rw [skipTrivia]
  · exact h.1
  · rintro _ rfl
    exact absurd rfl h.2

theorem skipTrivia_blanks (h : IsBlanks cs) :
    skipTrivia false (cs ++ rest) = skipTrivia false rest := by
  induction cs with
  | nil => rfl
  | cons c cs ih =>
    have hc : isBlank c = true := h c List.mem_cons_self
    rw [List.cons_append, skipTrivia_cons_outside (noBreak_of_isBlank hc), if_pos hc,
      ih fun d hd => h d (List.mem_cons_of_mem _ hd)]

theorem skipTrivia_comment (h : ∀ c ∈ cs, isCommentChar c = true) :
    skipTrivia true (cs ++ rest) = skipTrivia true rest := by
  induction cs with
  | nil => rfl
  | cons c cs ih =>
    have hc : isCommentChar c = true := h c List.mem_cons_self
    rw [List.cons_append, skipTrivia_cons_inside (noBreak_of_isCommentChar hc), if_pos hc,
      ih fun d hd => h d (List.mem_cons_of_mem _ hd)]

/-- The rest of a line with its end is skipped. -/
theorem skipTrivia_line {ending : List Char} (h : IsLineTail cs) (hending : IsBreak ending) :
    skipTrivia false (cs ++ (ending ++ rest)) = skipTrivia false rest := by
  cases h with
  | blanks h => rw [skipTrivia_blanks h, skipTrivia_break hending]
  | comment h hwords =>
    rw [List.append_assoc, skipTrivia_blanks h, List.cons_append,
      skipTrivia_cons_outside ⟨by decide, by decide⟩, if_neg (by decide), if_pos rfl,
      skipTrivia_comment hwords, skipTrivia_break hending]

/-- A character that no blanks, line ends or comments begin with. -/
def StartsWord (c : Char) : Prop := isBlank c = false ∧ NoBreak c ∧ c ≠ '#'

/-- **Blanks, line ends and comments** are skipped up to a character that is none of them. -/
theorem skipTrivia_spelled (h : IsTrivia cs) (hc : StartsWord c) :
    skipTrivia false (cs ++ c :: rest) = some (c :: rest) := by
  induction h with
  | blanks h =>
    rw [skipTrivia_blanks h, skipTrivia_cons_outside hc.2.1, if_neg (by simp [hc.1]), if_neg hc.2.2]
  | line h hending hrest ih =>
    rw [List.append_assoc, List.append_assoc, skipTrivia_line h hending, ih]

/-! ### Ends of lines -/

/-- What follows a line is its end, or nothing. -/
inductive FollowsLine : List Char → List Char → Prop where
  /-- The end of the line and what follows it. -/
  | ending {ending next : List Char} (h : IsBreak ending) : FollowsLine (ending ++ next) next
  /-- Nothing. -/
  | nothing : FollowsLine [] []

/-- No comment goes on where a line ends. -/
theorem FollowsLine.dropWhile {next : List Char} (h : FollowsLine rest next) :
    rest.dropWhile isCommentChar = rest := by
  cases h with
  | ending h => cases h <;> rfl
  | nothing => rfl

theorem FollowsLine.skipBlanks {next : List Char} (h : FollowsLine rest next) :
    skipBlanks rest = rest := by
  cases h with
  | ending h => cases h <;> rfl
  | nothing => rfl

/-- **What stands behind a statement** is skipped up to the next line. -/
theorem lineEnd_spelled {next : List Char} (h : IsLineTail cs) (hrest : FollowsLine rest next) :
    lineEnd (cs ++ rest) = some next := by
  have hend : skipComment (skipBlanks (cs ++ rest)) = rest := by
    cases h with
    | blanks h =>
      rw [skipBlanks_append h, hrest.skipBlanks]
      cases hrest with
      | ending h => cases h <;> rfl
      | nothing => rfl
    | comment h hwords =>
      rw [List.append_assoc, List.cons_append, skipBlanks_append_cons h (by decide)]
      exact (List.dropWhile_append_of_pos hwords).trans hrest.dropWhile
  rw [lineEnd, hend]
  cases hrest with
  | ending h => cases h <;> rfl
  | nothing => rfl

/-! ### Characters of texts -/

/-- A character behind a backslash. -/
theorem escape_spelled (h : SpellsEscape c cs) : escape (cs ++ rest) = some (c, rest) := by
  cases h with
  | named h =>
    simp only [escapes, List.mem_cons, List.not_mem_nil, or_false, Prod.mk.injEq] at h
    rcases h with ⟨rfl, rfl⟩ | ⟨rfl, rfl⟩ | ⟨rfl, rfl⟩ | ⟨rfl, rfl⟩ | ⟨rfl, rfl⟩ | ⟨rfl, rfl⟩ |
      ⟨rfl, rfl⟩ <;> rfl
  | four hlength h hn =>
    rw [List.cons_append, escape, escape.numbered,
      List.take_append_of_le_length (Nat.le_of_eq hlength.symm),
      List.take_of_length_le (Nat.le_of_eq hlength), if_neg (by omega), h]
    simp [charOf?, hn, hlength.symm]
  | eight hlength h hn =>
    rw [List.cons_append, escape, escape.numbered,
      List.take_append_of_le_length (Nat.le_of_eq hlength.symm),
      List.take_of_length_le (Nat.le_of_eq hlength), if_neg (by omega), h]
    simp [charOf?, hn, hlength.symm]

/-- What follows a backslash and stands for a character is not the end of a line. -/
theorem foldedLine_escape (h : SpellsEscape c cs) : foldedLine (cs ++ rest) = none := by
  cases h with
  | named h =>
    simp only [escapes, List.mem_cons, List.not_mem_nil, or_false, Prod.mk.injEq] at h
    rcases h with ⟨rfl, rfl⟩ | ⟨rfl, rfl⟩ | ⟨rfl, rfl⟩ | ⟨rfl, rfl⟩ | ⟨rfl, rfl⟩ | ⟨rfl, rfl⟩ |
      ⟨rfl, rfl⟩ <;> rfl
  | four => rfl
  | eight => rfl

/-- Something is written for every character. -/
theorem SpellsLetter.ne_nil {cs : List Char} (h : SpellsLetter quote c cs) : cs ≠ [] := by
  cases h <;> simp

/-! ### Texts on one line -/

/-- A character of a text on one line is read. -/
theorem lineText_letter (h : SpellsLetter quote c cs) (fuel : Nat) (read : List Char) :
    lineText quote (fuel + 1) read (cs ++ rest) = lineText quote fuel (c :: read) rest := by
  cases h with
  | plain hquote hback h =>
    have hescape : ¬(c = '\\' ∧ quote = '"') := fun h => hback h.2 h.1
    rw [List.singleton_append, lineText, if_neg hquote, if_neg hescape, if_pos h]
  | escaped hquote h =>
    subst hquote
    rw [List.cons_append, lineText, if_neg (by decide), if_pos ⟨rfl, rfl⟩, escape_spelled h]
    rfl

/-- **A text on one line** is read up to its quote. -/
theorem lineText_spelled {s : List Char} (h : SpellsLetters quote s cs) (read : List Char) :
    ∀ fuel, cs.length < fuel →
      lineText quote fuel read (cs ++ quote :: rest) =
        some (String.ofList (read.reverse ++ s), rest) := by
  induction h generalizing read with
  | nil =>
    intro fuel hfuel
    obtain ⟨fuel, rfl⟩ := Nat.exists_eq_add_one_of_ne_zero (Nat.ne_of_gt hfuel)
    rw [List.nil_append, lineText, if_pos rfl, List.append_nil]
  | @cons c s cs cs' h hrest ih =>
    intro fuel hfuel
    obtain ⟨fuel, rfl⟩ := Nat.exists_eq_add_one_of_ne_zero (Nat.ne_of_gt (Nat.zero_lt_of_lt hfuel))
    have hlength : 0 < cs.length := List.length_pos_iff.2 h.ne_nil
    rw [List.length_append] at hfuel
    rw [List.append_assoc, lineText_letter h, ih _ fuel (by omega), List.reverse_cons,
      List.append_assoc, List.singleton_append]

theorem shortText_spelled {s : String} (h : SpellsShort s cs) :
    shortText (cs ++ rest) = some (s, rest) := by
  cases h with
  | @quoted quote s cs hquote h =>
    have hquote : quote = '"' ∨ quote = '\x27' := hquote
    rw [List.cons_append, List.append_assoc, List.singleton_append, shortText, if_pos hquote,
      lineText_spelled h [] _ (by simp only [List.length_append, List.length_cons]; omega),
      List.reverse_nil, List.nil_append]

/-- Without a quote there is no text. -/
theorem shortText_of_not_isQuote (h : ¬IsQuote c) : shortText (c :: rest) = none :=
  if_neg h

/-! ### Texts on many lines -/

theorem ne_quote_of_isBreak {ending : List Char} (hquote : IsQuote quote) (h : IsBreak ending) :
    (ending ++ rest).head? ≠ some quote := by
  rcases hquote with rfl | rfl <;> cases h <;> simp

/-- The first character of a letter is not the quote. -/
theorem SpellsLetter.head? (h : SpellsLetter quote c cs) : (cs ++ rest).head? ≠ some quote := by
  cases h with
  | plain hquote => simpa using hquote
  | escaped hquote => simp [hquote]

theorem takeWhile_quotes (n : Nat) (h : rest.head? ≠ some quote) :
    (List.replicate n quote ++ rest).takeWhile (· = quote) = List.replicate n quote := by
  have hnone : rest.takeWhile (· = quote) = [] := by
    cases rest with
    | nil => rfl
    | cons c rest => exact List.takeWhile_cons_of_neg (by simpa using h)
  rw [List.takeWhile_append_of_pos (by simp), hnone, List.append_nil]

/-- Up to two quotes do not end a text on many lines. -/
theorem blockText_quotes {n : Nat} (hn : n ≤ 2) (h : rest.head? ≠ some quote) (fuel : Nat)
    (read : List Char) :
    blockText quote (fuel + n) read (List.replicate n quote ++ rest) =
      blockText quote fuel (List.replicate n quote ++ read) rest := by
  induction n generalizing read with
  | zero => rfl
  | succ n ih =>
    have hread : List.replicate n quote ++ quote :: read =
        List.replicate (n + 1) quote ++ read := by
      rw [List.replicate_succ', List.append_assoc, List.singleton_append]
    rw [List.replicate_succ, List.cons_append, ← Nat.add_assoc, blockText.eq_def]
    dsimp only
    rw [if_pos rfl, takeWhile_quotes n h, List.length_replicate, if_pos (by omega), ih (by omega),
      hread, List.replicate_succ]

/-- Up to two quotes may stand in front of the three that end a text on many lines. -/
theorem blockText_end {n : Nat} (hn : n ≤ 2) (h : rest.head? ≠ some quote) (fuel : Nat)
    (read : List Char) :
    blockText quote (fuel + 1) read
        (List.replicate n quote ++ ([quote, quote, quote] ++ rest)) =
      some (String.ofList (read.reverse ++ List.replicate n quote), rest) := by
  have hquotes : List.replicate n quote ++ ([quote, quote, quote] ++ rest) =
      quote :: (List.replicate (n + 2) quote ++ rest) := by
    rw [← List.append_assoc, show [quote, quote, quote] = List.replicate 3 quote from rfl,
      List.replicate_append_replicate, ← List.cons_append, ← List.replicate_succ]
  rw [hquotes, blockText.eq_def]
  dsimp only
  rw [if_pos rfl, takeWhile_quotes _ h, List.length_replicate, if_neg (by omega),
    show min (n + 2 - 2) 2 = n by omega, List.drop_left' (List.length_replicate ..)]
  simp

/-- A character of a text on many lines is read. -/
theorem blockText_letter (h : SpellsLetter quote c cs) (fuel : Nat) (read : List Char) :
    blockText quote (fuel + 1) read (cs ++ rest) = blockText quote fuel (c :: read) rest := by
  cases h with
  | plain hquote hback h =>
    have hescape : ¬(c = '\\' ∧ quote = '"') := fun h => hback h.2 h.1
    have hbreak : NoBreak c := by constructor <;> rintro rfl <;> exact absurd h (by decide)
    rw [List.singleton_append, blockText.eq_def]
    dsimp only
    rw [if_neg hquote, if_neg hescape, if_neg hbreak.1, if_neg hbreak.2, if_pos h]
  | escaped hquote h =>
    subst hquote
    rw [List.cons_append, blockText.eq_def]
    dsimp only
    rw [if_neg (by decide), if_pos ⟨rfl, rfl⟩, foldedLine_escape h]
    dsimp only
    rw [escape_spelled h]
    rfl

/-- The end of a line in a text on many lines is read as a line feed. -/
theorem blockText_break {ending : List Char} (hquote : IsQuote quote) (h : IsBreak ending)
    (fuel : Nat) (read : List Char) :
    blockText quote (fuel + 1) read (ending ++ rest) =
      blockText quote fuel ('\n' :: read) rest := by
  rcases hquote with rfl | rfl <;> cases h <;> rfl

theorem skipFold_gap {gap : List Char} (h : IsGap gap) (hrest : EndsGap rest) :
    foldedLine.skipFold (gap ++ rest) = rest := by
  have hblanks : ∀ {cs more : List Char}, IsBlanks cs →
      foldedLine.skipFold (cs ++ more) = foldedLine.skipFold more := by
    intro cs more h
    induction cs with
    | nil => rfl
    | cons c cs ih =>
      have hc : isBlank c = true := h c List.mem_cons_self
      rw [List.cons_append, foldedLine.skipFold, if_pos hc,
        ih fun d hd => h d (List.mem_cons_of_mem _ hd)]
      · exact (noBreak_of_isBlank hc).1
      · rintro _ rfl
        exact absurd rfl (noBreak_of_isBlank hc).2
  induction h with
  | blanks h =>
    rw [hblanks h]
    cases rest with
    | nil => rfl
    | cons c rest =>
      obtain ⟨hc, hfeed, hreturn⟩ := hrest c rfl
      rw [foldedLine.skipFold, if_neg (by simp [hc])]
      · exact hfeed
      · rintro _ rfl
        exact absurd rfl hreturn
  | line h hending hrest ih =>
    rw [List.append_assoc, hblanks h, List.append_assoc]
    cases hending with
    | feed => rw [List.singleton_append, foldedLine.skipFold, ih]
    | pair => rw [List.cons_append, List.singleton_append, foldedLine.skipFold, ih]

/-- All that is blank behind a backslash at the end of a line is skipped. -/
theorem foldedLine_spelled {blanks ending gap : List Char} (hblanks : IsBlanks blanks)
    (hending : IsBreak ending) (hgap : IsGap gap) (hrest : EndsGap rest) :
    foldedLine (blanks ++ (ending ++ (gap ++ rest))) = some rest := by
  rw [foldedLine, skipBlanks_append hblanks]
  cases hending with
  | feed =>
    rw [List.singleton_append, skipBlanks_cons_of_not (by decide)]
    exact congrArg some (skipFold_gap hgap hrest)
  | pair =>
    rw [List.cons_append, List.singleton_append, skipBlanks_cons_of_not (by decide)]
    exact congrArg some (skipFold_gap hgap hrest)

/-- **A text on many lines** is read up to its three quotes. -/
theorem blockText_spelled {s : List Char} (h : SpellsBlock quote s cs) (hquote : IsQuote quote)
    (hrest : rest.head? ≠ some quote) (read : List Char) :
    ∀ fuel, cs.length < fuel →
      blockText quote fuel read (cs ++ ([quote, quote, quote] ++ rest)) =
        some (String.ofList (read.reverse ++ s), rest) := by
  have hends : EndsGap ([quote, quote, quote] ++ rest) := by
    intro c hc
    obtain rfl : quote = c := by simpa using hc
    rcases hquote with rfl | rfl <;> decide
  induction h generalizing read with
  | quotes hn =>
    intro fuel hfuel
    obtain ⟨fuel, rfl⟩ := Nat.exists_eq_add_one_of_ne_zero (Nat.ne_of_gt (Nat.zero_lt_of_lt hfuel))
    exact blockText_end hn hrest fuel read
  | @letter n c s cs cs' hn h hmore ih =>
    intro fuel hfuel
    have hlength : 0 < cs.length := List.length_pos_iff.2 h.ne_nil
    simp only [List.length_append, List.length_replicate] at hfuel
    obtain ⟨fuel, rfl⟩ : ∃ k, fuel = k + 1 + n := ⟨fuel - 1 - n, by omega⟩
    rw [List.append_assoc, List.append_assoc, blockText_quotes hn h.head?, blockText_letter h,
      ih _ fuel (by omega)]
    simp
  | @line n s ending cs' hn h hmore ih =>
    intro fuel hfuel
    have hlength : 0 < ending.length := by cases h <;> simp
    simp only [List.length_append, List.length_replicate] at hfuel
    obtain ⟨fuel, rfl⟩ : ∃ k, fuel = k + 1 + n := ⟨fuel - 1 - n, by omega⟩
    rw [List.append_assoc, List.append_assoc, blockText_quotes hn (ne_quote_of_isBreak hquote h),
      blockText_break hquote h, ih _ fuel (by omega)]
    simp
  | @fold n s blanks ending gap cs' hn hq hblanks hending hgap hend hmore ih =>
    intro fuel hfuel
    subst hq
    simp only [List.length_append, List.length_replicate, List.length_cons] at hfuel
    obtain ⟨fuel, rfl⟩ : ∃ k, fuel = k + 1 + n := ⟨fuel - 1 - n, by omega⟩
    have hgapEnd : EndsGap (cs' ++ (['"', '"', '"'] ++ rest)) := by
      cases cs' with
      | nil => exact hends
      | cons c cs' => exact hend
    rw [List.append_assoc, List.cons_append, blockText_quotes hn (by simp), blockText.eq_def]
    dsimp only
    rw [if_neg (by decide), if_pos ⟨rfl, rfl⟩]
    simp only [List.append_assoc]
    rw [foldedLine_spelled hblanks hending hgap hgapEnd]
    dsimp only
    rw [ih _ fuel (by omega)]
    simp

/-- The end of a line right behind the quotes is left out. -/
theorem blockStart_break {ending : List Char} (h : IsBreak ending) :
    blockStart quote (ending ++ rest) = blockText quote (ending ++ rest).length [] rest := by
  cases h <;> rfl

theorem blockStart_of_ne (h : ∀ ending more, IsBreak ending → rest ≠ ending ++ more) :
    blockStart quote rest = blockText quote rest.length [] rest := by
  unfold blockStart
  split
  · exact absurd rfl (h ['\n'] _ .feed)
  · exact absurd rfl (h ['\r', '\n'] _ .pair)
  · rfl

/-- Three quotes begin a text on many lines. -/
theorem text_block (hquote : IsQuote quote) :
    text (quote :: quote :: quote :: rest) = blockStart quote rest := by
  rcases hquote with rfl | rfl <;> rfl

/-- What does not begin with three quotes is a text on one line. -/
theorem text_short (h : ∀ quote more, IsQuote quote → rest ≠ quote :: quote :: quote :: more) :
    text rest = shortText rest := by
  unfold text
  split
  · exact absurd rfl (h '"' _ (.inl rfl))
  · exact absurd rfl (h '\x27' _ (.inr rfl))
  · rfl

/-- A text on one line and what follows it do not begin with three quotes. -/
theorem SpellsShort.ne_quotes {s : String} (h : SpellsShort s cs)
    (hrest : ∀ q, IsQuote q → rest.head? ≠ some q) (q : Char) (more : List Char) (hq : IsQuote q) :
    cs ++ rest ≠ q :: q :: q :: more := by
  cases h with
  | @quoted quote s cs hquote h =>
    intro heq
    rw [List.cons_append, List.append_assoc, List.cons.injEq] at heq
    obtain ⟨rfl, heq⟩ := heq
    cases h with
    | nil =>
      obtain heq : rest = quote :: more := (List.cons.inj heq).2
      exact hrest quote hq (by rw [heq]; rfl)
    | cons h _ =>
      rw [List.append_assoc] at heq
      exact h.head? (congrArg List.head? heq)

/-- The end of a line is in front of a text on many lines only if it is the first of it. -/
theorem ne_break_append (hquote : IsQuote quote)
    (hfirst : ∀ ending more, IsBreak ending → cs ≠ ending ++ more) (ending more : List Char)
    (hending : IsBreak ending) : cs ++ ([quote, quote, quote] ++ rest) ≠ ending ++ more := by
  intro heq
  cases cs with
  | nil => exact ne_quote_of_isBreak hquote hending (congrArg List.head? heq).symm
  | cons c cs =>
    cases hending with
    | feed =>
      obtain ⟨rfl, -⟩ := List.cons.inj heq
      exact hfirst ['\n'] cs .feed rfl
    | pair =>
      obtain ⟨rfl, htail⟩ := List.cons.inj heq
      cases cs with
      | nil => rcases hquote with rfl | rfl <;> simp at htail
      | cons d cs =>
        obtain ⟨rfl, -⟩ := List.cons.inj htail
        exact hfirst ['\r', '\n'] cs .pair rfl

/-- **A text** is read, whatever follows it but a quote. -/
theorem text_spelled {s : String} (h : SpellsText s cs)
    (hrest : ∀ q, IsQuote q → rest.head? ≠ some q) : text (cs ++ rest) = some (s, rest) := by
  cases h with
  | short h => rw [text_short (h.ne_quotes hrest), shortText_spelled h]
  | @block quote s cs hquote h hfirst =>
    rw [List.cons_append, List.cons_append, List.cons_append, List.append_assoc,
      text_block hquote, blockStart_of_ne (ne_break_append hquote hfirst),
      blockText_spelled h hquote (hrest quote hquote) [] _ (by simp), List.reverse_nil,
      List.nil_append]
  | @below quote s ending cs hquote hending h =>
    rw [List.cons_append, List.cons_append, List.cons_append, List.append_assoc, List.append_assoc,
      text_block hquote, blockStart_break hending,
      blockText_spelled h hquote (hrest quote hquote) [] _ (by simp; omega), List.reverse_nil,
      List.nil_append]

/-! ### Keys -/

/-- What has a property is read up to where something without it follows. -/
theorem span_append {p : Char → Bool} (h : ∀ c ∈ cs, p c = true)
    (hrest : ∀ c, rest.head? = some c → p c = false) :
    (cs ++ rest).takeWhile p = cs ∧ (cs ++ rest).dropWhile p = rest := by
  rw [List.takeWhile_append_of_pos h, List.dropWhile_append_of_pos h]
  cases rest with
  | nil => simp
  | cons c rest => simp [hrest c rfl]

/-- A character that no key goes on with. -/
def EndsKey (rest : List Char) : Prop := ∀ c, rest.head? = some c → isKeyChar c = false

theorem not_isQuote_of_isKeyChar (h : isKeyChar c = true) : ¬IsQuote c := by
  rintro (rfl | rfl) <;> exact absurd h (by decide)

theorem keyPart_spelled {s : String} (h : SpellsKeyPart s cs) (hrest : EndsKey rest) :
    keyPart (cs ++ rest) = some (s, rest) := by
  cases h with
  | bare hne h =>
    obtain ⟨c, cs, rfl⟩ := List.exists_cons_of_ne_nil hne
    have hshort : shortText (c :: cs ++ rest) = none :=
      shortText_of_not_isQuote (not_isQuote_of_isKeyChar (h c List.mem_cons_self))
    obtain ⟨htake, hdrop⟩ := span_append h hrest
    rw [keyPart, hshort, htake, hdrop]
  | quoted h => rw [keyPart, shortText_spelled h]

/-- A character that a part of a key begins with. -/
def StartsKey (c : Char) : Prop := IsQuote c ∨ isKeyChar c = true

theorem StartsKey.isBlank (h : StartsKey c) : isBlank c = false := by
  rcases hblank : Toml.isBlank c with _ | _
  · rfl
  · rcases isBlank_iff.1 hblank with rfl | rfl <;>
      exact absurd h (by simp only [StartsKey, IsQuote]; decide)

theorem SpellsKeyPart.exists_cons {s : String} (h : SpellsKeyPart s cs) :
    ∃ c cs', cs = c :: cs' ∧ StartsKey c := by
  cases h with
  | bare hne h =>
    obtain ⟨c, cs, rfl⟩ := List.exists_cons_of_ne_nil hne
    exact ⟨c, cs, rfl, .inr (h c List.mem_cons_self)⟩
  | quoted h =>
    cases h with
    | quoted hquote h => exact ⟨_, _, rfl, .inl hquote⟩

/-- A key begins with a part, after blanks. -/
theorem SpellsKey.skipBlanks {path : List String} (h : SpellsKey path cs) (rest : List Char) :
    ∃ c cs', skipBlanks (cs ++ rest) = c :: cs' ∧ StartsKey c := by
  have hpart : ∀ {s : String} {front part more : List Char}, IsBlanks front →
      SpellsKeyPart s part → ∃ c cs', Toml.skipBlanks (front ++ (part ++ more)) = c :: cs' ∧
        StartsKey c := by
    intro s front part more hfront hpart
    obtain ⟨c, cs', rfl, hc⟩ := hpart.exists_cons
    exact ⟨c, cs' ++ more, skipBlanks_append_cons hfront hc.isBlank, hc⟩
  cases h with
  | last hfront h hback =>
    rw [List.append_assoc, List.append_assoc]
    exact hpart hfront h
  | dotted hfront h hback hrest =>
    rw [List.append_assoc, List.append_assoc]
    exact hpart hfront h

theorem endsKey_blanks (h : IsBlanks cs) (hrest : EndsKey rest) : EndsKey (cs ++ rest) := by
  cases cs with
  | nil => exact hrest
  | cons c cs =>
    intro d hd
    obtain rfl : c = d := by simpa using hd
    rcases isBlank_iff.1 (h c List.mem_cons_self) with rfl | rfl <;> rfl

/-- Blanks in front of a key make no difference. -/
theorem keyParts_skipBlanks (fuel : Nat) (cs : List Char) :
    keyParts fuel (skipBlanks cs) = keyParts fuel cs := by
  cases fuel with
  | zero => rfl
  | succ fuel => rw [keyParts, keyParts, skipBlanks_skipBlanks]

theorem keyParts_spelled {path : List String} (h : SpellsKey path cs) (hc : isBlank c = false)
    (hkey : isKeyChar c = false) (hdot : c ≠ '.') :
    ∀ fuel, path.length ≤ fuel → keyParts fuel (cs ++ c :: rest) = some (path, c :: rest) := by
  induction h with
  | last hfront h hback =>
    intro fuel hfuel
    obtain ⟨fuel, rfl⟩ := Nat.exists_eq_add_one_of_ne_zero (Nat.ne_of_gt hfuel)
    obtain ⟨d, cs', rfl, hd⟩ := h.exists_cons
    have hends : EndsKey (c :: rest) := fun d hd => by
      obtain rfl : c = d := by simpa using hd
      exact hkey
    rw [List.append_assoc, List.append_assoc, keyParts, List.cons_append,
      skipBlanks_append_cons hfront hd.isBlank, ← List.cons_append,
      keyPart_spelled h (endsKey_blanks hback hends)]
    simp only [Option.bind_eq_bind, Option.bind_some]
    rw [skipBlanks_append_cons hback hc]
    split
    · rename_i heq
      exact absurd (List.cons.inj heq).1 hdot
    · rfl
  | @dotted s path front part back cs' hfront h hback hmore ih =>
    intro fuel hfuel
    obtain ⟨fuel, rfl⟩ := Nat.exists_eq_add_one_of_ne_zero (Nat.ne_of_gt (Nat.zero_lt_of_lt hfuel))
    obtain ⟨d, part, rfl, hd⟩ := h.exists_cons
    have hends : EndsKey ('.' :: (cs' ++ c :: rest)) := fun d hd => by
      obtain rfl : '.' = d := by simpa using hd
      rfl
    rw [List.append_assoc, List.append_assoc, List.append_assoc, List.cons_append, keyParts,
      List.cons_append, skipBlanks_append_cons hfront hd.isBlank, ← List.cons_append,
      keyPart_spelled h (endsKey_blanks hback hends)]
    simp only [Option.bind_eq_bind, Option.bind_some]
    rw [skipBlanks_append_cons hback (by decide)]
    change (keyParts fuel (cs' ++ c :: rest)).bind _ = _
    rw [ih fuel (by simpa using hfuel)]
    rfl

/-- **A key** is read, up to a character that is not part of one. -/
theorem key_spelled {path : List String} (h : SpellsKey path cs)
    (hlength : path.length < depthLimit)
    (hc : isBlank c = false) (hkey : isKeyChar c = false) (hdot : c ≠ '.') :
    key (cs ++ c :: rest) = some (path, c :: rest) :=
  keyParts_spelled h hc hkey hdot _ (Nat.le_sub_one_of_lt hlength)

/-! ### Runs -/

/-- What may stand behind a value, blanks aside. -/
def stops : List Char := [',', ']', '\x7d', '#', '\n', '\r']

theorem not_isBlank_of_mem_stops (h : c ∈ stops) : isBlank c = false := by
  simp only [stops, List.mem_cons, List.not_mem_nil, or_false] at h
  rcases h with rfl | rfl | rfl | rfl | rfl | rfl <;> rfl

theorem not_isRunChar_of_mem_stops (h : c ∈ stops) : isRunChar c = false := by
  simp only [stops, List.mem_cons, List.not_mem_nil, or_false] at h
  rcases h with rfl | rfl | rfl | rfl | rfl | rfl <;> rfl

/-- A value in front of a text ends there. -/
def Ends (rest : List Char) : Prop := ∀ c, (skipBlanks rest).head? = some c → c ∈ stops

theorem ends_nil : Ends [] := fun c h => by simp [skipBlanks] at h

theorem ends_cons (h : c ∈ stops) : Ends (c :: rest) := by
  intro d hd
  rw [skipBlanks_cons_of_not (not_isBlank_of_mem_stops h)] at hd
  obtain rfl : c = d := by simpa using hd
  exact h

theorem Ends.blanks (hrest : Ends rest) (h : IsBlanks cs) : Ends (cs ++ rest) := by
  intro c hc
  rw [skipBlanks_append h] at hc
  exact hrest c hc

/-- Right behind a value stands a blank or one of the other characters. -/
theorem Ends.head? (h : Ends rest) (hc : rest.head? = some c) : isBlank c = true ∨ c ∈ stops := by
  rcases hblank : isBlank c with _ | _
  · obtain ⟨more, rfl⟩ : ∃ more, rest = c :: more := List.head?_eq_some_iff.1 hc
    exact .inr (h c (by rw [skipBlanks_cons_of_not hblank]; rfl))
  · exact .inl rfl

theorem Ends.not_isRunChar (h : Ends rest) (hc : rest.head? = some c) : isRunChar c = false := by
  rcases h.head? hc with hc | hc
  · rcases isBlank_iff.1 hc with rfl | rfl <;> rfl
  · exact not_isRunChar_of_mem_stops hc

theorem Ends.ne_quote (h : Ends rest) (q : Char) (hq : IsQuote q) : rest.head? ≠ some q := by
  intro hc
  rcases h.head? hc with hc | hc
  · rcases isBlank_iff.1 hc with rfl | rfl <;> exact absurd hq (by simp [IsQuote])
  · rcases hq with rfl | rfl <;> exact absurd hc (by decide)

/-- No time follows where a value ends. -/
theorem Ends.skipTimeAfterDate (h : Ends rest) : skipTimeAfterDate rest = rest := by
  unfold Toml.skipTimeAfterDate
  split
  · rename_i more
    have hmore : more.takeWhile isRunChar = [] := by
      cases more with
      | nil => rfl
      | cons c more =>
        have hends : Ends (c :: more) := fun d hd => h d hd
        exact List.takeWhile_cons_of_neg (by simp [hends.not_isRunChar rfl])
    rw [hmore, if_neg (by decide)]
  · rfl

/-- **A run** is read, up to where a value ends. -/
theorem scalar_spelled {v : Node} (h : SpellsScalar v cs) (hrest : Ends rest) :
    scalar (cs ++ rest) = some (v, rest) := by
  obtain ⟨hrun, hscalar⟩ := h
  obtain ⟨htake, hdrop⟩ := span_append hrun fun c => hrest.not_isRunChar
  obtain ⟨htakeAll, hdropAll⟩ := span_append hrun (show ∀ c, [].head? = some c → _ by simp)
  rw [List.append_nil] at htakeAll hdropAll
  unfold scalar at hscalar ⊢
  rw [htake, hdrop]
  rw [htakeAll, hdropAll] at hscalar
  dsimp only at hscalar ⊢
  by_cases htrue : cs = ['t', 'r', 'u', 'e']
  · rw [if_pos htrue] at hscalar ⊢
    simp_all
  by_cases hfalse : cs = ['f', 'a', 'l', 's', 'e']
  · rw [if_neg htrue, if_pos hfalse] at hscalar ⊢
    simp_all
  rw [if_neg htrue, if_neg hfalse] at hscalar ⊢
  by_cases hdate : isDate cs
  · rw [if_pos hdate] at hscalar ⊢
    rw [hrest.skipTimeAfterDate]
    simp_all [skipTimeAfterDate]
  by_cases hmoment : isMoment cs
  · rw [if_neg hdate, if_pos hmoment] at hscalar ⊢
    simp_all
  rw [if_neg hdate, if_neg hmoment] at hscalar ⊢
  rcases hinteger : integer? cs with _ | n
  · rw [hinteger] at hscalar
    rcases hreal : real? cs with _ | r
    · simp [hreal] at hscalar
    · simp_all
  · simp_all

end Toml

end ModuleBuild
