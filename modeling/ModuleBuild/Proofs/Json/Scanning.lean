import ModuleBuild.Json.Reader
import ModuleBuild.Proofs.Json.Grammar

/-!
# The tokens of JSON texts

The scanner takes every spelling of a part of a document apart into the tokens of that part. A
number ends where no more of it can follow, so it matters what stands behind a part; behind a number
in a document that is a blank, a comma, a closing mark, or the end of the text.

## Main definitions

* `Json.Ends` — a number in front of a text ends there

## Main results

* `Json.scanNumber_spelled`, `Json.scanText_spelled` — the tokens of numbers and texts
* `Json.Spells.tokens` — the tokens of a part of a document
* `Json.Document.tokens` — the tokens of a document
-/

namespace ModuleBuild

namespace Json

/-! ### Numbers -/

/-- A number in front of a text ends there. -/
def Ends (rest : List Char) : Prop :=
  ∀ c, rest.head? = some c → isDigit c = false ∧ c ≠ '.' ∧ c ≠ 'e' ∧ c ≠ 'E'

theorem ends_nil : Ends [] := fun c h => by simp at h

theorem ends_cons {c : Char} {rest : List Char} (hdigit : isDigit c = false) (hpoint : c ≠ '.')
    (he : c ≠ 'e') (hE : c ≠ 'E') : Ends (c :: rest) := by
  intro d h
  obtain rfl : c = d := by simpa using h
  exact ⟨hdigit, hpoint, he, hE⟩

theorem Ends.takeWhile {rest : List Char} (h : Ends rest) : rest.takeWhile isDigit = [] := by
  cases rest with
  | nil => rfl
  | cons c rest => simp [(h c rfl).1]

/-- Digits are read up to where a number ends. -/
theorem IsDigits.span {digits rest : List Char} (h : IsDigits digits)
    (hrest : rest.takeWhile isDigit = []) :
    (digits ++ rest).takeWhile isDigit = digits ∧ (digits ++ rest).dropWhile isDigit = rest := by
  have hdrop : rest.dropWhile isDigit = rest := by
    have := List.takeWhile_append_dropWhile (p := isDigit) (l := rest)
    rwa [hrest, List.nil_append] at this
  rw [List.takeWhile_append_of_pos h.2, List.dropWhile_append_of_pos h.2, hrest, hdrop]
  simp

/-- A digit is no sign, point or mark. -/
theorem ne_of_isDigit {c d : Char} (hc : isDigit c = true) (hd : isDigit d = false) : c ≠ d := by
  rintro rfl
  simp [hc] at hd

theorem scanExponent_spelled {n : Numeral} {down : Bool} {sign digits rest : List Char}
    (hsign : SpellsSign down sign) (h : IsDigits digits) (hrest : Ends rest) :
    scanExponent n (sign ++ (digits ++ rest)) =
      (.number { n with exponent := some (down, digits) }, rest) := by
  obtain ⟨htake, hdrop⟩ := h.span hrest.takeWhile
  obtain ⟨d, ds, rfl⟩ := List.exists_cons_of_ne_nil h.1
  have hd : isDigit d = true := h.2 d List.mem_cons_self
  rw [List.cons_append] at htake hdrop ⊢
  unfold scanExponent
  cases hsign with
  | absent =>
    split
    rename_i heq
    split at heq
    · rename_i hcons
      exact absurd (List.cons.inj hcons).1 (ne_of_isDigit hd (by decide))
    · rename_i hcons
      exact absurd (List.cons.inj hcons).1 (ne_of_isDigit hd (by decide))
    · obtain ⟨rfl, rfl⟩ := Prod.mk.inj heq
      simp only [List.nil_append, htake, hdrop]
  | plus => simp only [List.cons_append, List.nil_append, htake, hdrop]
  | minus => simp only [List.cons_append, List.nil_append, htake, hdrop]

theorem scanAfterDigits_spelled {n : Numeral} {exponent : Option (Bool × List Char)}
    {cs rest : List Char} (h : SpellsExponent exponent cs) (hn : n.exponent = none)
    (hrest : Ends rest) :
    scanAfterDigits n (cs ++ rest) = (.number { n with exponent }, rest) := by
  cases h with
  | absent =>
    rw [List.nil_append]
    unfold scanAfterDigits
    split
    · exact absurd rfl (hrest 'e' rfl).2.2.1
    · exact absurd rfl (hrest 'E' rfl).2.2.2
    · rw [← hn]
  | present hmark hsign hdigits =>
    rw [List.cons_append, List.append_assoc]
    rcases hmark with rfl | rfl
    · exact scanExponent_spelled hsign hdigits hrest
    · exact scanExponent_spelled hsign hdigits hrest

/-- No digit follows the digits of a part of a number. -/
theorem SpellsExponent.takeWhile {exponent : Option (Bool × List Char)} {cs rest : List Char}
    (h : SpellsExponent exponent cs) (hrest : Ends rest) :
    (cs ++ rest).takeWhile isDigit = [] := by
  cases h with
  | absent => exact hrest.takeWhile
  | present hmark hsign hdigits => rcases hmark with rfl | rfl <;> rfl

theorem scanAfterWhole_spelled {n : Numeral} {fraction : Option (List Char)}
    {exponent : Option (Bool × List Char)} {cs cs' rest : List Char}
    (h : SpellsFraction fraction cs) (h' : SpellsExponent exponent cs')
    (hfraction : n.fraction = none) (hexponent : n.exponent = none) (hrest : Ends rest) :
    scanAfterWhole n (cs ++ (cs' ++ rest)) = (.number { n with fraction, exponent }, rest) := by
  cases h with
  | absent =>
    have hscan := scanAfterDigits_spelled h' hexponent hrest
    rw [List.nil_append]
    unfold scanAfterWhole
    split
    · rename_i rest' hpoint
      cases h' with
      | absent => exact absurd rfl (hrest '.' (congrArg List.head? hpoint)).2.1
      | present hmark => rcases hmark with rfl | rfl <;> exact absurd hpoint (by simp)
    · rw [hscan, ← hfraction]
  | present hdigits =>
    obtain ⟨htake, hdrop⟩ := hdigits.span (h'.takeWhile hrest)
    rw [List.cons_append, scanAfterWhole]
    simp only [htake, hdrop]
    split
    · exact absurd rfl hdigits.1
    · exact scanAfterDigits_spelled h' hexponent hrest

/-- **A number** is read up to where it ends. -/
theorem scanNumber_spelled {n : Numeral} {fraction exponent rest : List Char}
    (hwhole : IsWhole n.whole) (hfraction : SpellsFraction n.fraction fraction)
    (hexponent : SpellsExponent n.exponent exponent) (hrest : Ends rest) :
    scanNumber n.negative (n.whole ++ (fraction ++ (exponent ++ rest))) = (.number n, rest) := by
  obtain ⟨negative, whole, digits?, exponent?⟩ := n
  dsimp only at hwhole hfraction hexponent ⊢
  have hnone : (fraction ++ (exponent ++ rest)).takeWhile isDigit = [] := by
    cases hfraction with
    | absent => exact hexponent.takeWhile hrest
    | present hdigits => rfl
  obtain ⟨htake, hdrop⟩ := hwhole.1.span hnone
  rw [scanNumber]
  simp only [htake, hdrop]
  split
  · exact absurd rfl hwhole.1.1
  · exact absurd (hwhole.2 rfl) (by simp)
  · exact scanAfterWhole_spelled hfraction hexponent rfl rfl hrest

/-! ### Texts -/

section

variable (read : List Char) (high : Option Nat) (half : Bool) (rest : List Char)

/-- The quote at the end of a text. -/
theorem scanText_quote : scanText read high half ('"' :: rest) =
    (if half || high.isSome then .halfText else .text (String.ofList read.reverse), rest) := by
  rw [scanText.eq_def]
  simp only [if_pos]

/-- A character that stands for itself. -/
theorem scanText_plain {c : Char} (hquote : c ≠ '"') (hback : c ≠ '\\')
    (hcontrol : 0x20 ≤ c.toNat) :
    scanText read high half (c :: rest) =
      scanText (c :: read) none (half || high.isSome) rest := by
  rw [scanText.eq_def]
  dsimp only
  rw [if_neg hquote, if_neg hback, if_neg (Nat.not_lt.2 hcontrol)]

/-- A character that is written as a backslash and a letter. -/
theorem scanText_escaped {e c : Char} (h : (e, c) ∈ escapes) :
    scanText read high half ('\\' :: e :: rest) =
      scanText (c :: read) none (half || high.isSome) rest := by
  have hescaped : escaped? e = some c ∧ e ≠ 'u' := by
    simp only [escapes, List.mem_cons, List.not_mem_nil, or_false, Prod.mk.injEq] at h
    rcases h with ⟨rfl, rfl⟩ | ⟨rfl, rfl⟩ | ⟨rfl, rfl⟩ | ⟨rfl, rfl⟩ | ⟨rfl, rfl⟩ | ⟨rfl, rfl⟩ |
      ⟨rfl, rfl⟩ | ⟨rfl, rfl⟩ <;> decide
  rw [scanText.eq_def]
  dsimp only
  rw [if_neg (by decide), if_pos rfl, if_neg hescaped.2, hescaped.1]

/-- A code unit, which may be one half of a pair. -/
theorem scanText_code {a b c d : Char} {n : Nat} (h : fourDigits? a b c d = some n) :
    scanText read high half ('\\' :: 'u' :: a :: b :: c :: d :: rest) =
      match high with
      | some first =>
        if isLowHalf n then scanText (pairChar first n :: read) none half rest
        else scanText read none true rest
      | none =>
        if isHighHalf n then scanText read (some n) half rest
        else if isLowHalf n then scanText read none true rest
        else scanText (Char.ofNat n :: read) none half rest := by
  rw [scanText.eq_def]
  dsimp only
  rw [if_neg (by decide), if_pos rfl, if_pos rfl]
  cases high <;> simp only [h]

end

/-- Half a pair that waits for the other half is spelled in front of the letters that follow. -/
def awaiting : Option Nat → List Letter → List Letter
  | some n, letters => .code n :: letters
  | none, letters => letters

/-- The token of a text after the characters that have been read. -/
def textAfter (read : List Char) : Option (List Char) → Token
  | some cs => .text (String.ofList (read.reverse ++ cs))
  | none => .halfText

theorem textAfter_cons (read : List Char) (c : Char) (cs : Option (List Char)) :
    textAfter (c :: read) cs = textAfter read (cs.map (c :: ·)) := by
  cases cs <;> simp [textAfter]

/-- After a character no half of a pair is waited for, and one that has waited stands alone. -/
theorem textAfter_char (read : List Char) {high : Option Nat} (half : Bool) (c : Char)
    (letters : List Letter) (hhigh : ∀ n ∈ high, isHighHalf n = true) :
    textAfter (c :: read)
        (if half || high.isSome then none else Letter.read? (awaiting none letters)) =
      textAfter read
        (if half then none else Letter.read? (awaiting high (.char c :: letters))) := by
  rw [textAfter_cons]
  cases high with
  | none => cases half <;> simp [awaiting, Letter.read?]
  | some n =>
    rw [awaiting, Letter.read?_high (hhigh n rfl) (by simp)]
    cases half <;> rfl

/-- **A text** is read up to its closing quote. `half` says whether half a pair has stood alone
before. -/
theorem scanText_spelled {letters : List Letter} {cs : List Char}
    (h : SpellsLetters letters cs) (rest : List Char) :
    ∀ (read : List Char) (high : Option Nat) (half : Bool),
      (∀ n ∈ high, isHighHalf n = true) →
      scanText read high half (cs ++ '"' :: rest) =
        (textAfter read (if half then none else Letter.read? (awaiting high letters)), rest) := by
  have hnone : ∀ n ∈ (none : Option Nat), isHighHalf n = true := fun _ h => by simp at h
  induction h with
  | nil =>
    intro read high half hhigh
    rw [List.nil_append, scanText_quote]
    cases high with
    | none => cases half <;> simp [awaiting, textAfter, Letter.read?]
    | some n =>
      rw [awaiting, Letter.read?_high (hhigh n rfl) (by simp)]
      cases half <;> rfl
  | @cons letter letters cs cs' hletter hrest ih =>
    intro read high half hhigh
    rw [List.append_assoc]
    cases hletter with
    | @plain c hquote hback hcontrol =>
      rw [List.singleton_append, scanText_plain _ _ _ _ hquote hback hcontrol, ih _ _ _ hnone,
        textAfter_char read half c letters hhigh]
    | @escaped e c he =>
      rw [List.cons_append, List.singleton_append, scanText_escaped _ _ _ _ he, ih _ _ _ hnone,
        textAfter_char read half c letters hhigh]
    | @code a b c d i j k l ha hb hc hd =>
      have hdigits : fourDigits? a b c d = some (4096 * i + 256 * j + 16 * k + l) := by
        simp [fourDigits?, ha, hb, hc, hd]
      generalize 4096 * i + 256 * j + 16 * k + l = n at hdigits
      simp only [List.cons_append, List.nil_append]
      rw [scanText_code _ _ _ _ hdigits]
      rcases hlow : isLowHalf n with _ | _
      · rcases high with _ | first
        · rcases hn : isHighHalf n with _ | _
          · simp only [Bool.false_eq_true, if_false]
            rw [ih _ _ _ hnone, textAfter_cons, awaiting, awaiting, Letter.read?_single hn hlow]
            cases half <;> rfl
          · simp only [if_true]
            rw [ih _ (some n) _ (fun m hm => by obtain rfl := Option.some.inj hm; exact hn)]
            rfl
        · simp only [Bool.false_eq_true, if_false]
          rw [ih _ _ _ hnone, awaiting, Letter.read?_high (hhigh first rfl) (by simp [hlow])]
          cases half <;> rfl
      · rcases high with _ | first
        · simp only [Letter.not_isHighHalf_of_isLowHalf hlow, Bool.false_eq_true, if_false, if_true]
          rw [ih _ _ _ hnone, awaiting, awaiting, Letter.read?_low hlow]
          cases half <;> rfl
        · simp only [if_true]
          rw [ih _ _ _ hnone, textAfter_cons, awaiting, awaiting,
            Letter.read?_pair (hhigh first rfl) hlow]
          cases half <;> rfl

/-! ### Parts of documents -/

section

variable {c : Char} {cs rest : List Char}

theorem isSpace_of_mem (h : IsBlanks cs) (hc : c ∈ cs) : isSpace c = true := by
  rcases h c hc with rfl | rfl | rfl | rfl <;> rfl

/-- Blanks are no tokens. -/
theorem tokens_blanks (h : IsBlanks cs) : tokens (cs ++ rest) = tokens rest := by
  induction cs with
  | nil => rfl
  | cons c cs ih =>
    rw [List.cons_append, tokens, if_pos (isSpace_of_mem h List.mem_cons_self),
      ih fun d hd => h d (List.mem_cons_of_mem _ hd)]

/-- A character that is no blank begins a token. -/
theorem tokens_cons (h : isSpace c = false) :
    tokens (c :: rest) = (scan c rest).1 :: tokens (scan c rest).2 := by
  rw [tokens, if_neg (by simp [h])]

/-- A number ends where blanks begin. -/
theorem ends_blanks (h : IsBlanks cs) (hrest : Ends rest) : Ends (cs ++ rest) := by
  cases cs with
  | nil => exact hrest
  | cons c cs =>
    have hc := h c List.mem_cons_self
    refine ends_cons ?_ ?_ ?_ ?_ <;> rcases hc with rfl | rfl | rfl | rfl <;> decide

/-- A number ends where a comma or the end of a list or of an object follows. -/
theorem ends_more {p : Part} (h : Spells p cs)
    (hp : (∃ l, p = .moreItems l) ∨ ∃ l, p = .moreFields l) (hrest : Ends rest) :
    Ends (cs ++ rest) := by
  cases h with
  | noMoreItems => exact hrest
  | noMoreFields => exact hrest
  | moreItems => exact ends_cons rfl (by decide) (by decide) (by decide)
  | moreFields => exact ends_cons rfl (by decide) (by decide) (by decide)
  | _ => simp at hp

/-- A digit is none of the marks that begin another token. -/
theorem scan_digit (h : isDigit c = true) : scan c rest = scanNumber false (c :: rest) := by
  unfold scan
  split
  case h_12 => rw [if_pos h]
  all_goals exact absurd h (by decide)

/-- The token of a number. -/
theorem tokens_numeral {n : Numeral} (h : SpellsNumeral n cs) (hrest : Ends rest) :
    tokens (cs ++ rest) = .number n :: tokens rest := by
  obtain ⟨fraction, exponent, hfraction, hexponent, rfl⟩ := h.rest
  have hscan := scanNumber_spelled h.whole hfraction hexponent hrest
  obtain ⟨d, ds, hd⟩ := List.exists_cons_of_ne_nil h.whole.1.1
  have hdigit : isDigit d = true := h.whole.1.2 d (by simp [hd])
  have hspace : isSpace d = false := by
    rcases hspace : isSpace d with _ | _
    · rfl
    · simp only [isSpace, Bool.or_eq_true, beq_iff_eq] at hspace
      rcases hspace with ((rfl | rfl) | rfl) | rfl <;> exact absurd hdigit (by decide)
  simp only [List.append_assoc]
  rcases hsign : n.negative with _ | _
  · simp only [hsign, Bool.false_eq_true, if_false, List.nil_append, hd,
      List.cons_append] at hscan ⊢
    rw [tokens_cons hspace, scan_digit hdigit, hscan]
  · simp only [hsign, if_true] at hscan ⊢
    rw [List.singleton_append, tokens_cons rfl, scan, hscan]

/-- The token of a text. -/
theorem tokens_text {s : Option String} (h : SpellsText s cs) :
    tokens (cs ++ rest) = textToken s :: tokens rest := by
  cases h with
  | @quoted letters cs hletters =>
    have hscan := scanText_spelled hletters rest [] none false (fun _ h => by simp at h)
    rw [List.cons_append, List.append_assoc, List.singleton_append, tokens_cons rfl, scan, hscan]
    rcases hread : Letter.read? letters with _ | cs <;> simp [awaiting, hread, textAfter, textToken]

/-- **The tokens of a part of a document.** -/
theorem Spells.tokens {p : Part} (h : Spells p cs) :
    ∀ {rest : List Char}, Ends rest → tokens (cs ++ rest) = p.words ++ tokens rest := by
  have hbracket : ∀ rest, Ends (']' :: rest) := fun rest =>
    ends_cons rfl (by decide) (by decide) (by decide)
  have hbrace : ∀ rest, Ends ('\x7d' :: rest) := fun rest =>
    ends_cons rfl (by decide) (by decide) (by decide)
  induction h with
  | null | yes | no =>
    intro rest hrest
    simp only [List.cons_append, List.nil_append]
    rw [tokens_cons rfl]
    rfl
  | number h => intro rest hrest; exact tokens_numeral h hrest
  | text h => intro rest hrest; exact tokens_text h
  | list h ih =>
    intro rest hrest
    rw [List.cons_append, List.append_assoc, List.singleton_append, tokens_cons rfl, scan,
      ih (hbracket rest), tokens_cons rfl]
    simp [Part.words, Tree.words, scan]
  | object h ih =>
    intro rest hrest
    rw [List.cons_append, List.append_assoc, List.singleton_append, tokens_cons rfl, scan,
      ih (hbrace rest), tokens_cons rfl]
    simp [Part.words, Tree.words, scan]
  | element hfront h hback ih =>
    intro rest hrest
    rw [List.append_assoc, List.append_assoc, tokens_blanks hfront, ih (ends_blanks hback hrest),
      tokens_blanks hback]
    rfl
  | noItems h => intro rest hrest; exact tokens_blanks h
  | items h hmore ih ihmore =>
    intro rest hrest
    rw [List.append_assoc, ih (ends_more hmore (.inl ⟨_, rfl⟩) hrest), ihmore hrest]
    simp [Part.words, itemWords]
  | noMoreItems => intro rest hrest; rfl
  | moreItems h hmore ih ihmore =>
    intro rest hrest
    rw [List.cons_append, List.append_assoc, tokens_cons rfl, scan,
      ih (ends_more hmore (.inl ⟨_, rfl⟩) hrest), ihmore hrest]
    simp [Part.words, moreItemWords]
  | member hfront hkey hback h ih =>
    intro rest hrest
    simp only [List.append_assoc]
    rw [tokens_blanks hfront, tokens_text hkey, tokens_blanks hback, List.cons_append,
      tokens_cons rfl, scan, ih hrest]
    simp [Part.words]
  | noFields h => intro rest hrest; exact tokens_blanks h
  | @fields f l cs cs' h hmore ih ihmore =>
    intro rest hrest
    obtain ⟨k, v⟩ := f
    rw [List.append_assoc, ih (ends_more hmore (.inr ⟨_, rfl⟩) hrest), ihmore hrest]
    simp [Part.words, fieldWords]
  | noMoreFields => intro rest hrest; rfl
  | @moreFields f l cs cs' h hmore ih ihmore =>
    intro rest hrest
    obtain ⟨k, v⟩ := f
    rw [List.cons_append, List.append_assoc, tokens_cons rfl, scan,
      ih (ends_more hmore (.inr ⟨_, rfl⟩) hrest), ihmore hrest]
    simp [Part.words, moreFieldWords]

end

/-- **The tokens of a document.** -/
theorem Document.tokens {v : Tree} {text : String} (h : Document v text) :
    Json.tokens text.toList = v.words := by
  have hwords := Spells.tokens h ends_nil
  rwa [List.append_nil, Json.tokens, List.append_nil] at hwords

/-- The empty text is no document. -/
theorem not_document_empty (v : Tree) : ¬ Document v "" := by
  intro h
  have hwords := h.tokens
  rw [String.toList_empty, Json.tokens] at hwords
  cases v <;> cases hwords

end Json

end ModuleBuild
