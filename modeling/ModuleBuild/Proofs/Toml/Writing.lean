import ModuleBuild.Proofs.Toml.Layout
import ModuleBuild.Proofs.Toml.Scanning

/-!
# Plain documents are written

Every text can be a key and a value: it is written between double quotes, with backslashes where it
needs them. A number is written in its digits. So there is a text for every plain document with such
values, whatever the texts in it are.

## Main definitions

* `Toml.Simple` — texts and numbers
* `Toml.Written` — a plain document of texts and numbers, and its text
* `Toml.Written.ofGiven` — the document of the values that are given, section by section

## Main results

* `Toml.spellsShort_quote` — a quoted text spells the text
* `Toml.spellsScalar_digits` — the digits of a number spell it
* `Toml.Written.document_text` — the text of a document spells its lines
* `Toml.Written.exists_hasSection_ofGiven` — the sections have the values that are given
-/

namespace ModuleBuild

namespace Toml

/-! ### Texts -/

/-- A character between double quotes. -/
def quoteChar (c : Char) : List Char :=
  if c = '"' ∨ c = '\\' then ['\\', c]
  else if isTextChar c then [c]
  else ['\\', 'u', '0', '0', Hex.digit (c.toNat / 16), Hex.digit (c.toNat % 16)]

/-- A text in double quotes. -/
def quote (s : String) : List Char := '"' :: (s.toList.flatMap quoteChar ++ ['"'])

theorem spellsLetter_quoteChar (c : Char) : SpellsLetter '"' c (quoteChar c) := by
  unfold quoteChar
  split
  · rename_i h
    rcases h with rfl | rfl <;> exact .escaped rfl (.named (by decide))
  · rename_i h
    obtain ⟨hquote, hback⟩ := not_or.1 h
    split
    · rename_i htext
      exact .plain hquote (fun _ => hback) htext
    · rename_i htext
      have hsmall : c.toNat < 256 := by
        simp only [isTextChar, Bool.or_eq_true, Bool.and_eq_true, decide_eq_true_eq, not_or,
          not_and, bne_iff_ne, ne_eq, not_not] at htext
        by_contra hlarge
        have := htext.2 (by omega)
        omega
      have hnumber : Hex.number? ['0', '0', Hex.digit (c.toNat / 16), Hex.digit (c.toNat % 16)] =
          some c.toNat := by
        have hzero : Hex.value? '0' = some 0 := by decide
        have hsum : 16 * (c.toNat / 16) + c.toNat % 16 = c.toNat := Nat.div_add_mod c.toNat 16
        simp [Hex.number?, hzero, Hex.value?_digit (show c.toNat / 16 < 16 by omega),
          Hex.value?_digit (show c.toNat % 16 < 16 by omega), hsum]
      have hletter := SpellsEscape.four rfl hnumber c.valid
      rw [Char.ofNat_toNat] at hletter
      exact .escaped rfl hletter

theorem spellsLetters_flatMap (cs : List Char) : SpellsLetters '"' cs (cs.flatMap quoteChar) := by
  induction cs with
  | nil => exact .nil
  | cons c cs ih =>
    rw [List.flatMap_cons]
    exact .cons (spellsLetter_quoteChar c) ih

/-- **A quoted text** spells the text. -/
theorem spellsShort_quote (s : String) : SpellsShort s (quote s) := by
  have hquoted := SpellsShort.quoted (.inl rfl) (spellsLetters_flatMap s.toList)
  rwa [String.ofList_toList] at hquoted

/-! ### Numbers -/

theorem digitsValue_concat (base : Nat) (cs : List Char) (c : Char) :
    digitsValue base (cs ++ [c]) = base * digitsValue base cs + (Hex.value? c).getD 0 := by
  simp [digitsValue, List.foldl_append]

/-- The digits of a number have its value. -/
theorem digitsValue_toDigits (n : Nat) : digitsValue 10 (Nat.toDigits 10 n) = n := by
  have hdigit : ∀ d, d < 10 → (Hex.value? (Nat.digitChar d)).getD 0 = d := by decide
  induction n using Nat.strongRecOn with
  | ind n ih =>
    rcases Nat.lt_or_ge n 10 with hlt | hge
    · rw [Nat.toDigits_of_lt_base hlt]
      simpa [digitsValue] using hdigit n hlt
    · rw [Nat.toDigits_of_base_le (by decide) hge, digitsValue_concat, ih (n / 10) (by omega),
        hdigit (n % 10) (by omega)]
      omega

/-- Only the digits of zero begin with a zero. -/
theorem head?_toDigits {n : Nat} (h : n ≠ 0) : (Nat.toDigits 10 n).head? ≠ some '0' := by
  have hdigit : ∀ d, d < 10 → d ≠ 0 → Nat.digitChar d ≠ '0' := by decide
  induction n using Nat.strongRecOn with
  | ind n ih =>
    rcases Nat.lt_or_ge n 10 with hlt | hge
    · rw [Nat.toDigits_of_lt_base hlt]
      simpa using hdigit n hlt h
    · rw [Nat.toDigits_of_base_le (by decide) hge,
        List.head?_append_of_ne_nil _ Nat.toDigits_ne_nil]
      exact ih (n / 10) (by omega) (by omega)

/-- Digits without underscores are what they are. -/
theorem plainDigits_of_isDigit {cs : List Char} (h : ∀ c ∈ cs, c.isDigit = true) (after : Bool)
    (hne : cs ≠ [] ∨ after = true) : plainDigits Char.isDigit after cs = some cs := by
  induction cs generalizing after with
  | nil =>
    have hafter : after = true := hne.resolve_left (by simp)
    simp [plainDigits, hafter]
  | cons c cs ih =>
    rw [plainDigits, if_pos (h c List.mem_cons_self),
      ih (fun d hd => h d (List.mem_cons_of_mem _ hd)) true (.inr rfl)]
    rfl

theorem wholeDigits_toDigits (n : Nat) :
    wholeDigits (Nat.toDigits 10 n) = some (Nat.toDigits 10 n) := by
  have hdigits : ∀ c ∈ Nat.toDigits 10 n, c.isDigit = true :=
    fun c hc => Nat.isDigit_of_mem_toDigits (by decide) (by decide) hc
  have hzero : ¬((Nat.toDigits 10 n).head? = some '0' ∧ (Nat.toDigits 10 n).length > 1) := by
    rintro ⟨hhead, hlength⟩
    by_cases hn : n = 0
    · subst hn
      exact absurd hlength (by decide)
    · exact head?_toDigits hn hhead
  rw [wholeDigits, decimalDigits, plainDigits_of_isDigit hdigits false (.inl Nat.toDigits_ne_nil)]
  simp only [Option.bind_eq_bind, Option.bind_some]
  rw [if_neg hzero]

section

variable {cs : List Char}

/-- A digit is no mark. -/
theorem ne_of_isDigit {c d : Char} (hc : c.isDigit = true) (hd : d.isDigit = false) : c ≠ d := by
  rintro rfl
  exact Bool.false_ne_true (hd.symm.trans hc)

/-- Digits are no date. -/
theorem isDate_of_isDigit (h : ∀ c ∈ cs, c.isDigit = true) : isDate cs = false := by
  have hsplit : cs.splitOn '-' = [cs] :=
    List.splitOnP_eq_singleton fun c hc => by simpa using ne_of_isDigit (h c hc) (by decide)
  rw [isDate, hsplit]

/-- Digits are no time. -/
theorem isTime_of_isDigit (h : ∀ c ∈ cs, c.isDigit = true) : isTime cs = false := by
  have hcolon : (cs[5]? == some ':') = false := by
    rcases hget : cs[5]? with _ | c
    · rfl
    · have hne : c ≠ ':' := ne_of_isDigit (h c (List.mem_of_getElem? hget)) (by decide)
      simpa using hne
  simp [isTime, hcolon]

theorem isMoment_of_isDigit (h : ∀ c ∈ cs, c.isDigit = true) : isMoment cs = false := by
  have htake : isDate (cs.take 10) = false :=
    isDate_of_isDigit fun c hc => h c (List.mem_of_mem_take hc)
  simp [isMoment, isDate_of_isDigit h, isTime_of_isDigit h, htake]

/-- Digits are read as a whole number. -/
theorem integer?_of_isDigit (h : ∀ c ∈ cs, c.isDigit = true) : integer? cs = (do
    let n := digitsValue 10 (← wholeDigits cs)
    if n < Nat.pow 2 63 then some (n : Int) else none) := by
  have hbase : ∀ d rest, d.isDigit = false → cs ≠ '0' :: d :: rest := by
    rintro d rest hd rfl
    exact ne_of_isDigit (h d (by simp)) hd rfl
  have hsign : splitSign cs = (false, cs) := by
    unfold splitSign
    split
    · exact absurd rfl (ne_of_isDigit (h '-' (by simp)) (by decide))
    · exact absurd rfl (ne_of_isDigit (h '+' (by simp)) (by decide))
    · rfl
  rw [integer?]
  · rw [hsign]
    rfl
  · exact fun rest => hbase 'x' rest (by decide)
  · exact fun rest => hbase 'o' rest (by decide)
  · exact fun rest => hbase 'b' rest (by decide)

end

/-- **The digits of a number** spell it. -/
theorem spellsScalar_digits {n : Nat} (h : n < Nat.pow 2 63) :
    SpellsScalar (.integer n) (Nat.toDigits 10 n) := by
  have hdigits : ∀ c ∈ Nat.toDigits 10 n, c.isDigit = true :=
    fun c hc => Nat.isDigit_of_mem_toDigits (by decide) (by decide) hc
  have hrun : ∀ c ∈ Nat.toDigits 10 n, isRunChar c = true := by
    intro c hc
    have halnum : c.isAlphanum = true := by simp [Char.isAlphanum, hdigits c hc]
    simp [isRunChar, halnum]
  obtain ⟨htake, hdrop⟩ := span_append hrun (show ∀ c, [].head? = some c → _ by simp)
  rw [List.append_nil] at htake hdrop
  have hword : ∀ c rest, c.isDigit = false → Nat.toDigits 10 n ≠ c :: rest := by
    intro c rest hc heq
    exact ne_of_isDigit (hdigits c (by simp [heq])) hc rfl
  have hinteger : integer? (Nat.toDigits 10 n) = some (n : Int) := by
    rw [integer?_of_isDigit hdigits, wholeDigits_toDigits]
    simp only [Option.bind_eq_bind, Option.bind_some, digitsValue_toDigits]
    exact if_pos h
  refine ⟨hrun, ?_⟩
  rw [scalar, htake, hdrop, if_neg (hword 't' _ (by decide)), if_neg (hword 'f' _ (by decide)),
    isDate_of_isDigit hdigits, isMoment_of_isDigit hdigits, hinteger]
  rfl

/-! ### Documents -/

/-- A text or a number. -/
inductive Simple where
  /-- A text. -/
  | text (s : String)
  /-- A number. -/
  | number (n : Nat)

namespace Simple

/-- The value. -/
def node : Simple → Node
  | text s => .text s
  | number n => .integer n

/-- What is written for it. -/
def chars : Simple → List Char
  | text s => quote s
  | number n => Nat.toDigits 10 n

/-- Numbers are not too large. -/
def InRange : Simple → Prop
  | text _ => True
  | number n => n < Nat.pow 2 63

instance : DecidablePred InRange
  | text _ => inferInstanceAs (Decidable True)
  | number n => inferInstanceAs (Decidable (n < Nat.pow 2 63))

theorem spells {v : Simple} (h : v.InRange) (depth : Nat) :
    Spells depth (.value v.node) v.chars := by
  cases v with
  | text s => exact .text (.short (spellsShort_quote s))
  | number n => exact .scalar (spellsScalar_digits h)

end Simple

/-- A plain document of texts and numbers. -/
structure Written where
  /-- The keys in front of all tables, with their values. -/
  root : List (String × Simple)
  /-- The tables. -/
  sections : List (String × List (String × Simple))

/-- Keys with their values as entries of a table. -/
def entriesOf (l : List (String × Simple)) : Entries := l.map fun e => (e.1, e.2.node)

/-- A line with a key and its value. -/
def entryChars (e : String × Simple) : List Char :=
  quote e.1 ++ '=' :: (' ' :: (e.2.chars ++ ['\n']))

/-- The header of a table, and the lines below it. -/
def sectionChars (s : String × List (String × Simple)) : List Char :=
  '[' :: (quote s.1 ++ [']', '\n']) ++ s.2.flatMap entryChars

namespace Written

/-- The keys and tables of the document. -/
def layout (w : Written) : Layout where
  root := entriesOf w.root
  sections := w.sections.map fun s => (s.1, entriesOf s.2)

/-- The text of the document. -/
def text (w : Written) : String :=
  String.ofList (w.root.flatMap entryChars ++ w.sections.flatMap sectionChars)

/-- Numbers are not too large. -/
structure InRange (w : Written) : Prop where
  /-- Those in front of all tables. -/
  root : ∀ e ∈ w.root, e.2.InRange
  /-- Those in tables. -/
  sections : ∀ s ∈ w.sections, ∀ e ∈ s.2, e.2.InRange

end Written

theorem spellsKey_quote (s : String) : SpellsKey [s] (quote s) := by
  have hkey := SpellsKey.last isBlanks_nil (.quoted (spellsShort_quote s)) isBlanks_nil
  simpa using hkey

/-- Lines with keys and values, in front of other lines. -/
theorem spellsLines_entries {l : List (String × Simple)} (h : ∀ e ∈ l, e.2.InRange)
    {more : List Statement} {cs : List Char} (hmore : SpellsLines more cs) :
    SpellsLines (entryStatements (entriesOf l) ++ more) (l.flatMap entryChars ++ cs) := by
  induction l with
  | nil => exact hmore
  | cons e l ih =>
    have hmember : Spells (depthLimit - 1) (.member ([e.1], e.2.node))
        (quote e.1 ++ '=' :: ([' '] ++ e.2.chars)) :=
      .member (spellsKey_quote e.1) (Nat.lt_of_sub_eq_succ rfl) isBlanks_blank
        (Simple.spells (h e List.mem_cons_self) _)
    have hline := SpellsLine.statement isBlanks_nil (.entry hmember) (.blanks isBlanks_nil)
    have hlines := SpellsLines.more hline .feed (ih fun e he => h e (List.mem_cons_of_mem _ he))
    simpa [entryStatements, entriesOf, entryChars] using hlines

/-- Tables with their headers. -/
theorem spellsLines_sections {sections : List (String × List (String × Simple))}
    (h : ∀ s ∈ sections, ∀ e ∈ s.2, e.2.InRange) :
    SpellsLines
      ((sections.map fun s => (s.1, entriesOf s.2)).flatMap
        fun s => .table [s.1] :: entryStatements s.2)
      (sections.flatMap sectionChars) := by
  induction sections with
  | nil => exact .last (.empty (.blanks isBlanks_nil))
  | cons s sections ih =>
    have hheader : SpellsStatement (.table [s.1]) ('[' :: (quote s.1 ++ [']'])) :=
      .table (spellsKey_quote s.1) (Nat.lt_of_sub_eq_succ rfl)
    have hline := SpellsLine.statement isBlanks_nil hheader (.blanks isBlanks_nil)
    have hrest := spellsLines_entries (h s List.mem_cons_self)
      (ih fun s hs => h s (List.mem_cons_of_mem _ hs))
    have hlines := SpellsLines.more hline .feed hrest
    simpa [sectionChars] using hlines

/-- The text of a document does not begin with a mark of the byte order. -/
theorem Written.dropByteOrderMark_text (w : Written) :
    dropByteOrderMark w.text.toList =
      w.root.flatMap entryChars ++ w.sections.flatMap sectionChars := by
  rw [Written.text, String.toList_ofList]
  obtain ⟨root, sections⟩ := w
  rcases root with _ | ⟨e, root⟩
  · rcases sections with _ | ⟨s, sections⟩ <;> rfl
  · rfl

/-- **The text of a document** spells its lines. -/
theorem Written.document_text {w : Written} (h : w.InRange) :
    Document w.layout.statements w.text := by
  rw [Document, w.dropByteOrderMark_text]
  exact spellsLines_entries h.root (spellsLines_sections h.sections)

/-! ### Values that are given -/

variable {l : List (String × Option Simple)}
  {sections : List (String × List (String × Option Simple))}

/-- The keys that are given values, with these. -/
def keepGiven (l : List (String × Option Simple)) : List (String × Simple) :=
  l.filterMap fun k => k.2.map (k.1, ·)

theorem keys_keepGiven_sublist (l : List (String × Option Simple)) :
    (keys (entriesOf (keepGiven l))).Sublist (l.map Prod.fst) := by
  induction l with
  | nil => exact .slnil
  | cons k l ih =>
    obtain ⟨key, v⟩ := k
    cases v with
    | none => exact ih.cons _
    | some v => exact ih.cons_cons key

/-- A key has the value that it is given. -/
theorem holds_keepGiven (h : (l.map Prod.fst).Nodup) {k : String × Option Simple} (hk : k ∈ l) :
    Holds (entriesOf (keepGiven l)) k.1 (k.2.map Simple.node) := by
  intro node
  have hunique : ∀ k' ∈ l, k'.1 = k.1 → k' = k := fun k' hk' heq =>
    List.inj_on_of_nodup_map h hk' hk heq
  simp only [entriesOf, keepGiven, List.mem_map, List.mem_filterMap, Option.map_eq_some_iff]
  constructor
  · rintro ⟨e, ⟨k', hk', v, hv, rfl⟩, heq⟩
    obtain ⟨hkey, rfl⟩ := Prod.mk.inj heq
    obtain rfl := hunique k' hk' hkey
    exact ⟨v, hv, rfl⟩
  · rintro ⟨v, hv, rfl⟩
    exact ⟨(k.1, v), ⟨k, hk, v, hv, rfl⟩, rfl⟩

namespace Written

/-- The document of the values that are given, without empty sections. -/
def ofGiven (sections : List (String × List (String × Option Simple))) : Written where
  root := []
  sections := (sections.map fun s => (s.1, keepGiven s.2)).filter (!·.2.isEmpty)

theorem mem_entries_ofGiven {name : String} {node : Node} :
    (name, node) ∈ (ofGiven sections).layout.entries ↔
      ∃ s ∈ sections, keepGiven s.2 ≠ [] ∧ name = s.1 ∧
        node = .table .header (entriesOf (keepGiven s.2)) := by
  simp only [Layout.entries, layout, ofGiven, entriesOf, List.map_nil, List.nil_append,
    List.mem_map, List.mem_filter]
  constructor
  · rintro ⟨_, ⟨_, ⟨⟨s, hs, rfl⟩, hne⟩, rfl⟩, heq⟩
    obtain ⟨rfl, rfl⟩ := Prod.mk.inj heq
    exact ⟨s, hs, by simpa using hne, rfl, rfl⟩
  · rintro ⟨s, hs, hne, rfl, rfl⟩
    exact ⟨_, ⟨_, ⟨⟨s, hs, rfl⟩, by simpa using hne⟩, rfl⟩, rfl⟩

/-- No key is written twice. -/
theorem distinct_ofGiven (hnames : (sections.map Prod.fst).Nodup)
    (hkeys : ∀ s ∈ sections, (s.2.map Prod.fst).Nodup) : (ofGiven sections).layout.Distinct := by
  constructor
  · have hsub : List.Sublist (keys (ofGiven sections).layout.entries) (sections.map Prod.fst) := by
      have hfilter := (List.filter_sublist (p := fun s : String × List _ => !s.2.isEmpty)
        (l := sections.map fun s => (s.1, keepGiven s.2))).map Prod.fst
      simpa [keys, Layout.entries, layout, ofGiven, entriesOf, Function.comp_def] using hfilter
    exact hnames.sublist hsub
  · intro s hs
    simp only [layout, ofGiven, List.mem_map, List.mem_filter] at hs
    obtain ⟨_, ⟨⟨s, hs, rfl⟩, -⟩, rfl⟩ := hs
    exact (hkeys s hs).sublist (keys_keepGiven_sublist s.2)

/-- **The sections have the values that are given.** -/
theorem exists_hasSection_ofGiven (hnames : (sections.map Prod.fst).Nodup)
    (hkeys : ∀ s ∈ sections, (s.2.map Prod.fst).Nodup)
    {s : String × List (String × Option Simple)} (hs : s ∈ sections) :
    ∃ inner, HasSection (ofGiven sections).layout.entries s.1 inner ∧
      ∀ k ∈ s.2, Holds inner k.1 (k.2.map Simple.node) := by
  have hunique : ∀ s' ∈ sections, s.1 = s'.1 → s' = s := fun s' hs' heq =>
    List.inj_on_of_nodup_map hnames hs' hs heq.symm
  refine ⟨entriesOf (keepGiven s.2), ?_, fun k hk => holds_keepGiven (hkeys s hs) hk⟩
  by_cases hempty : keepGiven s.2 = []
  · rw [hempty]
    refine .absent fun node => ?_
    rw [mem_entries_ofGiven]
    constructor
    · rintro ⟨s', hs', hne, hname, -⟩
      obtain rfl := hunique s' hs' hname
      exact absurd hempty hne
    · exact fun h => nomatch h
  · refine .present (fun node => ?_) (.table .header (entriesOf (keepGiven s.2)))
    rw [mem_entries_ofGiven]
    constructor
    · rintro ⟨s', hs', hne, hname, rfl⟩
      obtain rfl := hunique s' hs' hname
      rfl
    · intro h
      exact ⟨s, hs, hempty, rfl, (Option.some.inj h).symm⟩

theorem inRange_ofGiven (h : ∀ s ∈ sections, ∀ k ∈ s.2, ∀ v ∈ k.2, v.InRange) :
    (ofGiven sections).InRange := by
  constructor
  · exact fun e he => absurd he (by simp [ofGiven])
  · intro s hs e he
    simp only [ofGiven, List.mem_filter, List.mem_map] at hs
    obtain ⟨⟨s, hs, rfl⟩, -⟩ := hs
    simp only [keepGiven, List.mem_filterMap, Option.map_eq_some_iff] at he
    obtain ⟨k, hk, v, hv, rfl⟩ := he
    exact h s hs k hk v hv

end Written

end Toml

end ModuleBuild
