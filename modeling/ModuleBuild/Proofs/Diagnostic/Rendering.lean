import ModuleBuild.Diagnostic.Render
import ModuleBuild.Proofs.Path.Spelled
import ModuleBuild.Proofs.Text.Lines

/-!
# Rendered diagnostics are unambiguous

A rendered diagnostic is a list of rows. The first one begins with the label, and each of the others
begins with a mark that says what it is: the path, the first line of a note, a further line of a
note, or a suggestion. No mark is the beginning of another one, so a row tells its mark and its text
whatever the text looks like, and a line of a note that begins with an arrow or with a mark of its
own is still a line of that note. As a note begins with a mark and goes on with others, the rows
tell where it ends.

## What rendering drops

Blanks at the end of a note are not shown, nor is a carriage return in front of a line feed, and a
note that is all blanks has no row at all. Bytes of a path that spell no character are shown as a
replacement, so paths may look alike that are not the same (`Diagnostic.not_always_unambiguous`).
Apart from that everything is read back, if what is on one row holds no line feed.

## Main definitions

* `Diagnostic.linesOfNote`, `Diagnostic.shownNotes` — what of the notes is shown
* `Diagnostic.Mark`, `Diagnostic.Row` — a row of rendered text
* `Diagnostic.rows` — the rows of a diagnostic
* `Diagnostic.OneLine` — what is shown on one row holds no line feed
* `Diagnostic.SameShown` — diagnostics that differ at most in what is dropped

## Main results

* `Diagnostic.Row.chars_inj` — a row tells its mark and its text
* `Diagnostic.splitOn_render` — the lines of rendered text are the rows
* `Diagnostic.rows_inj` — the rows tell the diagnostic, apart from what is dropped
* `Diagnostic.render_unambiguous` — so does the rendered text
-/

namespace ModuleBuild

namespace Diagnostic

variable {d e : Diagnostic} {colour : Bool}

/-! ### The lines of notes -/

/-- The lines of a note: those of its text without the blanks at its end, where a line may also end
in a carriage return and a line feed. -/
def linesOfNote (note : String) : List String :=
  let text := Text.dropBlanksEnd note.toList
  if text = [] then [] else ((Text.unifyEnds text).splitOn '\n').map String.ofList

/-- The notes that have a line, as lists of lines. -/
def shownNotes (d : Diagnostic) : List (List String) := (d.notes.map linesOfNote).filter (· ≠ [])

theorem noteLines_eq (note : String) : noteLines note = linesOfNote note := by
  unfold noteLines Text.lines Text.trimEnd linesOfNote
  rw [String.toList_ofList]
  dsimp only
  split
  · rename_i hempty
    rw [hempty]
    rfl
  · rename_i hne
    rw [Text.linesOf_eq_splitOn hne fun hlast => ?_]
    exact absurd (Text.not_isBlank_of_getLast? hlast) (by decide)

/-- A note has a line unless it is all blanks. -/
theorem linesOfNote_eq_nil_iff {note : String} :
    linesOfNote note = [] ↔ Text.isAllBlank note = true := by
  simp [linesOfNote, Text.dropBlanksEnd_eq_nil_iff, Text.isAllBlank, List.splitOn_ne_nil]

/-- No line holds a line feed. -/
theorem not_mem_of_mem_linesOfNote {note line : String} (h : line ∈ linesOfNote note) :
    '\n' ∉ line.toList := by
  unfold linesOfNote at h
  dsimp only at h
  split at h
  · simp at h
  · obtain ⟨part, hpart, rfl⟩ := List.mem_map.1 h
    rw [String.toList_ofList]
    exact fun hmem => (mem_of_mem_splitOn hpart hmem).1 rfl

/-- A note that is added is shown behind the others, with its lines. -/
theorem shownNotes_withNote (d : Diagnostic) (note : String) :
    (d.withNote note).shownNotes =
      d.shownNotes ++ if Text.isAllBlank note then [] else [linesOfNote note] := by
  unfold shownNotes
  rw [notes_withNote]
  split
  · exact (List.append_nil _).symm
  · rename_i hblank
    have hlines : linesOfNote note ≠ [] := fun hnone => hblank (linesOfNote_eq_nil_iff.1 hnone)
    simp [hlines]

/-! ### Rows -/

/-- What a row begins with. -/
inductive Mark where
  /-- The label of a severity. -/
  | label (s : Severity)
  /-- The arrow in front of a path. -/
  | path
  /-- The mark of a note. -/
  | note
  /-- The blanks in front of a further line of a note. -/
  | more
  /-- The mark of a suggestion. -/
  | help
  deriving DecidableEq

namespace Mark

/-- The characters of a mark. -/
def chars (colour : Bool) : Mark → List Char
  | label s => (s.shownLabel colour ++ ": ").toList
  | path => "  --> ".toList
  | note => "   = note: ".toList
  | more => "           ".toList
  | help => "   = help: ".toList

/-- The marks. -/
def every : List Mark := Severity.every.map label ++ [path, note, more, help]

theorem mem_every (m : Mark) : m ∈ every := by
  rcases m with s | _ | _ | _ | _
  · cases s <;> decide
  all_goals decide

/-- **No mark is the beginning of another one.** -/
theorem eq_of_isPrefix {m m' : Mark} (h : m.chars colour <+: m'.chars colour) : m = m' := by
  have hall : ∀ colour, ∀ m ∈ every, ∀ m' ∈ every, m.chars colour <+: m'.chars colour → m = m' := by
    decide +kernel
  exact hall colour m m.mem_every m' m'.mem_every h

theorem not_mem_chars (m : Mark) : '\n' ∉ m.chars colour := by
  have hall : ∀ colour, ∀ m ∈ every, '\n' ∉ m.chars colour := by decide +kernel
  exact hall colour m m.mem_every

end Mark

/-- A row: a mark and what stands behind it. -/
@[ext]
structure Row where
  /-- The mark. -/
  mark : Mark
  /-- What stands behind it. -/
  text : String
  deriving DecidableEq

/-- The characters of a row. -/
def Row.chars (colour : Bool) (row : Row) : List Char := row.mark.chars colour ++ row.text.toList

/-- **A row tells its mark and its text.** -/
theorem Row.chars_inj {row row' : Row} (h : row.chars colour = row'.chars colour) : row = row' := by
  have hmark : row.mark = row'.mark := by
    have hfront : row.mark.chars colour <+: row'.chars colour := h ▸ List.prefix_append ..
    rcases List.prefix_or_prefix_of_prefix hfront (List.prefix_append ..) with hprefix | hprefix
    · exact Mark.eq_of_isPrefix hprefix
    · exact (Mark.eq_of_isPrefix hprefix).symm
  have htext : row.text = row'.text := by
    rw [chars, chars, hmark] at h
    exact String.toList_inj.1 (List.append_cancel_left h)
  exact Row.ext hmark htext

/-- The rows of the lines of a note. -/
def rowsOfLines : List String → List Row
  | [] => []
  | first :: rest => ⟨.note, first⟩ :: rest.map (⟨.more, ·⟩)

/-- The rows of a diagnostic. -/
def rows (d : Diagnostic) : List Row :=
  ⟨.label d.severity, d.message⟩ :: (d.path.toList.map fun p => ⟨.path, p.shown⟩) ++
    d.shownNotes.flatMap rowsOfLines ++ d.help.map (⟨.help, ·⟩)

/-- The characters of rows, each on a line of its own. -/
def charsOfRows (colour : Bool) (rows : List Row) : List Char :=
  (rows.map (Row.chars colour)).flatMap (· ++ ['\n'])

theorem charsOfRows_append (rows rows' : List Row) :
    charsOfRows colour (rows ++ rows') = charsOfRows colour rows ++ charsOfRows colour rows' := by
  simp [charsOfRows]

/-- A mark, a text and a line end are a row. -/
theorem toList_row {m : Mark} {front : String} (h : front.toList = m.chars colour)
    (text : String) : (front ++ text ++ "\n").toList = charsOfRows colour [⟨m, text⟩] := by
  rw [String.toList_append, String.toList_append, h]
  exact (List.append_nil _).symm

/-- Texts behind a mark, each with a line end, are rows. -/
theorem toList_join_rows {m : Mark} {front : String} (h : front.toList = m.chars colour)
    (texts : List String) :
    (String.join (texts.map fun text => front ++ text ++ "\n")).toList =
      charsOfRows colour (texts.map (⟨m, ·⟩)) := by
  rw [String.toList_join]
  induction texts with
  | nil => rfl
  | cons text texts ih =>
    rw [List.map_cons, List.flatMap_cons, ih, toList_row h, ← charsOfRows_append]
    rfl

theorem toList_renderNote (colour : Bool) (note : String) :
    (renderNote note).toList = charsOfRows colour (rowsOfLines (linesOfNote note)) := by
  unfold renderNote
  rw [noteLines_eq]
  rcases linesOfNote note with _ | ⟨first, rest⟩
  · rfl
  · have hfirst : (s!"   = note: {first}\n").toList = charsOfRows colour [⟨.note, first⟩] :=
      toList_row rfl first
    have hrest : (String.join (rest.map fun line => s!"           {line}\n")).toList =
        charsOfRows colour (rest.map (⟨.more, ·⟩)) := toList_join_rows rfl rest
    dsimp only
    rw [String.toList_append, hfirst, hrest, ← charsOfRows_append]
    rfl

theorem toList_renderNotes (colour : Bool) (notes : List String) :
    (String.join (notes.map renderNote)).toList =
      charsOfRows colour (((notes.map linesOfNote).filter (· ≠ [])).flatMap rowsOfLines) := by
  rw [String.toList_join]
  induction notes with
  | nil => rfl
  | cons note notes ih =>
    rw [List.map_cons, List.flatMap_cons, toList_renderNote colour, ih, ← charsOfRows_append,
      List.map_cons, List.filter_cons]
    split
    · rw [List.flatMap_cons]
    · rename_i hempty
      rw [show linesOfNote note = [] by simpa using hempty, rowsOfLines]
      rfl

/-- **Rendered text is a text of rows.** -/
theorem toList_render (colour : Bool) (d : Diagnostic) :
    (d.render colour).toList = charsOfRows colour d.rows := by
  have hhead : (s!"{d.severity.shownLabel colour}: {d.message}\n").toList =
      charsOfRows colour [⟨.label d.severity, d.message⟩] := toList_row rfl d.message
  have hpath : ∀ path : Path, (s!"  --> {path.shown}\n").toList =
      charsOfRows colour [⟨.path, path.shown⟩] := fun path => toList_row rfl path.shown
  have hhelp : (String.join (d.help.map fun text => s!"   = help: {text}\n")).toList =
      charsOfRows colour (d.help.map (⟨.help, ·⟩)) := toList_join_rows rfl d.help
  unfold render rows
  rw [String.toList_append, String.toList_append, String.toList_append, hhead, hhelp,
    toList_renderNotes colour]
  rcases d.path with _ | path
  · dsimp only
    rw [String.toList_empty, List.append_nil, ← charsOfRows_append, ← charsOfRows_append]
    rfl
  · dsimp only
    rw [hpath, ← charsOfRows_append, ← charsOfRows_append, ← charsOfRows_append]
    rfl

/-! ### Reading the rows of a text -/

/-- What is shown on one row is on one line. -/
structure OneLine (d : Diagnostic) : Prop where
  /-- The message. -/
  message : '\n' ∉ d.message.toList
  /-- The path: none of its bytes is a line feed. -/
  path : ∀ p ∈ d.path, (10 : UInt8) ∉ Octets.toBytes p.text
  /-- Each suggestion. -/
  help : ∀ text ∈ d.help, '\n' ∉ text.toList

theorem text_of_mem_rowsOfLines {l : List String} {row : Row} (h : row ∈ rowsOfLines l) :
    row.text ∈ l := by
  rcases l with _ | ⟨first, rest⟩
  · simp [rowsOfLines] at h
  · rcases List.mem_cons.1 h with rfl | h
    · exact List.mem_cons_self
    · obtain ⟨line, hline, rfl⟩ := List.mem_map.1 h
      exact List.mem_cons_of_mem _ hline

/-- A line feed is shown of a path only if it is one of its bytes. -/
theorem not_mem_shown {p : Path} (h : (10 : UInt8) ∉ Octets.toBytes p.text) :
    '\n' ∉ p.shown.toList := by
  intro hmem
  obtain ⟨b, hb, heq⟩ := Utf8.exists_byte_of_mem_decodeLossy (by decide) (by decide) hmem
  obtain rfl : b = 10 := UInt8.toNat_inj.1 heq
  exact h hb

/-- No row holds a line feed. -/
theorem OneLine.not_mem_chars (h : d.OneLine) {row : Row} (hrow : row ∈ d.rows) :
    '\n' ∉ row.chars colour := by
  have htext : '\n' ∉ row.text.toList := by
    rcases List.mem_append.1 hrow with hrow | hrow
    · rcases List.mem_append.1 hrow with hrow | hrow
      · rcases List.mem_cons.1 hrow with rfl | hrow
        · exact h.message
        · obtain ⟨p, hp, rfl⟩ := List.mem_map.1 hrow
          exact not_mem_shown (h.path p (Option.mem_toList.1 hp))
      · obtain ⟨l, hl, hrow⟩ := List.mem_flatMap.1 hrow
        obtain ⟨note, -, rfl⟩ := List.mem_map.1 (List.mem_filter.1 hl).1
        exact not_mem_of_mem_linesOfNote (text_of_mem_rowsOfLines hrow)
    · obtain ⟨text, hmem, rfl⟩ := List.mem_map.1 hrow
      exact h.help text hmem
  rw [Row.chars, List.mem_append, not_or]
  exact ⟨row.mark.not_mem_chars, htext⟩

/-- **The lines of rendered text are the rows,** each of them once and in order. -/
theorem splitOn_render (h : d.OneLine) (colour : Bool) :
    (d.render colour).toList.splitOn '\n' = d.rows.map (Row.chars colour) ++ [[]] := by
  rw [toList_render, charsOfRows, Text.splitOn_flatMap]
  intro line hline
  obtain ⟨row, hrow, rfl⟩ := List.mem_map.1 hline
  exact h.not_mem_chars hrow

/-- Rendered text tells the rows. -/
theorem rows_eq_of_render_eq (hd : d.OneLine) (he : e.OneLine)
    (h : d.render colour = e.render colour) : d.rows = e.rows := by
  have hlines := splitOn_render hd colour
  rw [h, splitOn_render he colour] at hlines
  exact (List.map_inj_right fun _ _ => Row.chars_inj).1 (List.append_cancel_right hlines).symm

/-! ### Reading a diagnostic from its rows -/

/-- Rows that do not begin with a mark. -/
def NotFirst (m : Mark) (rows : List Row) : Prop := ∀ row ∈ rows.head?, row.mark ≠ m

theorem notFirst_nil (m : Mark) : NotFirst m [] := by simp [NotFirst]

theorem notFirst_cons {m : Mark} {row : Row} (h : row.mark ≠ m) (rows : List Row) :
    NotFirst m (row :: rows) := by
  simpa [NotFirst] using h

/-- Rows with one mark end where no more of them follow. -/
theorem map_append_inj {m : Mark} {l l' : List String} {back back' : List Row}
    (hback : NotFirst m back) (hback' : NotFirst m back')
    (h : l.map (Row.mk m) ++ back = l'.map (Row.mk m) ++ back') : l = l' ∧ back = back' := by
  induction l generalizing l' with
  | nil =>
    cases l' with
    | nil => exact ⟨rfl, h⟩
    | cons text l' =>
      obtain rfl : back = ⟨m, text⟩ :: (l'.map (Row.mk m) ++ back') := h
      exact absurd rfl (hback _ rfl)
  | cons text l ih =>
    cases l' with
    | nil =>
      obtain rfl : _ = back' := h
      exact absurd rfl (hback' _ rfl)
    | cons text' l' =>
      obtain ⟨hrow, hrest⟩ := List.cons.inj h
      obtain ⟨rfl, rfl⟩ := ih hrest
      exact ⟨congrArg (· :: l) (congrArg Row.text hrow), rfl⟩

/-- Notes begin with their own mark. -/
theorem notFirst_notes {m : Mark} {notes : List (List String)} {back : List Row} (hm : m ≠ .note)
    (hnotes : ∀ l ∈ notes, l ≠ []) (hback : NotFirst m back) :
    NotFirst m (notes.flatMap rowsOfLines ++ back) := by
  rcases notes with _ | ⟨_ | ⟨first, rest⟩, notes⟩
  · exact hback
  · exact absurd rfl (hnotes [] List.mem_cons_self)
  · exact notFirst_cons hm.symm _

/-- **Notes are read from their rows,** each with its own lines. -/
theorem flatMap_rowsOfLines_inj {notes notes' : List (List String)} {back back' : List Row}
    (hnotes : ∀ l ∈ notes, l ≠ []) (hnotes' : ∀ l ∈ notes', l ≠ [])
    (hback : NotFirst .note back ∧ NotFirst .more back)
    (hback' : NotFirst .note back' ∧ NotFirst .more back')
    (h : notes.flatMap rowsOfLines ++ back = notes'.flatMap rowsOfLines ++ back') :
    notes = notes' ∧ back = back' := by
  induction notes generalizing notes' with
  | nil =>
    rcases notes' with _ | ⟨_ | ⟨first, rest⟩, notes'⟩
    · exact ⟨rfl, h⟩
    · exact absurd rfl (hnotes' [] List.mem_cons_self)
    · obtain rfl : back = ⟨.note, first⟩ :: _ := h
      exact absurd rfl (hback.1 _ rfl)
  | cons l notes ih =>
    rcases l with _ | ⟨first, rest⟩
    · exact absurd rfl (hnotes [] List.mem_cons_self)
    rcases notes' with _ | ⟨_ | ⟨first', rest'⟩, notes'⟩
    · obtain rfl : _ = back' := h
      exact absurd rfl (hback'.1 _ rfl)
    · exact absurd rfl (hnotes' [] List.mem_cons_self)
    · have hmore := fun l hl => hnotes l (List.mem_cons_of_mem _ hl)
      have hmore' := fun l hl => hnotes' l (List.mem_cons_of_mem _ hl)
      rw [List.flatMap_cons, List.flatMap_cons, List.append_assoc, List.append_assoc] at h
      obtain ⟨hrow, hrest⟩ := List.cons.inj h
      -- behind the lines of a note there is no further line of it
      obtain ⟨rfl, hothers⟩ := map_append_inj (notFirst_notes (by decide) hmore hback.2)
        (notFirst_notes (by decide) hmore' hback'.2) hrest
      obtain ⟨rfl, rfl⟩ := ih hmore hmore' hothers
      exact ⟨congrArg (fun text => (text :: rest) :: notes) (congrArg Row.text hrow), rfl⟩

theorem ne_nil_of_mem_shownNotes {l : List String} (h : l ∈ d.shownNotes) : l ≠ [] := by
  simpa using (List.mem_filter.1 h).2

/-- Suggestions begin with their own mark. -/
theorem notFirst_help {m : Mark} (hm : m ≠ .help) (texts : List String) :
    NotFirst m (texts.map (Row.mk .help)) := by
  cases texts with
  | nil => exact notFirst_nil m
  | cons text texts => exact notFirst_cons hm.symm _

/-- Two diagnostics that differ at most in what of their notes and paths is not shown. -/
structure SameShown (d e : Diagnostic) : Prop where
  /-- They have the same severity. -/
  severity_eq : d.severity = e.severity
  /-- They have the same message. -/
  message_eq : d.message = e.message
  /-- They have a path that is shown in the same way, or none. -/
  path_eq : d.path.map Path.shown = e.path.map Path.shown
  /-- They have the same suggestions. -/
  help_eq : d.help = e.help
  /-- Their notes have the same lines. -/
  notes_eq : d.shownNotes = e.shownNotes

/-- The paths are the same if they spell texts. -/
theorem SameShown.eq_path (h : SameShown d e) (hd : ∀ p ∈ d.path, p.IsText)
    (he : ∀ p ∈ e.path, p.IsText) : d.path = e.path := by
  have hshown := h.path_eq
  rcases hp : d.path with _ | p
  · rw [hp] at hshown
    exact (Option.map_eq_none_iff.1 hshown.symm).symm
  · rw [hp] at hshown
    obtain ⟨q, hq, heq⟩ := Option.map_eq_some_iff.1 hshown.symm
    rw [hq, (hd p hp).eq_of_shown_eq (he q hq) heq.symm]

/-- **The rows tell the diagnostic,** apart from what is not shown of the notes and the path. -/
theorem rows_inj (h : d.rows = e.rows) : SameShown d e := by
  have hrows : ∀ d : Diagnostic, d.rows =
      ⟨.label d.severity, d.message⟩ :: ((d.path.toList.map Path.shown).map (Row.mk .path) ++
        (d.shownNotes.flatMap rowsOfLines ++ d.help.map (Row.mk .help))) := by
    intro d
    simp [rows]
  rw [hrows, hrows] at h
  obtain ⟨hhead, hbelow⟩ := List.cons.inj h
  obtain ⟨hlabel, hmessage⟩ := Row.mk.inj hhead
  have hnotes : ∀ d : Diagnostic, ∀ l ∈ d.shownNotes, l ≠ [] := fun _ _ => ne_nil_of_mem_shownNotes
  have hhelp : ∀ (m : Mark) (d : Diagnostic), m ≠ .help →
      NotFirst m (d.help.map (Row.mk .help)) := fun m d hm => notFirst_help hm d.help
  obtain ⟨hpath, hbelow⟩ := map_append_inj
    (notFirst_notes (by decide) (hnotes d) (hhelp .path d (by decide)))
    (notFirst_notes (by decide) (hnotes e) (hhelp .path e (by decide))) hbelow
  obtain ⟨hshown, hhelps⟩ := flatMap_rowsOfLines_inj (hnotes d) (hnotes e)
    ⟨hhelp .note d (by decide), hhelp .more d (by decide)⟩
    ⟨hhelp .note e (by decide), hhelp .more e (by decide)⟩ hbelow
  have hsame : d.path.map Path.shown = e.path.map Path.shown := by
    have hhead : ∀ d : Diagnostic,
        (d.path.toList.map Path.shown).head? = d.path.map Path.shown := by
      intro d
      rw [List.head?_map, Option.head?_toList]
    rw [← hhead d, hpath, hhead e]
  have htexts : d.help = e.help :=
    (List.map_inj_right fun _ _ hrow => (Row.mk.inj hrow).2).1 hhelps
  exact ⟨Mark.label.inj hlabel, hmessage, hsame, htexts, hshown⟩

/-- **Rendered diagnostics are unambiguous.** Where message, path and suggestions are on one line
each, the rendered text tells the severity, the message, what is shown of the path, the suggestions,
and the notes with their lines; and the path itself if it spells a text. Its lines are the rows of
the diagnostic, so no line of a note is lost, shown twice or put under another note. A note that is
added has at least one line. -/
theorem render_unambiguous (colour : Bool) :
    (∀ d e : Diagnostic, d.OneLine → e.OneLine →
      (d.render colour = e.render colour ↔ SameShown d e) ∧
      ((∀ p ∈ d.path, p.IsText) → (∀ p ∈ e.path, p.IsText) →
        d.render colour = e.render colour → d.path = e.path)) ∧
    (∀ d : Diagnostic, d.OneLine →
      (d.render colour).toList.splitOn '\n' = d.rows.map (Row.chars colour) ++ [[]]) ∧
    ∀ (d : Diagnostic) (note : String),
      (d.withNote note).shownNotes =
        d.shownNotes ++ (if Text.isAllBlank note then [] else [linesOfNote note]) ∧
      (Text.isAllBlank note = false → linesOfNote note ≠ []) := by
  refine ⟨fun d e hd he => ⟨⟨fun h => ?_, fun h => ?_⟩, fun htext htext' h => ?_⟩,
    fun d hd => splitOn_render hd colour,
    fun d note => ⟨shownNotes_withNote d note, fun hblank hnone => ?_⟩⟩
  · exact rows_inj (rows_eq_of_render_eq hd he h)
  · have hpath : ∀ d : Diagnostic, (d.path.toList.map fun p => Row.mk .path p.shown) =
        (d.path.map Path.shown).toList.map (Row.mk .path) := by
      intro d
      cases d.path <;> rfl
    rw [← String.toList_inj, toList_render, toList_render, rows, rows, hpath, hpath,
      h.severity_eq, h.message_eq, h.path_eq, h.help_eq, h.notes_eq]
  · exact (rows_inj (rows_eq_of_render_eq hd he h)).eq_path htext htext'
  · rw [linesOfNote_eq_nil_iff.1 hnone] at hblank
    cases hblank

/-- A note with a line that looks like a suggestion. -/
def lookalike : Diagnostic :=
  { severity := .error, message := "failed!", notes := ["llc\r\n   = help: again\n"] }

/-- A note and a suggestion. -/
def suggesting : Diagnostic :=
  { severity := .error, message := "failed!", notes := ["llc"], help := ["again"] }

/-- The line that looks like a suggestion is told from one, and it does not matter how the lines of
the note end. -/
theorem render_unambiguous_lookalike :
    let respelled := { lookalike with notes := [" ", "llc\n   = help: again"] }
    lookalike.OneLine ∧ suggesting.OneLine ∧ respelled.OneLine ∧
    lookalike.render true ≠ suggesting.render true ∧
    lookalike.render true = respelled.render true ∧
    (lookalike.render false).toList.splitOn '\n' =
      ["error: failed!".toList, "   = note: llc".toList, "              = help: again".toList, []] ∧
    Text.isAllBlank "= help:\n" = false ∧ linesOfNote "= help:\n" ≠ [] := by
  intro respelled
  have hlookalike : lookalike.OneLine := ⟨by decide, by simp [lookalike], by decide⟩
  have hrespelled : respelled.OneLine := ⟨by decide, hlookalike.path, by decide⟩
  have hsuggesting : suggesting.OneLine := ⟨by decide, by simp [suggesting], by decide⟩
  have hnotes : lookalike.shownNotes = respelled.shownNotes := by decide +kernel
  have hblank : Text.isAllBlank "= help:\n" = false := by decide
  obtain ⟨htells, -, -⟩ := render_unambiguous true
  obtain ⟨-, hlines, hadded⟩ := render_unambiguous false
  refine ⟨hlookalike, hsuggesting, hrespelled, ?_, ?_, ?_, hblank, ?_⟩
  · intro hsame
    cases ((htells _ _ hlookalike hsuggesting).1.1 hsame).help_eq
  · exact (htells _ _ hlookalike hrespelled).1.2 ⟨rfl, rfl, rfl, rfl, hnotes⟩
  · rw [hlines _ hlookalike]
    decide +kernel
  · exact (hadded lookalike "= help:\n").2 hblank

/-- **Rendered text does not always tell the path.** Bytes that spell no character look alike. -/
theorem not_always_unambiguous :
    ¬ ∀ (colour : Bool) (d e : Diagnostic), d.OneLine → e.OneLine →
      d.render colour = e.render colour → d.path = e.path := by
  intro h
  have hsame := h false (lookalike.withPath ⟨"/w/\u00ff/x"⟩) (lookalike.withPath ⟨"/w/\u00fe/x"⟩)
    ⟨by decide, by decide +kernel, by decide⟩ ⟨by decide, by decide +kernel, by decide⟩
    (by decide +kernel)
  exact absurd hsame (by decide +kernel)

end Diagnostic

end ModuleBuild
