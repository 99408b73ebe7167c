import ModuleBuild.Proofs.Build.Listing

/-!
# Reading a response file back

A response file holds what is shown of the objects with single blanks between, and nothing in it is
quoted. A reader takes it apart at white space. The words that it finds are those of each path, one
path after the other, so that the objects are read back exactly if no path falls apart, and each is
spelled by what is shown of it. As the paths are made here, this hangs on what the objects are named
after: the units of a manifest may have any names, and a name with a blank in it makes more words
than there are objects. A name that spells no text comes from the output directory, and only in
place of the last name of a unit (`Builder.not_always_read_back` has a case of either kind).

Readers differ in what they take for white space. All that matters is that a blank is, and that
nothing is that stands in the path of every object.

## Main definitions

* `Text.words` — what stands between the separators in a text
* `Text.IsSeparating` — characters at which a response file may be taken apart
* `Request.IsWhole` — a unit whose object is spelled by a text that does not fall apart

## Main results

* `Text.words_intercalate` — the words of joined texts are those of each of them
* `Request.words_responseText` — when the objects are read back, and how many words there are
* `Builder.read_back` — what is read from the response file of a build that ended well
-/

namespace ModuleBuild

/-! ### Words -/

namespace Text

variable {isSeparator : Char → Bool} {cs : List Char}

/-- What stands between separators, where anything does. -/
def pieces (isSeparator : Char → Bool) (cs : List Char) : List (List Char) :=
  (cs.splitOnP isSeparator).filter (· ≠ [])

/-- The words of a text. -/
def words (isSeparator : Char → Bool) (s : String) : List String :=
  (pieces isSeparator s.toList).map String.ofList

/-- A separator ends a word. -/
theorem pieces_append_cons {c : Char} (hc : isSeparator c = true) (front back : List Char) :
    pieces isSeparator (front ++ c :: back) =
      pieces isSeparator front ++ pieces isSeparator back := by
  rw [pieces, List.splitOnP_append_cons front back hc, List.filter_append]
  rfl

/-- All that is not a separator stands in the words. -/
theorem flatten_pieces : (pieces isSeparator cs).flatten = cs.filter fun c => !isSeparator c := by
  rw [pieces, List.flatten_filter_ne_nil]
  induction cs with
  | nil => rfl
  | cons c cs ih =>
    rw [List.splitOnP_cons_eq_if_modifyHead]
    rcases hc : isSeparator c with _ | _
    · rcases hpieces : cs.splitOnP isSeparator with _ | ⟨piece, rest⟩
      · exact absurd hpieces (List.splitOnP_ne_nil _ _)
      · rw [hpieces] at ih
        simp [hc, ← ih]
    · simp [hc, ih]

/-- There is a word where there is anything but separators. -/
theorem one_le_length_pieces {c : Char} (hmem : c ∈ cs) (hc : isSeparator c = false) :
    1 ≤ (pieces isSeparator cs).length := by
  have hin : c ∈ (pieces isSeparator cs).flatten := by
    rw [flatten_pieces]
    exact List.mem_filter.2 ⟨hmem, by simp [hc]⟩
  obtain ⟨piece, hpiece, -⟩ := List.mem_flatten.1 hin
  exact List.length_pos_of_mem hpiece

/-- What has no separators is one word. -/
theorem pieces_of_forall (hne : cs ≠ []) (h : ∀ c ∈ cs, isSeparator c = false) :
    pieces isSeparator cs = [cs] := by
  rw [pieces, List.splitOnP_eq_singleton h]
  simp [hne]

/-- What begins and ends with no separator is one word only if there is none in it. -/
theorem length_pieces_eq_one_iff {first last : Char} (hfirst : cs.head? = some first)
    (hlast : cs.getLast? = some last) (hf : isSeparator first = false)
    (hl : isSeparator last = false) :
    (pieces isSeparator cs).length = 1 ↔ ∀ c ∈ cs, isSeparator c = false := by
  constructor
  · intro hone c hmem
    rcases hc : isSeparator c with _ | _
    · rfl
    obtain ⟨front, back, rfl⟩ := List.append_of_mem hmem
    have hfront : first ∈ front := by
      rcases front with _ | ⟨a, front⟩
      · obtain rfl := Option.some.inj hfirst
        simp [hf] at hc
      · obtain rfl := Option.some.inj hfirst
        exact List.mem_cons_self
    have hback : last ∈ back := by
      rcases hrest : back.getLast? with _ | z
      · obtain rfl := List.getLast?_eq_none_iff.1 hrest
        obtain rfl : c = last := by simpa using hlast
        simp [hl] at hc
      · obtain rfl : z = last := by
          simpa [List.getLast?_append, List.getLast?_cons, hrest] using hlast
        exact List.mem_of_getLast? hrest
    have hbefore := one_le_length_pieces hfront hf
    have hafter := one_le_length_pieces hback hl
    rw [pieces_append_cons hc, List.length_append] at hone
    omega
  · intro h
    have hne : cs ≠ [] := by
      rintro rfl
      simp at hfirst
    rw [pieces_of_forall hne h]
    rfl

/-- **The words of joined texts** are those of each of them, one text after the other. -/
theorem words_intercalate (hblank : isSeparator ' ' = true) (texts : List String) :
    words isSeparator (String.intercalate " " texts) = texts.flatMap (words isSeparator) := by
  have hlists : ∀ lists : List (List Char), pieces isSeparator ([' '].intercalate lists) =
      lists.flatMap (pieces isSeparator) := by
    intro lists
    induction lists with
    | nil => rfl
    | cons l lists ih =>
      rcases lists with _ | ⟨l', lists⟩
      · simp
      · rw [List.intercalate_cons_cons, List.append_assoc, List.singleton_append,
          pieces_append_cons hblank, ih]
        rfl
  have hblanks : " ".toList = [' '] := rfl
  rw [words, String.toList_intercalate, hblanks, hlists, List.flatMap_map, List.map_flatMap]
  rfl

/-- Characters at which a response file may be taken apart: the blank is one of them, and nothing is
that stands in the path of every object. -/
structure IsSeparating (isSeparator : Char → Bool) : Prop where
  /-- The blank between two paths is one. -/
  blank : isSeparator ' ' = true
  /-- The characters that stand in every path are none. -/
  plain : ∀ c ∈ "opt/.".toList, isSeparator c = false

/-- A response file may be taken apart at all white space. -/
theorem isSeparating_isBlank : IsSeparating isBlank where
  blank := by decide
  plain c hc := by
    have hall : ("opt/.".toList.all fun c => !isBlank c) = true := by decide
    simpa using List.all_eq_true.1 hall c hc

end Text

/-! ### The paths of objects -/

namespace Request

variable {isSeparator : Char → Bool} {units : List Path}

/-- The object of a unit is named after a text without separators. -/
def IsWhole (isSeparator : Char → Bool) (unit : Path) : Prop :=
  ∃ name, objectName unit = Octets.ofText name ∧ ∀ c ∈ name.toList, isSeparator c = false

/-- An object spells a text exactly if what it is named after does. -/
theorem isText_objectFor_iff {unit : Path} :
    (objectFor unit).IsText ↔ Octets.IsText (objectName unit) := by
  constructor
  · intro h
    have hname : ∀ s : String, Octets.IsText s → ∀ before, s.toList = before ++ ['.', 'o'] →
        Octets.IsText (String.ofList before) := fun s hs before heq =>
      (hs.split (by decide) heq).1
    have htext := text_objectFor unit
    split at htext
    · simpa using hname _ h _ htext
    · -- the name is what stands between the slash and the extension
      have hslash : (objectFor unit).text.toList =
          "opt".toList ++ '/' :: ((objectName unit).toList ++ ['.', 'o']) := htext
      have hafter := (Octets.IsText.split h (by decide) hslash).2
      simpa using hname _ hafter _ (String.toList_ofList)
  · intro h
    exact Path.IsText.join (Octets.isText_of_ascii (by decide))
      (h.append (Octets.isText_of_ascii (by decide)))

/-- What is shown of an object that is named after a text. -/
theorem toList_shown_objectFor {unit : Path} {name : String}
    (hname : objectName unit = Octets.ofText name) :
    (objectFor unit).shown.toList = name.toList ++ ['.', 'o'] ∧ name.toList.head? = some '/' ∨
      (objectFor unit).shown.toList = "opt/".toList ++ (name.toList ++ ['.', 'o']) := by
  have hshown : ∀ s : String, (objectFor unit).text.toList = (Octets.ofText s).toList →
      (objectFor unit).shown.toList = s.toList := by
    intro s hs
    rw [Path.shown, String.toList_inj.1 hs, Octets.toText_ofText]
  have hascii : Octets.ofText ".o" = ".o" := Octets.ofText_of_ascii (by decide)
  have htext := text_objectFor unit
  split at htext
  · rename_i hhead
    rw [hname] at htext hhead
    refine .inl ⟨?_, Octets.head?_of_ofText (by decide) hhead⟩
    rw [hshown (name ++ ".o"), String.toList_append]
    · rfl
    · rw [htext, Octets.ofText_append, hascii, String.toList_append]
      rfl
  · rw [hname] at htext
    refine .inr ?_
    rw [hshown ("opt/" ++ (name ++ ".o")), String.toList_append, String.toList_append]
    · rfl
    · rw [htext, Octets.ofText_append, Octets.ofText_append, hascii,
        Octets.ofText_of_ascii (s := "opt/") (by decide), String.toList_append,
        String.toList_append]
      rfl

/-- What is shown of an object that is named after a text begins and ends with no separator, and
there is none in it if there is none in the name. -/
theorem objectFor_ends (h : Text.IsSeparating isSeparator) {unit : Path}
    (htext : Octets.IsText (objectName unit)) :
    (∃ first last, (objectFor unit).shown.toList.head? = some first ∧
      (objectFor unit).shown.toList.getLast? = some last ∧
      isSeparator first = false ∧ isSeparator last = false) ∧
    ((∀ c ∈ (objectFor unit).shown.toList, isSeparator c = false) ↔ IsWhole isSeparator unit) := by
  obtain ⟨ho, hp, ht, hslash, hdot⟩ : isSeparator 'o' = false ∧ isSeparator 'p' = false ∧
      isSeparator 't' = false ∧ isSeparator '/' = false ∧ isSeparator '.' = false := by
    simpa using h.plain
  obtain ⟨name, hname⟩ := htext
  have hwhole : IsWhole isSeparator unit ↔ ∀ c ∈ name.toList, isSeparator c = false := by
    constructor
    · rintro ⟨name', hname', hall⟩
      rwa [Octets.ofText_inj (hname.symm.trans hname')]
    · exact fun hall => ⟨name, hname, hall⟩
  rw [hwhole]
  rcases toList_shown_objectFor hname with ⟨hshown, hhead⟩ | hshown
  · rw [hshown]
    refine ⟨⟨'/', 'o', ?_, by simp, hslash, ho⟩, ?_⟩
    · rw [List.head?_append, hhead, Option.some_or]
    · simp [or_imp, forall_and, hdot, ho]
  · rw [hshown]
    refine ⟨⟨'o', 'o', rfl, ?_, ho, ho⟩, ?_⟩
    · rw [← List.append_assoc, List.getLast?_append]
      rfl
    · simp [or_imp, forall_and, ho, hp, ht, hslash, hdot]

/-- If all objects spell texts, then there are as many words as objects or more, and as many only if
no path falls apart. -/
theorem length_words_objects (h : Text.IsSeparating isSeparator) {units : List Path}
    (htext : ∀ unit ∈ units, Octets.IsText (objectName unit)) :
    let found := (units.map objectFor).flatMap fun o => Text.words isSeparator o.shown
    units.length ≤ found.length ∧
      (found.length = units.length ↔ ∀ unit ∈ units, IsWhole isSeparator unit) := by
  induction units with
  | nil => simp
  | cons unit units ih =>
    obtain ⟨hunit, hunits⟩ := List.forall_mem_cons.1 htext
    obtain ⟨⟨first, last, hfirst, hlast, hf, hl⟩, hwhole⟩ := objectFor_ends h hunit
    have hsome := Text.one_le_length_pieces (List.mem_of_mem_head? hfirst) hf
    have hone := (Text.length_pieces_eq_one_iff hfirst hlast hf hl).trans hwhole
    obtain ⟨hle, hiff⟩ := ih hunits
    simp only [List.map_cons, List.flatMap_cons, List.length_append, List.length_cons,
      List.forall_mem_cons, Text.words, List.length_map] at hle hiff ⊢
    refine ⟨by omega, ?_⟩
    rw [← hone, ← hiff]
    omega

/-- **When the objects are read back.** The words of a response file are those of what is shown of
each path, one after the other. They spell the paths of the objects exactly if each object is named
after a text that does not fall apart. If all are named after texts, and some of these fall apart,
there are more words than objects. -/
theorem words_responseText (h : Text.IsSeparating isSeparator) (units : List Path) :
    let found := Text.words isSeparator (responseText (units.map objectFor))
    found = (units.map objectFor).flatMap (fun o => Text.words isSeparator o.shown) ∧
    (found.map Path.ofText = units.map objectFor ↔ ∀ unit ∈ units, IsWhole isSeparator unit) ∧
    ((∀ unit ∈ units, Octets.IsText (objectName unit)) →
      (∃ unit ∈ units, ¬ IsWhole isSeparator unit) → units.length < found.length) := by
  intro found
  have hfound : found =
      (units.map objectFor).flatMap (fun o => Text.words isSeparator o.shown) := by
    rw [← List.flatMap_map]
    exact Text.words_intercalate h.blank _
  refine ⟨hfound, ⟨fun heq => ?_, fun hwhole => ?_⟩, fun htext hsome => ?_⟩
  · have htext : ∀ unit ∈ units, Octets.IsText (objectName unit) := by
      intro unit hunit
      have hmem : objectFor unit ∈ found.map Path.ofText := heq ▸ List.mem_map_of_mem hunit
      obtain ⟨word, -, hword⟩ := List.mem_map.1 hmem
      exact isText_objectFor_iff.1 (hword ▸ Octets.isText_ofText word)
    refine (length_words_objects h htext).2.1 ?_
    rw [← hfound, ← List.length_map Path.ofText, heq, List.length_map]
  · have hwords : ∀ unit ∈ units,
        (Text.words isSeparator (objectFor unit).shown).map Path.ofText = [objectFor unit] := by
      intro unit hunit
      have htext : Octets.IsText (objectName unit) :=
        (hwhole unit hunit).imp fun _ hname => hname.1
      obtain ⟨⟨first, last, hfirst, -, -, -⟩, hname⟩ := objectFor_ends h htext
      have hne : (objectFor unit).shown.toList ≠ [] := by
        intro hempty
        simp [hempty] at hfirst
      rw [Text.words, Text.pieces_of_forall hne (hname.2 (hwhole unit hunit)), List.map_singleton,
        String.ofList_toList, List.map_singleton, (isText_objectFor_iff.2 htext).ofText_shown]
    rw [hfound, List.flatMap_map, List.map_flatMap, List.map_eq_flatMap]
    exact List.flatMap_congr hwords
  · obtain ⟨hle, hiff⟩ := length_words_objects h htext
    rw [hfound]
    refine Nat.lt_of_le_of_ne hle fun heq => ?_
    obtain ⟨unit, hunit, hnot⟩ := hsome
    exact hnot (hiff.1 heq.symm unit hunit)

end Request

/-! ### The whole build -/

namespace Builder

variable {σ : Type} {b : Builder σ} {r : Request} {st st' : BuildState σ}

/-- The second step, if it ends well, finds one object for each unit of the manifest, in the order
of the manifest. -/
theorem objects_of_lowerStep {path : Path} {report : LoweringReport}
    (h : (b.lowerStep r path).run st = (.ok report, st')) :
    ∃ manifest, Manifest.load st.files b.cwd path = .ok manifest ∧
      report.objects = (manifest.units r.outputDir).map Request.objectFor := by
  rw [run_lowerStep] at h
  split at h
  · simp at h
  rename_i manifest hload
  rcases hrun : (b.lowerUnits r (manifest.units r.outputDir)).run st with ⟨e | found, st''⟩
  · simp [hrun, Except.bind] at h
  rw [hrun] at h
  obtain ⟨hjudged, rfl⟩ := Prod.mk.inj h
  obtain ⟨hs, rfl⟩ := judged_eq_ok.1 hjudged
  -- the objects do not depend on whether the calls are logged
  have hforget : (b.logging.lowerUnits r (manifest.units r.outputDir)).Forgets
      (b.lowerUnits r (manifest.units r.outputDir)) := forgets_lowerUnits _
  have hlogged := hforget ⟨st.files, ([], st.tools), st.sink⟩
  rcases hlog : (b.logging.lowerUnits r (manifest.units r.outputDir)).run
    ⟨st.files, ([], st.tools), st.sink⟩ with ⟨result, last⟩
  rw [hlog] at hlogged
  obtain ⟨rfl, -⟩ := Prod.mk.inj (hrun.symm.trans hlogged)
  obtain ⟨-, -, -, hobjects⟩ := exists_calls_of_succeeded hlog hs
  exact ⟨manifest, hload, hobjects⟩

/-- The third step, if it ends well, has written the response file that is asked for, and called no
tool. -/
theorem written_of_publishStep {path : Path} {report : LoweringReport} {published : Published}
    (hmode : r.publish = .response path)
    (h : (b.publishStep r report).run st = (.ok published, st')) :
    st.files.write b.cwd path (Utf8.encode (responseText report.objects)) = .ok st'.files ∧
      st'.tools = st.tools := by
  obtain ⟨sink, hrun⟩ := run_publishStep b r report st
  rw [hrun, run_publishObjects_response b hmode] at h
  split at h
  · rename_i files hwrite
    obtain ⟨rfl, rfl⟩ := by simpa using h
    exact ⟨hwrite, rfl⟩
  · simp at h

/-- The steps of a build that ended well. -/
theorem steps_of_build {outcome : BuildOutcome} (h : (b.build r).run st = (.ok outcome, st')) :
    ∃ st₁ st₂, (b.debaseStep r).run st = (.ok outcome.debase, st₁) ∧
      (b.lowerStep r outcome.debase.manifestPath).run st₁ = (.ok outcome.lower, st₂) ∧
      (b.publishStep r outcome.lower).run st₂ = (.ok outcome.published, st') := by
  rcases hfirst : (b.debaseStep r).run st with ⟨e | debase, st₁⟩
  · simp [run_build, hfirst] at h
  rcases hsecond : (b.lowerStep r debase.manifestPath).run st₁ with ⟨e | report, st₂⟩
  · simp [run_build, hfirst, hsecond] at h
  rcases hthird : (b.publishStep r report).run st₂ with ⟨e | published, st₃⟩
  · simp [run_build, hfirst, hsecond, hthird] at h
  obtain ⟨rfl, rfl⟩ : _ ∧ st₃ = st' := by
    simpa [run_build, hfirst, hsecond, hthird] using h
  exact ⟨st₁, st₂, rfl, hsecond, hthird⟩

/-- **What is read back.** A build that ended well has left a response file with the objects of the
units of the manifest. Taken apart at white space it gives back the objects, as many as there are
and in their order, exactly if each object is named after a text without any white space in it. All
of them are named after texts if the path of the output directory spells one; and then, if there is
white space in any, it gives more words than there are objects. -/
theorem read_back {path : Path} {outcome : BuildOutcome} (hmode : r.publish = .response path)
    (h : (b.build r).run st = (.ok outcome, st'))
    (hfile : st'.files.isDevice b.cwd path = false) :
    ∃ st₁ manifest text, (b.debaseStep r).run st = (.ok outcome.debase, st₁) ∧
      Manifest.load st₁.files b.cwd outcome.debase.manifestPath = .ok manifest ∧
      outcome.lower.objects = (manifest.units r.outputDir).map Request.objectFor ∧
      (r.outputDir.IsText →
        ∀ unit ∈ manifest.units r.outputDir, Octets.IsText (Request.objectName unit)) ∧
      st'.files.readText b.cwd path = .ok text ∧
      ∀ isSeparator, Text.IsSeparating isSeparator →
        ((Text.words isSeparator text).map Path.ofText = outcome.lower.objects ↔
          ∀ unit ∈ manifest.units r.outputDir, Request.IsWhole isSeparator unit) ∧
        ((∀ unit ∈ manifest.units r.outputDir, Octets.IsText (Request.objectName unit)) →
          (∃ unit ∈ manifest.units r.outputDir, ¬ Request.IsWhole isSeparator unit) →
          outcome.lower.objects.length < (Text.words isSeparator text).length) := by
  obtain ⟨st₁, st₂, hfirst, hsecond, hthird⟩ := steps_of_build h
  obtain ⟨manifest, hload, hobjects⟩ := objects_of_lowerStep hsecond
  obtain ⟨hwrite, -⟩ := written_of_publishStep hmode hthird
  have htext : st'.files.readText b.cwd path = .ok (responseText outcome.lower.objects) :=
    FileTree.readText_eq_ok.2
      ⟨_, read_of_write_response hwrite hfile, Utf8.decode?_encode _⟩
  refine ⟨st₁, manifest, _, hfirst, hload, hobjects, fun hbase unit hunit => ?_, htext,
    fun isSeparator hsep => ?_⟩
  · exact Request.isText_objectFor_iff.1
      (isText_objects hload hbase _ (List.mem_map_of_mem hunit))
  · obtain ⟨-, hiff, hmore⟩ := Request.words_responseText hsep (manifest.units r.outputDir)
    rw [hobjects, List.length_map]
    exact ⟨hiff, hmore⟩

/-- The objects of two units are read back from the response file of the small build. -/
theorem read_back_shared :
    ∃ (outcome : BuildOutcome) (st' : BuildState Unit) (manifest : Manifest) (text : String),
      (sharingBuilder.build (listingRequest ⟨"/w/app.rsp"⟩)).run ⟨smallTree, (), .empty⟩ =
        (.ok outcome, st') ∧
      st'.files.isDevice sharingBuilder.cwd ⟨"/w/app.rsp"⟩ = false ∧
      st'.files.readText sharingBuilder.cwd ⟨"/w/app.rsp"⟩ = .ok text ∧
      ((Text.words Text.isBlank text).map Path.ofText = outcome.lower.objects ↔
        ∀ unit ∈ manifest.units ⟨"/w"⟩, Request.IsWhole Text.isBlank unit) ∧
      Text.words Text.isBlank text = ["opt/a.o", "opt/b.o"] := by
  have hended : ((sharingBuilder.build (listingRequest ⟨"/w/app.rsp"⟩)).run
      ⟨smallTree, (), .empty⟩).1.toOption.isSome = true := by decide +kernel
  have hfile : ((sharingBuilder.build (listingRequest ⟨"/w/app.rsp"⟩)).run
      ⟨smallTree, (), .empty⟩).2.files.isDevice sharingBuilder.cwd ⟨"/w/app.rsp"⟩ = false := by
    decide +kernel
  have hread : (((sharingBuilder.build (listingRequest ⟨"/w/app.rsp"⟩)).run
      ⟨smallTree, (), .empty⟩).2.files.readText sharingBuilder.cwd ⟨"/w/app.rsp"⟩).toOption.map
        (Text.words Text.isBlank) = some ["opt/a.o", "opt/b.o"] := by decide +kernel
  rcases hrun : (sharingBuilder.build (listingRequest ⟨"/w/app.rsp"⟩)).run
    ⟨smallTree, (), .empty⟩ with ⟨e | outcome, st'⟩
  · simp [hrun, Except.toOption] at hended
  rw [hrun] at hfile hread
  obtain ⟨st₁, manifest, text, -, -, -, -, htext, hwords⟩ := read_back rfl hrun hfile
  refine ⟨outcome, st', manifest, text, rfl, hfile, htext,
    (hwords _ Text.isSeparating_isBlank).1, ?_⟩
  simpa [htext, Except.toOption] using hread

/-- A manifest that names one unit, and a blank in that name. -/
def spacedTree : FileTree :=
  { entries := [("debase", .file [1] true), ("w", .directory [("app.bc", .file [2] false),
      ("lib", .directory [("app.json",
        .file (Utf8.encode "\x7b\"files\": [\"lib/a b.bc\"]\x7d") false)])])] }

/-- **The objects are not always read back.** A build ends well with one object, and its response
file has two words. Another one ends well with one object without any blank, and the one word of its
response file spells another path. -/
theorem not_always_read_back :
    (¬ ∀ (b : Builder Unit) (r : Request) (st st' : BuildState Unit) (outcome : BuildOutcome)
        (path : Path) (text : String), r.publish = .response path → r.outputDir.IsText →
      (b.build r).run st = (.ok outcome, st') → st'.files.readText b.cwd path = .ok text →
        (Text.words Text.isBlank text).map Path.ofText = outcome.lower.objects) ∧
    ¬ ∀ (b : Builder Unit) (r : Request) (st st' : BuildState Unit) (outcome : BuildOutcome)
        (path : Path) (text : String), r.publish = .response path →
      (b.build r).run st = (.ok outcome, st') → st'.files.readText b.cwd path = .ok text →
      (∀ object ∈ outcome.lower.objects, object.shown.toList.any Text.isBlank = false) →
        (Text.words Text.isBlank text).map Path.ofText = outcome.lower.objects := by
  constructor
  · intro h
    have hlisted : ((pairedBuilder.build (listingRequest ⟨"/w/app.rsp"⟩)).run
        ⟨spacedTree, (), .empty⟩).1.toOption.map (fun outcome => outcome.lower.objects) =
          some [⟨"opt/a b.o"⟩] := by decide +kernel
    have hread : (((pairedBuilder.build (listingRequest ⟨"/w/app.rsp"⟩)).run
        ⟨spacedTree, (), .empty⟩).2.files.readText pairedBuilder.cwd ⟨"/w/app.rsp"⟩).toOption =
          some "opt/a b.o" := by decide +kernel
    obtain ⟨outcome, hrun, hobjects⟩ := exists_listed hlisted
    have hwords := h _ _ _ _ outcome ⟨"/w/app.rsp"⟩ "opt/a b.o" rfl
      (Octets.isText_of_ascii (by decide)) hrun (ok_of_toOption hread)
    rw [hobjects] at hwords
    exact absurd hwords (by decide +kernel)
  · intro h
    have hlisted : ((pairedBuilder.build oddRequest).run ⟨oddTree, (), .empty⟩).1.toOption.map
        (fun outcome => outcome.lower.objects) = some [⟨"/w\u00ff/...o"⟩] := by decide +kernel
    have hread : (((pairedBuilder.build oddRequest).run ⟨oddTree, (), .empty⟩).2.files.readText
        pairedBuilder.cwd ⟨"/w\u00ff/app.rsp"⟩).toOption = some "/w\ufffd/...o" := by
      decide +kernel
    obtain ⟨outcome, hrun, hobjects⟩ := exists_listed hlisted
    have hwords := h _ _ _ _ outcome ⟨"/w\u00ff/app.rsp"⟩ "/w\ufffd/...o" rfl hrun
      (ok_of_toOption hread) (by rw [hobjects]; decide +kernel)
    rw [hobjects] at hwords
    exact absurd hwords (by decide +kernel)

end Builder

end ModuleBuild
