import Mathlib.Data.List.TakeWhile
import Mathlib.Logic.Relation
import ModuleBuild.Proofs.Cache.Config

/-!
# The grouping of lists does not matter

Input files can be given in one text or in many, and every text may have more semicolons than it
needs. What counts is the sequence of segments: what stands between semicolons or at an end of a
text, wherever that is not nothing. Wishes with the same segments make the same request, or fail for
the same reason, and so the work for one of them is up to date for the other.

## Segments and regroupings

Two texts side by side can be joined by a semicolon, and an empty text can be left out. Each of
these two changes keeps the segments, and every list of texts is led by them to the list of its
segments. So lists have the same segments exactly if one can be regrouped into the other.

## Main definitions

* `Segments`, `Segmented` — the segments of a text, and those of a list of texts
* `SameSegments` — lists of texts with the same segments
* `Regroups` — a change of the grouping

## Main results

* `segments_iff`, `segmented_iff` — the segments are what a list is split into
* `sameSegments_iff_regroups` — the same segments are a matter of regrouping
* `Request.grouping_irrelevant` — requests whose wishes have the same segments
-/

namespace ModuleBuild

/-! ### Segments -/

/-- The segments of a text: what stands between semicolons, wherever that is not nothing. -/
inductive Segments : List Char → List String → Prop where
  /-- Nothing has no segments. -/
  | none : Segments [] []
  /-- A semicolon at the front ends nothing. -/
  | separator {cs : List Char} {l : List String} (h : Segments cs l) : Segments (';' :: cs) l
  /-- A text without semicolons is one segment. -/
  | last {s : String} (h : IsItem s) : Segments s.toList [s]
  /-- A segment ends at a semicolon. -/
  | item {s : String} {cs : List Char} {l : List String} (h : IsItem s) (hrest : Segments cs l) :
    Segments (s.toList ++ ';' :: cs) (s :: l)

/-- The segments of a list of texts. -/
inductive Segmented : List String → List String → Prop where
  /-- There are none without texts. -/
  | nil : Segmented [] []
  /-- Those of the first text come first. -/
  | cons {s : String} {texts l l' : List String} (h : Segments s.toList l)
    (hrest : Segmented texts l') : Segmented (s :: texts) (l ++ l')

/-- Two lists of texts have the same segments. -/
def SameSegments (texts texts' : List String) : Prop :=
  ∃ l, Segmented texts l ∧ Segmented texts' l

variable {s : String} {cs : List Char} {l texts texts' front back : List String}

theorem splitList_ofList_append (cs cs' : List Char) :
    splitList (String.ofList (cs ++ ';' :: cs')) =
      splitList (String.ofList cs) ++ splitList (String.ofList cs') := by
  simp only [splitList, String.toList_ofList]
  rw [List.splitOn_append_cons_self, List.filter_append, List.map_append]

theorem splitList_of_isItem (h : IsItem s) : splitList s = [s] := by
  have hne : s.toList ≠ [] := by simpa using h.1
  rw [splitList, List.splitOn_eq_singleton h.2, List.filter_cons_of_pos (by simpa using hne)]
  simp

theorem Segments.eq_splitList (h : Segments cs l) : splitList (String.ofList cs) = l := by
  induction h with
  | none => rfl
  | @separator cs l _ ih =>
    rw [← List.nil_append (';' :: cs), splitList_ofList_append, ih]
    rfl
  | last hs => rw [String.ofList_toList, splitList_of_isItem hs]
  | item hs _ ih =>
    rw [splitList_ofList_append, String.ofList_toList, splitList_of_isItem hs, ih,
      List.singleton_append]

/-- A text that does not begin with a semicolon begins with a segment, and ends with it or goes on
with a semicolon. -/
theorem exists_item {c : Char} (hc : c ≠ ';') (cs : List Char) :
    ∃ s, IsItem s ∧ (c :: cs = s.toList ∨ ∃ back, c :: cs = s.toList ++ ';' :: back) := by
  have hsplit : (c :: cs).takeWhile (· ≠ ';') ++ (c :: cs).dropWhile (· ≠ ';') = c :: cs :=
    List.takeWhile_append_dropWhile
  have hitem : IsItem (String.ofList ((c :: cs).takeWhile (· ≠ ';'))) := by
    refine ⟨by simp [hc], ?_⟩
    rw [String.toList_ofList]
    exact fun hmem => by simpa using List.mem_takeWhile_imp hmem
  refine ⟨_, hitem, ?_⟩
  rw [String.toList_ofList]
  rcases hback : (c :: cs).dropWhile (· ≠ ';') with _ | ⟨d, back⟩
  · rw [hback, List.append_nil] at hsplit
    exact .inl hsplit.symm
  · have hd := List.head?_dropWhile_not (fun c : Char => decide (c ≠ ';')) (c :: cs)
    rw [hback] at hd
    obtain rfl : d = ';' := by simpa using hd
    rw [hback] at hsplit
    exact .inr ⟨back, hsplit.symm⟩

/-- Every text has segments. -/
theorem exists_segments (cs : List Char) : ∃ l, Segments cs l := by
  induction hlength : cs.length using Nat.strongRecOn generalizing cs with
  | _ n ih =>
    subst hlength
    rcases cs with _ | ⟨c, rest⟩
    · exact ⟨[], .none⟩
    by_cases hc : c = ';'
    · subst hc
      obtain ⟨l, hl⟩ := ih rest.length (Nat.lt_succ_self _) rest rfl
      exact ⟨l, .separator hl⟩
    obtain ⟨s, hs, hlast | ⟨back, hmore⟩⟩ := exists_item hc rest
    · exact ⟨[s], hlast ▸ .last hs⟩
    · have hshorter : back.length < (c :: rest).length := by
        rw [hmore, List.length_append, List.length_cons]
        omega
      obtain ⟨l, hl⟩ := ih back.length hshorter back rfl
      exact ⟨s :: l, hmore ▸ .item hs hl⟩

/-- **The segments of a text are what it is split into.** -/
theorem segments_iff : Segments s.toList l ↔ splitList s = l := by
  constructor
  · intro h
    rw [← h.eq_splitList, String.ofList_toList]
  · rintro rfl
    obtain ⟨l, hl⟩ := exists_segments s.toList
    have := hl.eq_splitList
    rw [String.ofList_toList] at this
    rwa [this]

/-- **The segments of a list of texts** are what they are split into, one after another. -/
theorem segmented_iff : Segmented texts l ↔ texts.flatMap splitList = l := by
  constructor
  · intro h
    induction h with
    | nil => rfl
    | cons hs _ ih => rw [List.flatMap_cons, segments_iff.1 hs, ih]
  · rintro rfl
    induction texts with
    | nil => exact .nil
    | cons s texts ih => exact .cons (segments_iff.2 rfl) ih

theorem sameSegments_iff :
    SameSegments texts texts' ↔ texts.flatMap splitList = texts'.flatMap splitList := by
  constructor
  · rintro ⟨l, h, h'⟩
    rw [segmented_iff.1 h, segmented_iff.1 h']
  · exact fun h => ⟨_, segmented_iff.2 h, segmented_iff.2 rfl⟩

/-! ### Regroupings -/

/-- A change of the grouping. -/
inductive Regroups : List String → List String → Prop where
  /-- Two texts side by side are joined. -/
  | join (front back : List String) (s t : String) :
    Regroups (front ++ s :: t :: back) (front ++ (s ++ ";" ++ t) :: back)
  /-- An empty text is left out. -/
  | drop (front back : List String) : Regroups (front ++ "" :: back) (front ++ back)

theorem splitList_join (s t : String) : splitList (s ++ ";" ++ t) = splitList s ++ splitList t := by
  have hjoin : s ++ ";" ++ t = String.ofList (s.toList ++ ';' :: t.toList) := by
    rw [← String.toList_inj]
    simp
  rw [hjoin, splitList_ofList_append, String.ofList_toList, String.ofList_toList]

/-- A change of the grouping keeps the segments. -/
theorem Regroups.flatMap_eq (h : Regroups texts texts') :
    texts.flatMap splitList = texts'.flatMap splitList := by
  cases h with
  | join front back s t =>
    simp only [List.flatMap_append, List.flatMap_cons, splitList_join, List.append_assoc]
  | drop front back =>
    simp only [List.flatMap_append, List.flatMap_cons, List.append_cancel_left_eq]
    rfl

theorem Regroups.append (h : Regroups texts texts') (front back : List String) :
    Regroups (front ++ texts ++ back) (front ++ texts' ++ back) := by
  cases h with
  | join front' back' s t => simpa using Regroups.join (front ++ front') (back' ++ back) s t
  | drop front' back' => simpa using Regroups.drop (front ++ front') (back' ++ back)

/-- Texts are regrouped among others as they are alone. -/
theorem eqvGen_append (h : Relation.EqvGen Regroups texts texts') (front back : List String) :
    Relation.EqvGen Regroups (front ++ texts ++ back) (front ++ texts' ++ back) := by
  induction h with
  | rel _ _ h => exact .rel _ _ (h.append front back)
  | refl => exact .refl _
  | symm _ _ _ ih => exact .symm _ _ ih
  | trans _ _ _ _ _ ih ih' => exact .trans _ _ _ ih ih'

/-- A text is regrouped into its segments. -/
theorem Segments.eqvGen (h : Segments cs l) :
    Relation.EqvGen Regroups [String.ofList cs] l := by
  induction h with
  | none => exact .rel _ _ (.drop [] [])
  | @separator cs l _ ih =>
    have hjoin := Regroups.join [] [] "" (String.ofList cs)
    have htext : "" ++ ";" ++ String.ofList cs = String.ofList (';' :: cs) := by
      rw [← String.toList_inj]
      simp
    rw [htext] at hjoin
    exact .trans _ _ _ (.symm _ _ (.rel _ _ hjoin))
      (.trans _ _ _ (.rel _ _ (.drop [] [String.ofList cs])) ih)
  | last hs =>
    rw [String.ofList_toList]
    exact .refl _
  | @item s cs l hs _ ih =>
    have hjoin := Regroups.join [] [] s (String.ofList cs)
    have htext : s ++ ";" ++ String.ofList cs = String.ofList (s.toList ++ ';' :: cs) := by
      rw [← String.toList_inj]
      simp
    rw [htext] at hjoin
    refine .trans _ _ _ (.symm _ _ (.rel _ _ hjoin)) ?_
    simpa using eqvGen_append ih [s] []

/-- Texts are regrouped into their segments. -/
theorem Segmented.eqvGen (h : Segmented texts l) : Relation.EqvGen Regroups texts l := by
  induction h with
  | nil => exact .refl _
  | @cons s texts l l' hs _ ih =>
    have hfirst := eqvGen_append hs.eqvGen [] texts
    have hrest := eqvGen_append ih l []
    rw [String.ofList_toList] at hfirst
    exact .trans _ _ _ (by simpa using hfirst) (by simpa using hrest)

/-- **The same segments are a matter of regrouping.** -/
theorem sameSegments_iff_regroups :
    SameSegments texts texts' ↔ Relation.EqvGen Regroups texts texts' := by
  constructor
  · rintro ⟨l, h, h'⟩
    exact .trans _ _ _ h.eqvGen (.symm _ _ h'.eqvGen)
  · intro h
    rw [sameSegments_iff]
    induction h with
    | rel _ _ h => exact h.flatMap_eq
    | refl => rfl
    | symm _ _ _ ih => exact ih.symm
    | trans _ _ _ _ _ ih ih' => exact ih.trans ih'

/-! ### Requests -/

namespace Request

variable {cwd : Path} {o o' : RequestOptions}

/-- Wishes that are split alike make the same request, or fail alike. -/
theorem ofOptions_congr
    (hrest : o' = { o with files := o'.files, passthrough := o'.passthrough })
    (hfiles : o.files.flatMap splitList = o'.files.flatMap splitList)
    (hflags : splitList o.passthrough = splitList o'.passthrough) :
    ofOptions cwd o = ofOptions cwd o' := by
  rw [hrest]
  simp only [ofOptions, hfiles, hflags]

/-- **The grouping of lists does not matter.** Wishes in the same working directory that differ only
in how the segments of their files and of their flags are grouped, which is a matter of joining
neighbours and leaving out empty texts, make the same request or fail for the same reason. The flags
are the segments, and the files are the segments made absolute. So the configuration texts and the
call of the first tool are the same, the work for one is up to date exactly where that for the other
is, and the first step does the same for both. -/
theorem grouping_irrelevant
    (hrest : o' = { o with files := o'.files, passthrough := o'.passthrough })
    (hfiles : SameSegments o.files o'.files)
    (hflags : SameSegments [o.passthrough] [o'.passthrough]) :
    ofOptions cwd o = ofOptions cwd o' ∧
      Relation.EqvGen Regroups o.files o'.files ∧
      ∀ r, ofOptions cwd o = .ok r → ∃ r', ofOptions cwd o' = .ok r' ∧
        r.files = r'.files ∧ r.passthrough = r'.passthrough ∧ r.configStrings = r'.configStrings ∧
        Segmented [o.passthrough] r'.passthrough ∧
        (∃ l, Segmented o.files l ∧ (l.mapM fun file => place cwd (.ofText file)) = .ok r'.files) ∧
        ∀ (σ : Type) (b : Builder σ), b.debaseInvocation r = b.debaseInvocation r' ∧
          (∀ files, b.isUpToDate r files = b.isUpToDate r' files) ∧ b.debase r = b.debase r' := by
  have hsplit : splitList o.passthrough = splitList o'.passthrough := by
    simpa using sameSegments_iff.1 hflags
  have hsame : ofOptions cwd o = ofOptions cwd o' :=
    ofOptions_congr hrest (sameSegments_iff.1 hfiles) hsplit
  refine ⟨hsame, sameSegments_iff_regroups.1 hfiles, fun r h => ?_⟩
  obtain ⟨hpassthrough, hplaced⟩ := lists_of_ofOptions h
  exact ⟨r, hsame ▸ h, rfl, rfl, rfl, segmented_iff.2 (by simp [hpassthrough]),
    ⟨_, segmented_iff.2 rfl, hplaced⟩, fun _ _ => ⟨rfl, fun _ => rfl, rfl⟩⟩

/-- Three files and two flags, with many semicolons and with few. -/
theorem grouping_irrelevant_scattered :
    let o := { optionsFor ["a.dll;;b.dll", "", ";/in/c.dll"] with passthrough := ";-x;-y" }
    let o' := { optionsFor ["a.dll", "b.dll;/in/c.dll;"] with passthrough := "-x;;-y;" }
    o' = { o with files := o'.files, passthrough := o'.passthrough } ∧
      SameSegments o.files o'.files ∧ SameSegments [o.passthrough] [o'.passthrough] ∧
      ofOptions ⟨"/w"⟩ o = ofOptions ⟨"/w"⟩ o' ∧
      ∃ r r', ofOptions ⟨"/w"⟩ o = .ok r ∧ ofOptions ⟨"/w"⟩ o' = .ok r' ∧
        r.files = [⟨"/w/a.dll"⟩, ⟨"/w/b.dll"⟩, ⟨"/in/c.dll"⟩] ∧ r.passthrough = ["-x", "-y"] ∧
        r.configStrings = r'.configStrings := by
  intro o o'
  have hfiles : SameSegments o.files o'.files := sameSegments_iff.2 (by decide +kernel)
  have hflags : SameSegments [o.passthrough] [o'.passthrough] :=
    sameSegments_iff.2 (by decide +kernel)
  have h : ofOptions ⟨"/w"⟩
        { optionsFor ["a.dll;;b.dll", "", ";/in/c.dll"] with passthrough := ";-x;-y" } =
      .ok { requestIn "/w" [⟨"/w/a.dll"⟩, ⟨"/w/b.dll"⟩, ⟨"/in/c.dll"⟩] with
        passthrough := ["-x", "-y"] } := by rfl
  obtain ⟨hsame, -, hrequests⟩ := @grouping_irrelevant ⟨"/w"⟩ o o' rfl hfiles hflags
  obtain ⟨r', h', -, -, hconfig, -⟩ := hrequests _ h
  exact ⟨rfl, hfiles, hflags, hsame, _, r', h, h', rfl, rfl, hconfig⟩

end Request

end ModuleBuild
