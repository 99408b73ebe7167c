import ModuleBuild.Proofs.Path.Components
import ModuleBuild.Request

/-!
# Paths that spell texts

A path is a sequence of bytes. Where these spell characters it may be shown and read again, and a
name that is made from what is shown is the name itself. What makes up such a path spells characters
too, since a path is taken apart and put together at characters of one byte.

## Main definitions

* `Octets.IsText`, `Path.IsText` — bytes, and the bytes of a path, spell characters

## Main results

* `Octets.IsText.ofText_toText` — what is shown is spelled by the same bytes
* `Path.IsText.join`, `Path.IsText.absolute` — what is put together from such paths is such a path
* `Path.IsText.pieces`, `Path.IsText.nameOr` — what such a path is taken apart into
-/

namespace ModuleBuild

/-! ### Bytes -/

namespace Octets

variable {s t : String} {c : Char} {before after piece : List Char}

/-- The bytes for which the characters of a text stand spell characters. -/
def IsText (s : String) : Prop := ∃ t, s = ofText t

theorem isText_ofText (s : String) : IsText (ofText s) := ⟨s, rfl⟩

theorem isText_of_ascii (h : IsAscii s) : IsText s :=
  ⟨s, (ofText_of_ascii h).symm⟩

theorem isText_flatMap (cs : List Char) : IsText (String.ofList (cs.flatMap ofChar)) :=
  ⟨String.ofList cs, by rw [← String.toList_inj, toList_ofText, String.toList_ofList,
    String.toList_ofList]⟩

theorem IsText.append (hs : IsText s) (ht : IsText t) : IsText (s ++ t) := by
  obtain ⟨s, rfl⟩ := hs
  obtain ⟨t, rfl⟩ := ht
  exact ⟨s ++ t, (ofText_append s t).symm⟩

/-- **What is shown is spelled by the same bytes.** -/
theorem IsText.ofText_toText (h : IsText s) : ofText (toText s) = s := by
  obtain ⟨t, rfl⟩ := h
  rw [toText_ofText]

/-- A name that is made from what is shown is made from the name itself. -/
theorem IsText.ofText_toText_append (h : IsText s) {ext : String} (hext : IsAscii ext) :
    ofText (toText s ++ ext) = s ++ ext := by
  rw [ofText_append, h.ofText_toText, ofText_of_ascii hext]

/-- Bytes that spell characters are taken apart at a character of one byte. -/
theorem IsText.split (h : IsText s) (hc : c.toNat < 128) (hs : s.toList = before ++ c :: after) :
    IsText (String.ofList before) ∧ IsText (String.ofList after) := by
  obtain ⟨t, rfl⟩ := h
  obtain ⟨first, rest, -, rfl, rfl⟩ := exists_of_toList_ofText hc hs
  exact ⟨isText_flatMap first, isText_flatMap rest⟩

theorem IsText.of_mem_splitOn (hc : c.toNat < 128) :
    ∀ {s : String}, IsText s → ∀ piece ∈ s.toList.splitOn c, IsText (String.ofList piece) := by
  intro s
  induction hn : s.toList.length using Nat.strongRecOn generalizing s with
  | ind n ih =>
    intro h piece hpiece
    by_cases hmem : c ∈ s.toList
    · obtain ⟨before, after, hs, hbefore⟩ := List.eq_append_cons_of_mem hmem
      obtain ⟨hfirst, hrest⟩ := h.split hc hs
      rw [hs, List.splitOn_append_cons_self, List.splitOn_eq_singleton hbefore,
        List.singleton_append, List.mem_cons] at hpiece
      rcases hpiece with rfl | hpiece
      · exact hfirst
      · refine ih after.length ?_ (s := String.ofList after) (by simp) hrest piece (by simpa)
        rw [← hn, hs, List.length_append, List.length_cons]
        omega
    · rw [List.splitOn_eq_singleton hmem, List.mem_singleton] at hpiece
      rw [hpiece, String.ofList_toList]
      exact h

end Octets

/-! ### Paths -/

namespace Path

open Octets (isText_ofText isText_of_ascii)

variable {p base cwd : Path} {name other : String}

/-- The bytes of a path spell characters. -/
def IsText (p : Path) : Prop := Octets.IsText p.text

theorem isText_iff : p.IsText ↔ ∃ s, p = ofText s := by
  constructor
  · rintro ⟨s, hs⟩
    exact ⟨s, congrArg mk hs⟩
  · rintro ⟨s, rfl⟩
    exact ⟨s, rfl⟩

theorem IsText.ofText_shown (h : p.IsText) : ofText p.shown = p :=
  congrArg mk h.ofText_toText

/-- **Paths that spell texts are told apart** by what is shown of them. -/
theorem IsText.eq_of_shown_eq {q : Path} (hp : p.IsText) (hq : q.IsText)
    (h : p.shown = q.shown) : p = q := by
  rw [← hp.ofText_shown, h, hq.ofText_shown]

theorem IsText.join (hbase : base.IsText) (hp : p.IsText) : (base.join p).IsText := by
  unfold Path.join
  split
  · exact hp
  split
  · exact hbase.append hp
  · exact (hbase.append (isText_of_ascii (by decide))).append hp

theorem IsText.pieces (h : p.IsText) : ∀ piece ∈ p.pieces, Octets.IsText (String.ofList piece) :=
  Octets.IsText.of_mem_splitOn (by decide) h

theorem IsText.components (h : p.IsText) : ∀ c ∈ p.components, Octets.IsText c.text := by
  intro c hc
  rcases mem_components hc with rfl | rfl | ⟨piece, hpiece, hc⟩
  · exact isText_of_ascii (by decide)
  · exact isText_of_ascii (by decide)
  · rw [← String.ofList_toList (s := c.text), toList_text_of_component? hc]
    exact h.pieces piece hpiece

theorem IsText.fileName (h : p.IsText) (hname : p.fileName? = some name) :
    Octets.IsText name := by
  unfold fileName? at hname
  split at hname
  · rename_i s hs
    obtain rfl := Option.some.inj hname
    exact h.components _ (List.mem_of_getLast? hs)
  · simp at hname

theorem isText_stem (h : Octets.IsText name) : Octets.IsText (stem name) := by
  unfold stem
  dsimp only
  split
  · exact h
  · exact h
  · rename_i c before _ hdrop
    have hc : c = '.' := by
      have hne := List.head?_dropWhile_not (· ≠ '.') name.toList.reverse
      rw [hdrop] at hne
      simpa using hne
    have hname : name.toList = before.reverse ++
        c :: (name.toList.reverse.takeWhile (· ≠ '.')).reverse := by
      have hsplit := List.takeWhile_append_dropWhile (p := (· ≠ '.')) (l := name.toList.reverse)
      rw [hdrop] at hsplit
      simpa using congrArg List.reverse hsplit.symm
    exact (h.split (by rw [hc]; decide) hname).1

/-- The name of a path, or what stands in for it. -/
theorem IsText.nameOr (h : p.IsText) (hother : Octets.IsText other) :
    Octets.IsText (p.nameOr other) := by
  rw [Path.nameOr, fileStem?]
  rcases hname : p.fileName? with _ | name
  · exact hother
  · exact isText_stem (h.fileName hname)

/-- **The path seen from the root** spells a text if the directory that it is seen from does. -/
theorem IsText.absolute {q : Path} (hp : p.IsText) (hcwd : cwd.IsText)
    (h : p.absolute? cwd = some q) : q.IsText := by
  have hfold : ∀ (parts : List Component) (base : Path), (∀ c ∈ parts, Octets.IsText c.text) →
      base.IsText → (parts.foldl (fun acc c => acc.join ⟨c.text⟩) base).IsText := by
    intro parts
    induction parts with
    | nil => exact fun base _ hbase => hbase
    | cons c parts ih =>
      intro base hparts hbase
      obtain ⟨hc, hrest⟩ := List.forall_mem_cons.1 hparts
      exact ih _ hrest (hbase.join hc)
  unfold absolute? at h
  split at h
  · simp at h
  obtain rfl := Option.some.inj h
  have hparts : ∀ c ∈ (p.components.filter (· ≠ .current)).filter (· ≠ .root),
      Octets.IsText c.text := fun c hc =>
    hp.components c (List.mem_filter.1 (List.mem_filter.1 hc).1).1
  have hbase : Path.IsText
      (if (p.text.toList.take 2 == ['/', '/'] && p.text.toList.take 3 != ['/', '/', '/']) = true
        then ⟨"//"⟩ else if p.isAbsolute = true then ⟨"/"⟩ else cwd) := by
    split
    · exact isText_of_ascii (by decide)
    split
    · exact isText_of_ascii (by decide)
    · exact hcwd
  have hfull := hfold _ _ hparts hbase
  split
  · exact hfull.join (isText_of_ascii (by decide))
  · exact hfull

end Path

end ModuleBuild
