import ModuleBuild.Config.Basic
import ModuleBuild.Proofs.Toml.Tables

/-!
# Configurations with given values

A configuration file may give each of seven keys a value or leave it out, and may leave out whole
sections. A missing key of a section that is there and a key of a missing section have their
defaults from different places; they are the same defaults. So the configuration is told by the
given values alone: neither the order of sections and keys nor anything else in the file matters.

## Main definitions

* `Config.Given` — the given values
* `Config.Given.config` — the configuration that has them, and the defaults elsewhere
* `Config.Given.In`, `Config.Given.Told` — a table, or lines, with just these values

## Main results

* `Config.Given.read_entries` — such a table is read as this configuration
* `Config.Given.Told.inEntries` — such lines build such a table
* `Config.usable_or_error` — what reading any text comes to
-/

namespace ModuleBuild

namespace Config

/-- The values that a configuration file gives. -/
structure Given where
  /-- The first tool. -/
  debase : Option String := none
  /-- The lowering tool. -/
  llc : Option String := none
  /-- The build profile. -/
  profile : Option Profile := none
  /-- The frame-pointer policy. -/
  framePointer : Option FramePointer := none
  /-- The name of the manifest. -/
  manifest : Option String := none
  /-- The register allocator. -/
  regalloc : Option String := none
  /-- How many units are lowered at the same time. -/
  jobs : Option Nat := none

namespace Given

variable (g : Given)

/-- The configuration with the given values, and the defaults for all others. -/
def config : Config where
  debase := g.debase.getD "debase"
  llc := g.llc.getD "llc"
  profile := g.profile.getD .debug
  framePointer := g.framePointer.getD .all
  manifest := g.manifest.getD "debase.json"
  regalloc := g.regalloc.getD "pbqp"
  jobs := g.jobs.getD 1

/-- Values that a build can use. -/
structure Proper : Prop where
  /-- The first tool has a name. -/
  debase : g.debase ≠ some ""
  /-- The lowering tool has a name. -/
  llc : g.llc ≠ some ""
  /-- The manifest has a name. -/
  manifest : g.manifest ≠ some ""
  /-- Units can be lowered, and the number can be written. -/
  jobs : ∀ n ∈ g.jobs, 1 ≤ n ∧ n < Nat.pow 2 63

/-- The values of the section on tools. -/
def tools : List (String × Option Toml.Node) :=
  [("debase", g.debase.map .text), ("llc", g.llc.map .text)]

/-- The values of the section on builds. -/
def build : List (String × Option Toml.Node) :=
  [("profile", g.profile.map fun p => .text p.name),
    ("frame_pointer", g.framePointer.map fun p => .text p.name), ("manifest", g.manifest.map .text)]

/-- The values of the section on lowering. -/
def lower : List (String × Option Toml.Node) :=
  [("regalloc", g.regalloc.map .text), ("jobs", g.jobs.map fun n : Nat => .integer n)]

/-- The sections with their values. -/
def sections : List (String × List (String × Option Toml.Node)) :=
  [("tools", g.tools), ("build", g.build), ("lower", g.lower)]

/-- A table has the given values in its sections, and no other ones under their keys. -/
def In (entries : Toml.Entries) : Prop :=
  ∀ s ∈ g.sections, ∃ inner, Toml.HasSection entries s.1 inner ∧
    ∀ k ∈ s.2, Toml.Holds inner k.1 k.2

/-- Lines give the values, and no other ones under their keys. A section that is a value is a table
in braces. -/
structure Told (l : List Toml.Statement) : Prop where
  /-- What the lines say of the keys. -/
  key : ∀ s ∈ g.sections, ∀ k ∈ s.2, Toml.Clear [s.1, k.1] [] l ∧
    Toml.given? [s.1, k.1] (Toml.told [] l) = k.2
  /-- What they say of the sections. -/
  value : ∀ s ∈ g.sections, ∀ v, ([s.1], v) ∈ Toml.told [] l → ∃ entries, v = .inline entries

/-! ### Keys -/

theorem readProfile_name (p : Profile) : readProfile (.text p.name) = .ok p := by
  cases p <;> rfl

theorem readFramePointer_name (p : FramePointer) : readFramePointer (.text p.name) = .ok p := by
  cases p <;> rfl

theorem readCount_natCast (n : Nat) : Toml.readCount (.integer n) = .ok n := by
  rw [Toml.readCount, if_neg (by omega)]
  simp

/-- The setting of a text. -/
def textSetting (name : String) (put : Config → String → Config) (value : Option String) :
    Toml.Setting Config := .ofValue (textField name put) .text put value

theorem sound_textSetting {name : String} {put : Config → String → Config} {value : Option String}
    (hagain : ∀ c s, put (put c s) s = put c s) : (textSetting name put value).Sound :=
  Toml.Setting.sound_ofValue (fun _ _ _ => rfl) hagain

/-- The given tools. -/
def toolSettings : List (Toml.Setting Config) :=
  [textSetting "debase" (fun c s => { c with debase := s }) g.debase,
    textSetting "llc" (fun c s => { c with llc := s }) g.llc]

/-- The given values for builds. -/
def buildSettings : List (Toml.Setting Config) :=
  [.ofValue ⟨"profile", fun c node => do return { c with profile := ← readProfile node }⟩
      (fun p => .text p.name) (fun c p => { c with profile := p }) g.profile,
    .ofValue
      ⟨"frame_pointer", fun c node => do return { c with framePointer := ← readFramePointer node }⟩
      (fun p => .text p.name) (fun c p => { c with framePointer := p }) g.framePointer,
    textSetting "manifest" (fun c s => { c with manifest := s }) g.manifest]

/-- The given values for lowering. -/
def lowerSettings : List (Toml.Setting Config) :=
  [textSetting "regalloc" (fun c s => { c with regalloc := s }) g.regalloc,
    .ofValue ⟨"jobs", fun c node => do return { c with jobs := ← Toml.readCount node }⟩
      (fun n : Nat => .integer n) (fun c n => { c with jobs := n }) g.jobs]

theorem independent_toolSettings : Toml.Setting.Independent g.toolSettings where
  sound := by
    simp only [toolSettings, List.forall_mem_cons]
    exact ⟨sound_textSetting fun _ _ => rfl, sound_textSetting fun _ _ => rfl, by simp⟩
  comm := by
    simp only [toolSettings, List.forall_mem_cons]
    cases g.debase <;> cases g.llc <;> simp [textSetting, Toml.Setting.ofValue]
  nodup := show ["debase", "llc"].Nodup by decide

theorem independent_buildSettings : Toml.Setting.Independent g.buildSettings where
  sound := by
    simp only [buildSettings, List.forall_mem_cons]
    refine ⟨Toml.Setting.sound_ofValue ?_ ?_, Toml.Setting.sound_ofValue ?_ ?_,
      sound_textSetting fun _ _ => rfl, by simp⟩
    · intro p _ c
      simp only [readProfile_name]
      rfl
    · exact fun _ _ => rfl
    · intro p _ c
      simp only [readFramePointer_name]
      rfl
    · exact fun _ _ => rfl
  comm := by
    simp only [buildSettings, List.forall_mem_cons]
    cases g.profile <;> cases g.framePointer <;> cases g.manifest <;>
      simp [textSetting, Toml.Setting.ofValue]
  nodup := show ["profile", "frame_pointer", "manifest"].Nodup by decide

theorem independent_lowerSettings : Toml.Setting.Independent g.lowerSettings where
  sound := by
    simp only [lowerSettings, List.forall_mem_cons]
    refine ⟨sound_textSetting fun _ _ => rfl, Toml.Setting.sound_ofValue ?_ ?_, by simp⟩
    · intro n _ c
      simp only [readCount_natCast]
      rfl
    · exact fun _ _ => rfl
  comm := by
    simp only [lowerSettings, List.forall_mem_cons]
    cases g.regalloc <;> cases g.jobs <;> simp [textSetting, Toml.Setting.ofValue]
  nodup := show ["regalloc", "jobs"].Nodup by decide

/-! ### Sections -/

/-- A section with the given tools. -/
theorem applyAll_toolSettings (c : Config) :
    Toml.Setting.applyAll g.toolSettings c.withToolDefaults =
      { c with debase := g.debase.getD "debase", llc := g.llc.getD "llc" } := by
  cases hdebase : g.debase <;> cases hllc : g.llc <;>
    simp [toolSettings, hdebase, hllc] <;> rfl

/-- A section with the given values for builds. -/
theorem applyAll_buildSettings (c : Config) :
    Toml.Setting.applyAll g.buildSettings c.withBuildDefaults =
      { c with
        profile := g.profile.getD .debug, framePointer := g.framePointer.getD .all
        manifest := g.manifest.getD "debase.json" } := by
  cases hprofile : g.profile <;> cases hframe : g.framePointer <;>
    cases hmanifest : g.manifest <;> simp [buildSettings, hprofile, hframe, hmanifest] <;> rfl

/-- A section with the given values for lowering. -/
theorem applyAll_lowerSettings (c : Config) :
    Toml.Setting.applyAll g.lowerSettings c.withLowerDefaults =
      { c with regalloc := g.regalloc.getD "pbqp", jobs := g.jobs.getD 1 } := by
  cases hregalloc : g.regalloc <;> cases hjobs : g.jobs <;>
    simp [lowerSettings, hregalloc, hjobs] <;> rfl

/-- The sections that are there. -/
def sectionSettings (tools build lower : Option Toml.Node) : List (Toml.Setting Config) :=
  [.ofValue ⟨"tools", fun c => Toml.readSection "ToolsConfig" toolFields c.withToolDefaults⟩ id
      (fun c _ => { c with debase := g.debase.getD "debase", llc := g.llc.getD "llc" }) tools,
    .ofValue ⟨"build", fun c => Toml.readSection "BuildConfig" buildFields c.withBuildDefaults⟩ id
      (fun c _ => { c with
        profile := g.profile.getD .debug, framePointer := g.framePointer.getD .all
        manifest := g.manifest.getD "debase.json" }) build,
    .ofValue ⟨"lower", fun c => Toml.readSection "LowerConfig" lowerFields c.withLowerDefaults⟩ id
      (fun c _ => { c with regalloc := g.regalloc.getD "pbqp", jobs := g.jobs.getD 1 }) lower]

/-- **Both kinds of defaults agree:** what a configuration has by itself is what the keys of a
section have that are not given. -/
theorem applyAll_sectionSettings {tools build lower : Option Toml.Node}
    (htools : tools = none → g.debase = none ∧ g.llc = none)
    (hbuild : build = none → g.profile = none ∧ g.framePointer = none ∧ g.manifest = none)
    (hlower : lower = none → g.regalloc = none ∧ g.jobs = none) :
    Toml.Setting.applyAll (g.sectionSettings tools build lower) {} = g.config := by
  obtain ⟨debase, llc, profile, framePointer, manifest, regalloc, jobs⟩ := g
  cases tools <;> cases build <;> cases lower <;> simp_all <;> rfl

variable {g} {entries : Toml.Entries}

/-- **A table with the given values is read as the configuration that has them.** Where a section is
missing, its values are what a configuration has by itself, and these are the defaults of the
keys. -/
theorem read_entries (h : g.In entries) :
    Toml.readEntries Config.sections {} entries = .ok g.config := by
  obtain ⟨tools, htools, hreadTools, hnoTools⟩ :=
    Toml.exists_node_of_hasSection g.independent_toolSettings (h ("tools", g.tools) (.head _))
  obtain ⟨build, hbuild, hreadBuild, hnoBuild⟩ :=
    Toml.exists_node_of_hasSection g.independent_buildSettings
      (h ("build", g.build) (.tail _ (.head _)))
  obtain ⟨lower, hlower, hreadLower, hnoLower⟩ :=
    Toml.exists_node_of_hasSection g.independent_lowerSettings
      (h ("lower", g.lower) (.tail _ (.tail _ (.head _))))
  have hindependent : Toml.Setting.Independent (g.sectionSettings tools build lower) := by
    constructor
    · simp only [sectionSettings, List.forall_mem_cons]
      refine ⟨Toml.Setting.sound_ofValue (fun n hn c => ?_) fun _ _ => rfl,
        Toml.Setting.sound_ofValue (fun n hn c => ?_) fun _ _ => rfl,
        Toml.Setting.sound_ofValue (fun n hn c => ?_) fun _ _ => rfl, by simp⟩
      · exact (hreadTools n hn _ _).trans (by rw [applyAll_toolSettings])
      · exact (hreadBuild n hn _ _).trans (by rw [applyAll_buildSettings])
      · exact (hreadLower n hn _ _).trans (by rw [applyAll_lowerSettings])
    · simp only [sectionSettings, List.forall_mem_cons]
      cases tools <;> cases build <;> cases lower <;> simp [Toml.Setting.ofValue]
    · exact show ["tools", "build", "lower"].Nodup by decide
  have hholds : ∀ s ∈ g.sectionSettings tools build lower,
      Toml.Holds entries s.field.name s.given := by
    simp only [sectionSettings, List.forall_mem_cons, Toml.Setting.ofValue, Option.map_id_fun, id]
    exact ⟨htools, hbuild, hlower, by simp⟩
  have hdefaults : Toml.Setting.applyAll (g.sectionSettings tools build lower) {} = g.config := by
    refine applyAll_sectionSettings g (fun hnone => ?_) (fun hnone => ?_) fun hnone => ?_
    · simpa [toolSettings, textSetting, Toml.Setting.ofValue] using hnoTools hnone
    · simpa [buildSettings, textSetting, Toml.Setting.ofValue] using hnoBuild hnone
    · simpa [lowerSettings, textSetting, Toml.Setting.ofValue] using hnoLower hnone
  rw [← hdefaults]
  exact Toml.readEntries_settings hindependent hholds {}

theorem isEmpty_getD {given : Option String} {other : String} (h : given ≠ some "")
    (hother : other ≠ "") : (given.getD other).isEmpty = false := by
  cases given with
  | none => simpa using hother
  | some s => simpa using h

/-- Values that a build can use pass the check. -/
theorem check_config (h : g.Proper) : g.config.check = .ok g.config := by
  have hjobs : g.config.jobs ≠ 0 := by
    rcases hgiven : g.jobs with _ | n
    · simp [config, hgiven]
    · have := h.jobs n hgiven
      simp only [config, hgiven, Option.getD_some]
      omega
  have hdebase : g.config.debase.isEmpty = false := isEmpty_getD h.debase (by decide)
  have hllc : g.config.llc.isEmpty = false := isEmpty_getD h.llc (by decide)
  have hmanifest : g.config.manifest.isEmpty = false := isEmpty_getD h.manifest (by decide)
  simp [check, hdebase, hllc, hmanifest, hjobs]

/-- **Lines that give the values build a table that has them.** -/
theorem Told.inEntries {l : List Toml.Statement} {cs : List Char} (h : g.Told l)
    (hlines : Toml.SpellsLines l cs) (hentries : Toml.assemble l = some entries) :
    g.In entries := by
  intro s hs
  have hkey : ∃ k, k ∈ s.2 := by
    simp only [sections, List.mem_cons, List.not_mem_nil, or_false] at hs
    rcases hs with rfl | rfl | rfl <;> exact ⟨_, .head _⟩
  obtain ⟨k, hk⟩ := hkey
  have helement : ∀ path, .element path ∈ l → path ≠ [s.1] := by
    rintro path hmem rfl
    exact ((h.key s hs k hk).1.element _ hmem).1 ⟨[k.1], rfl⟩
  have hvalue : ∀ v, ([s.1], v) ∈ Toml.told [] l → v.IsSection := by
    intro v hv
    obtain ⟨inner, rfl⟩ := h.value s hs v hv
    obtain ⟨path, hmem⟩ := Toml.exists_entry_of_told hv
    exact hlines.isSection hmem
  obtain ⟨inner, hinner, hholds⟩ := Toml.exists_hasSection_assemble hentries helement hvalue
  refine ⟨inner, hinner, fun k hk => ?_⟩
  obtain ⟨hclear, hgiven⟩ := h.key s hs k hk
  rw [← hgiven]
  exact hholds k.1 hclear

/-- A text that spells such a table is loaded as the configuration. -/
theorem parse_of_in {text : String} (h : g.Proper) (hentries : Toml.parse text = some entries)
    (hin : g.In entries) : Config.parse text = .ok g.config := by
  rw [Config.parse, Config.read, hentries]
  dsimp only
  rw [read_entries hin]
  exact check_config h

end Given

/-! ### Any text -/

/-- **What loading any text comes to:** settings that a build can use, or one of three kinds of
errors. -/
theorem usable_or_error (text : String) :
    (∃ c, parse text = .ok c ∧ c.Usable) ∨
      (∃ reason, parse text = .error (.malformed reason)) ∨
      (∃ value, parse text = .error (.missing value)) ∨ parse text = .error .noJobs := by
  rcases hread : read text with m | c
  · exact .inr (.inl ⟨reason m, by rw [parse, hread]⟩)
  have hparse : parse text = c.check := by rw [parse, hread]
  rw [hparse]
  rcases hcheck : c.check with e | d
  · unfold check at hcheck
    split at hcheck
    · exact .inr (.inr (.inl ⟨_, hcheck.symm⟩))
    split at hcheck
    · exact .inr (.inr (.inl ⟨_, hcheck.symm⟩))
    split at hcheck
    · exact .inr (.inr (.inl ⟨_, hcheck.symm⟩))
    split at hcheck
    · exact .inr (.inr (.inr hcheck.symm))
    · exact absurd hcheck (by simp)
  · obtain ⟨rfl, husable⟩ := usable_of_check hcheck
    exact .inl ⟨d, rfl, husable⟩

end Config

end ModuleBuild
