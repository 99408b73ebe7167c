import ModuleBuild.Manifest
import ModuleBuild.Proofs.Cache.Config
import ModuleBuild.Proofs.Cache.History

/-!
# What a skipped call stands for

Take a first tool that is deterministic: where it ends well, the manifest and the units hang only on
its own bytes, on those of the target and on its call. If such a call is skipped, are the files
those that it would have made? The fingerprint is taken of the tool, the target, the manifest and
the configuration texts, and of nothing else. So the manifest is the one that the tool would have
written, if the last call that has put a fingerprint into the same file was for the same target and
the same name of the manifest, and the texts tell its flags and input files; and a unit is the one
that it would have written, unless a later call has changed it. None of this can be left out.

## Main definitions

* `Product` — what a tool makes, and `Product.LiesIn` — it is found in the files
* `Builder.Deterministic` — what the first tool makes is the product
* `Builder.Transparent` — after some calls, a skipped call leaves what the tool would have made
* `Builder.careful` — a tool that looks at what it has written
* `Builder.ChangedBy` — one of some calls changes a file

## Main results

* `Builder.deterministic_careful` — the tool that looks at what it has written is deterministic
* `Builder.read_stateAfter` — files that no call changes are left alone
* `Builder.skipped_stands_for_call` — what a skipped call leaves
* `Builder.not_transparent` — and what it may leave instead
-/

namespace ModuleBuild

variable {σ : Type}

/-! ### Products -/

/-- The target and the manifest of a call of the first tool. -/
def Invocation.ends? (i : Invocation) : Option (Path × Path) :=
  match i.arguments with
  | target :: _ :: lib :: name :: _ =>
    some (⟨target⟩, Path.join ⟨lib⟩
      ⟨String.ofList (name.toList.drop "--output-filenames=".toList.length)⟩)
  | _ => none

/-- What a tool makes of its own bytes, of those of the target, and of its call. -/
structure Product where
  /-- The manifest. -/
  manifest : Bytes → Bytes → Invocation → Bytes
  /-- The units. -/
  unit : Bytes → Bytes → Invocation → Path → Bytes

namespace Product

variable {product : Product} {files files' : FileTree} {cwd : Location} {i : Invocation}
  {manifest : Path} {tool target : Bytes}

/-- The product is found in the files: the manifest, and every unit that it lists. -/
structure LiesIn (product : Product) (files : FileTree) (cwd : Location) (i : Invocation)
    (manifest : Path) (tool target : Bytes) : Prop where
  /-- The manifest is the one that the tool makes. -/
  manifest_eq : files.read cwd manifest = .ok (product.manifest tool target i)
  /-- So is every unit. -/
  unit_eq : ∀ m, Manifest.load files cwd manifest = .ok m → ∀ unit ∈ m.units i.cwd,
    files.read cwd unit = .ok (product.unit tool target i unit)

/-- Whether a file has a content. -/
def hasContent (files : FileTree) (cwd : Location) (p : Path) (content : Bytes) : Bool :=
  (files.read cwd p).toOption == some content

theorem hasContent_iff {p : Path} {content : Bytes} :
    hasContent files cwd p content = true ↔ files.read cwd p = .ok content := by
  unfold hasContent
  cases files.read cwd p <;> simp [Except.toOption]

/-- Whether the product is found in the files. -/
def isIn (product : Product) (files : FileTree) (cwd : Location) (i : Invocation)
    (manifest : Path) (tool target : Bytes) : Bool :=
  hasContent files cwd manifest (product.manifest tool target i) &&
    match Manifest.load files cwd manifest with
    | .ok m => (m.units i.cwd).all fun unit =>
        hasContent files cwd unit (product.unit tool target i unit)
    | .error _ => true

theorem isIn_iff : product.isIn files cwd i manifest tool target = true ↔
    product.LiesIn files cwd i manifest tool target := by
  unfold isIn
  rw [Bool.and_eq_true, hasContent_iff]
  rcases hload : Manifest.load files cwd manifest with e | m
  · exact ⟨fun h => ⟨h.1, by simp [hload]⟩, fun h => ⟨h.manifest_eq, rfl⟩⟩
  · simp only [List.all_eq_true, hasContent_iff]
    constructor
    · rintro ⟨hmanifest, hunits⟩
      refine ⟨hmanifest, fun m' hm' => ?_⟩
      obtain rfl := Except.ok.inj (hload.symm.trans hm')
      exact hunits
    · exact fun h => ⟨h.manifest_eq, h.unit_eq m hload⟩

instance : Decidable (product.LiesIn files cwd i manifest tool target) :=
  decidable_of_iff _ isIn_iff

/-- A manifest is read from its content. -/
theorem load_congr (h : files.read cwd manifest = files'.read cwd manifest) :
    Manifest.load files cwd manifest = Manifest.load files' cwd manifest := by
  simp only [Manifest.load, FileTree.readText, h]

/-- Makes a product for a call of the first tool, and gives the files back if all of it is found in
them afterwards and the tool and the target are what they were. -/
def make? (product : Product) (i : Invocation) (files : FileTree) : Option FileTree := do
  let (target, manifest) ← i.ends?
  let tool ← (files.read [] i.program).toOption
  let before ← (files.read [] target).toOption
  let started ← (files.write [] manifest (product.manifest tool before i)).toOption
  let listed ← (Manifest.load started [] manifest).toOption
  let made ← (listed.units i.cwd).foldlM (fun files unit =>
    (files.write [] unit (product.unit tool before i unit)).toOption) started
  if hasContent made [] i.program tool ∧ hasContent made [] target before ∧
    product.LiesIn made [] i manifest tool before then some made else none

end Product

/-! ### Deterministic tools -/

namespace Builder

variable {b : Builder σ} {product : Product} {st st' : BuildState σ} {requests : List Request}
  {r r' : Request}

/-- The first tool is deterministic: where it ends well it has left itself and the target alone,
and has made the product of their bytes. -/
structure Deterministic (b : Builder σ) (product : Product) (r : Request) : Prop where
  /-- The tool and the target are what they were. -/
  kept : ∀ {files tools output files' tools'},
    b.runner.run (b.debaseInvocation r) files tools = (.ok output, files', tools') →
    output.succeeded = true →
    files'.read b.cwd b.toolchain.debase = files.read b.cwd b.toolchain.debase ∧
      files'.read b.cwd r.targetPath = files.read b.cwd r.targetPath
  /-- The product is made. -/
  made : ∀ {files tools output files' tools' tool target},
    b.runner.run (b.debaseInvocation r) files tools = (.ok output, files', tools') →
    output.succeeded = true →
    files.read b.cwd b.toolchain.debase = .ok tool →
    files.read b.cwd r.targetPath = .ok target →
    product.LiesIn files' b.cwd (b.debaseInvocation r) r.manifestPath tool target

/-- After some calls, the latest of which comes first, a call that is skipped leaves what the tool
would have made of the bytes that are there. -/
def Transparent (b : Builder σ) (product : Product) (st : BuildState σ) (requests : List Request)
    (r : Request) : Prop :=
  ∀ outcome st', (b.debase r).run (stateAfter st (requests.map (.call b))) = (.ok outcome, st') →
    outcome.cached = true →
    ∀ tool target, st'.files.read b.cwd b.toolchain.debase = .ok tool →
      st'.files.read b.cwd r.targetPath = .ok target →
      product.LiesIn st'.files b.cwd (b.debaseInvocation r) r.manifestPath tool target

/-- After a refresh the product is found. -/
theorem Refreshes.liesIn {l : Location} {s : Snapshot} (h : b.Refreshes r st st' l s)
    (hdet : b.Deterministic product r) :
    product.LiesIn st'.files b.cwd (b.debaseInvocation r) r.manifestPath s.tool s.target := by
  obtain ⟨output, called, succeeded⟩ := h.called
  obtain ⟨htool, htarget⟩ := hdet.kept called.run_eq succeeded
  exact hdet.made called.run_eq succeeded (htool.symm.trans h.reads.tool)
    (htarget.symm.trans h.reads.target)

/-- Requests with the same configuration texts call the tool in the same way if they are for one
target and one manifest. -/
theorem debaseInvocation_eq (hr' : r'.Plain) (hr : r.Plain)
    (hconfig : r'.configStrings = r.configStrings) (hdir : r'.outputDir = r.outputDir)
    (htarget : r'.targetPath = r.targetPath) (hname : r'.manifestName = r.manifestName) :
    b.debaseInvocation r' = b.debaseInvocation r := by
  obtain ⟨hflags, hfiles⟩ := hr'.config_inj hr hconfig
  simp only [debaseInvocation, Request.libDir, hdir, htarget, hname, hflags, hfiles]

/-! ### A tool that looks at what it has written -/

theorem ends?_debaseInvocation (b : Builder σ) (r : Request) :
    (b.debaseInvocation r).ends? = some (r.targetPath, r.manifestPath) := by
  have hname : String.ofList ((Octets.ofText s!"--output-filenames={r.manifestName}").toList.drop
      "--output-filenames=".toList.length) = Octets.ofText r.manifestName := by
    have hflag : Octets.ofText s!"--output-filenames={r.manifestName}" =
        "--output-filenames=" ++ Octets.ofText r.manifestName := by
      rw [← Octets.ofText_of_ascii (s := "--output-filenames=") (by decide), ← Octets.ofText_append]
      rfl
    rw [hflag, String.toList_append, List.drop_left, String.ofList_toList]
  exact congrArg (fun name => some (r.targetPath, r.libDir.join ⟨name⟩)) hname

/-- A first tool that makes a product, and fails if it does not find it in the files. -/
def careful (product : Product) : Builder Unit where
  runner.run i files tools :=
    match product.make? i files with
    | some made => (.ok { code := some 0 }, made, tools)
    | none => (.ok { code := some 1 }, files, tools)
  toolchain := ⟨⟨"/debase"⟩, ⟨"/llc"⟩⟩
  lowering := {}
  cwd := []

/-- What is found after the tool has made the product. -/
theorem liesIn_of_make? {files made : FileTree}
    (h : product.make? ((careful product).debaseInvocation r) files = some made) :
    ∃ tool target, files.read [] ⟨"/debase"⟩ = .ok tool ∧ files.read [] r.targetPath = .ok target ∧
      made.read [] ⟨"/debase"⟩ = .ok tool ∧ made.read [] r.targetPath = .ok target ∧
      product.LiesIn made [] ((careful product).debaseInvocation r) r.manifestPath tool target := by
  simp only [Product.make?, ends?_debaseInvocation, Option.bind_eq_bind, Option.bind_some,
    Option.bind_eq_some_iff] at h
  obtain ⟨tool, htool, target, htarget, -, -, -, -, made', -, h⟩ := h
  have hbefore : ∀ {p content}, (files.read [] p).toOption = some content →
      files.read [] p = .ok content :=
    fun hp => Product.hasContent_iff.1 (by simp [Product.hasContent, hp])
  split at h
  · rename_i hfound
    obtain rfl := Option.some.inj h
    simp only [Product.hasContent_iff] at hfound
    obtain ⟨htool', htarget', hlies⟩ := hfound
    exact ⟨tool, target, hbefore htool, hbefore htarget, htool', htarget', hlies⟩
  · simp at h

/-- **The tool that looks at what it has written is deterministic.** -/
theorem deterministic_careful (product : Product) (r : Request) :
    (careful product).Deterministic product r := by
  have hmade : ∀ {files : FileTree} {tools : Unit} {output files' tools'},
      (careful product).runner.run ((careful product).debaseInvocation r) files tools =
        (.ok output, files', tools') → output.succeeded = true →
      product.make? ((careful product).debaseInvocation r) files = some files' := by
    intro files tools output files' tools' hrun hsucceeded
    dsimp only [careful] at hrun
    split at hrun
    · rename_i made hmake
      cases hrun
      exact hmake
    · cases hrun
      simp [ToolOutput.succeeded] at hsucceeded
  constructor
  · intro files tools output files' tools' hrun hsucceeded
    obtain ⟨tool, target, htool, htarget, htool', htarget', -⟩ :=
      liesIn_of_make? (hmade hrun hsucceeded)
    exact ⟨htool'.trans htool.symm, htarget'.trans htarget.symm⟩
  · intro files tools output files' tools' tool target hrun hsucceeded htool htarget
    obtain ⟨tool', target', htool', htarget', -, -, hlies⟩ :=
      liesIn_of_make? (hmade hrun hsucceeded)
    obtain rfl := Except.ok.inj (htool'.symm.trans htool)
    obtain rfl := Except.ok.inj (htarget'.symm.trans htarget)
    exact hlies

/-- A product with a manifest for one request that is unlike the manifest for all others. Its units
are copies of the target. -/
def oddProduct (odd : Request) : Product where
  manifest _ _ i :=
    if i = smallBuilder.debaseInvocation odd then Utf8.encode "\x7b\"files\": \"lib/v.bc\"\x7d"
    else Utf8.encode "\x7b\"files\": \"lib/u.bc\"\x7d"
  unit _ target _ _ := target

/-- A request for a target in the directory of the samples, with a manifest and input files. -/
def requestFor (target manifestName : String) (files : List String) : Request where
  target := ⟨target⟩
  outputDir := ⟨"/o"⟩
  profile := .debug
  framePointer := .all
  files := files.map Path.mk
  passthrough := []
  manifestName := manifestName
  publish := .archive none

/-- The tool and four targets, two of which have the same name and content. -/
def sharedTree : FileTree :=
  { entries := [("debase", .file [1] true),
      ("o", .directory [("a.dll", .file [2] false), ("b.dll", .file [3] false),
        ("x", .directory [("c.dll", .file [4] false)]),
        ("y", .directory [("c.dll", .file [4] false)])])] }

/-- The state before the calls. -/
def sharedState : BuildState Unit := ⟨sharedTree, (), .empty⟩

/-- Two requests for different targets, with one manifest; the latest comes first. -/
def sharedRequests : List Request :=
  [requestFor "b.dll" "m.json" [], requestFor "a.dll" "m.json" []]

/-! ### Files that calls leave alone -/

/-- A call changes a file. -/
inductive Changes (b : Builder σ) (r : Request) (st : BuildState σ) (p : Path) : Prop where
  /-- The tool does. -/
  | tool {answer : Except FileFault ToolOutput} {st' : BuildState σ}
    (called : b.Called r st answer st')
    (changed : st'.files.read b.cwd p ≠ st.files.read b.cwd p) : Changes b r st p
  /-- The tool ends well with a manifest, and taking the fingerprint does: it is put into the file,
  or the file is emptied for it and there is no room. -/
  | fingerprint {output : ToolOutput} {st' : BuildState σ} (called : b.Called r st (.ok output) st')
    (succeeded : output.succeeded = true) (written : st'.files.isFile b.cwd r.manifestPath = true)
    (changed : ((sidecar r).afterRefresh st'.files b.cwd (b.fingerprintInputs r)).read b.cwd p ≠
      st'.files.read b.cwd p) : Changes b r st p

/-- One of some calls, the latest of which comes first, changes a file. -/
def ChangedBy (b : Builder σ) (st : BuildState σ) (p : Path) : List Request → Prop
  | [] => False
  | r :: earlier => b.ChangedBy st p earlier ∨ b.Changes r (stateAfter st (earlier.map (.call b))) p

variable {p : Path} {content : Bytes}

/-- What is read after the tool has ended is read after the refresh, unless the fingerprint is put
there. -/
theorem Refreshes.read_debase {l : Location} {s : Snapshot} (h : b.Refreshes r st st' l s)
    (hne : st'.files.locate b.cwd p ≠ .ok l) (hp : st'.files.read b.cwd p = .ok content) :
    ((b.debase r).run st).2.files.read b.cwd p = .ok content := by
  obtain ⟨files, hsave, hrun⟩ := h.run_debase
  obtain ⟨m, hm⟩ := FileTree.locate_of_read hp
  have hne' : m ≠ l := fun hml => hne (hml ▸ hm)
  rw [hrun, ← hp]
  exact FileTree.read_of_write_of_ne (Sidecar.save_eq_ok.1 hsave) h.located hm hne'

/-- **A call leaves a file alone** unless its tool or its fingerprint changes it. -/
theorem read_debase (hno : ¬ b.Changes r st p) (hp : st.files.read b.cwd p = .ok content) :
    ((b.debase r).run st).2.files.read b.cwd p = .ok content := by
  have kept : ∀ {answer st'}, b.Called r st answer st' → st'.files.read b.cwd p = .ok content := by
    intro answer st' called
    rw [← hp]
    exact Classical.not_not.1 fun changed => hno (.tool called changed)
  have left : ∀ {output st'}, b.Called r st (.ok output) st' → output.succeeded = true →
      st'.files.isFile b.cwd r.manifestPath = true →
      ((sidecar r).afterRefresh st'.files b.cwd (b.fingerprintInputs r)).read b.cwd p =
        .ok content := by
    intro output st' called succeeded written
    rw [← kept called]
    exact Classical.not_not.1 fun changed => hno (.fingerprint called succeeded written changed)
  have ends := debased_run b r st
  generalize (b.debase r).run st = out at ends ⊢
  obtain ⟨result, final⟩ := out
  cases ends with
  | targetMissing => exact hp
  | cached => exact hp
  | notCreated => exact FileTree.read_createDirectories hp
  | notSpawned called => exact kept called
  | toolFailed called => exact kept called
  | manifestNotWritten called => exact kept called
  | notRefreshed called succeeded written => exact left called succeeded written
  | refreshed called succeeded written refreshed =>
    obtain rfl := Sidecar.afterRefresh_of_ok refreshed
    exact left called succeeded written

/-- So do several calls. -/
theorem read_stateAfter (hno : ¬ b.ChangedBy st p requests)
    (hp : st.files.read b.cwd p = .ok content) :
    (stateAfter st (requests.map (.call b))).files.read b.cwd p = .ok content := by
  induction requests with
  | nil => exact hp
  | cons r earlier ih =>
    simp only [ChangedBy, not_or] at hno
    exact read_debase hno.2 (ih hno.1)

/-! ### What a skipped call stands for -/

/-- The last refresh after some calls of one builder is one of these calls. -/
theorem exists_request_of_lastRefresh {b' : Builder σ} {l : Location}
    {earlier : List (Event σ)} {s : Snapshot}
    (h : LastRefresh st l (requests.map (.call b)) b' r' earlier st' s) :
    b' = b ∧ ∃ later before, requests = later ++ r' :: before ∧ earlier = before.map (.call b) := by
  obtain ⟨⟨later, hevents⟩, -⟩ := h.refreshes
  obtain ⟨later', rest, rfl, -, hrest⟩ := List.map_eq_append_iff.1 hevents
  obtain ⟨r'', before, rfl, hcall, hbefore⟩ := List.map_eq_cons_iff.1 hrest
  cases hcall
  exact ⟨rfl, later', before, rfl, hbefore.symm⟩

/-- **What a skipped call stands for.** After calls of a deterministic tool in one output
directory, a skipped call comes after a last refresh of the same file. If that was for the same
target and the same name of the manifest, and the flags and input files of both can be told from
their texts, then the manifest is the one that the tool would have written; and so is each unit,
unless the fingerprint was put into it or a later call has changed it. -/
theorem skipped_stands_for_call {outcome : DebaseOutcome}
    (hdet : ∀ r' ∈ requests, b.Deterministic product r')
    (hdir : ∀ r' ∈ requests, r'.outputDir = r.outputDir)
    (huntouched : ∀ l, (stateAfter st (requests.map (.call b))).files.locate b.cwd
      (sidecar r).path = .ok l → Untouched l st (requests.map (.call b)))
    (hrun : (b.debase r).run (stateAfter st (requests.map (.call b))) = (.ok outcome, st'))
    (hcached : outcome.cached = true) :
    ∃ l, st'.files.locate b.cwd (sidecar r).path = .ok l ∧
      ∃ later r' earlier, requests = later ++ r' :: earlier ∧ ∃ st₁ old now,
        LastRefresh st l (requests.map (.call b)) b r' (earlier.map (.call b)) st₁ old ∧
        (b.fingerprintInputs r).Reads st'.files b.cwd now ∧
        (old.Fits → now.Fits → ¬ old.Collides now → r'.Plain → r.Plain →
          r'.targetPath = r.targetPath → r'.manifestName = r.manifestName →
          st'.files.read b.cwd r.manifestPath =
              .ok (product.manifest now.tool now.target (b.debaseInvocation r)) ∧
            ∀ m, Manifest.load st'.files b.cwd r.manifestPath = .ok m →
              ∀ unit ∈ m.units r.outputDir,
                st'.files.read b.cwd unit =
                    .ok (product.unit now.tool now.target (b.debaseInvocation r) unit) ∨
                  st₁.files.locate b.cwd unit = .ok l ∨
                  b.ChangedBy (stateAfter st ((r' :: earlier).map (.call b))) unit later) := by
  obtain ⟨hfresh, rfl⟩ := fresh_of_cached hrun hcached
  obtain ⟨l, hl, b', r', events, st₁, old, now, hlast, hnow, hhash⟩ :=
    Untouched.lastRefresh_of_isUpToDate huntouched hfresh
  obtain ⟨rfl, later, earlier, hrequests, rfl⟩ := exists_request_of_lastRefresh hlast
  have hmem : r' ∈ requests := by simp [hrequests]
  have hrefresh := hlast.refreshes.2
  refine ⟨l, hl, later, r', earlier, hrequests, st₁, old, now, hlast, hnow, ?_⟩
  intro hold hfits hno hplain' hplain htarget hname
  obtain rfl := Snapshot.eq_of_hash_eq hold hfits hno hhash
  have hcall : b'.debaseInvocation r' = b'.debaseInvocation r :=
    debaseInvocation_eq hplain' hplain (hrefresh.reads.config.trans hnow.config.symm)
      (hdir r' hmem) htarget hname
  have hpath : r'.manifestPath = r.manifestPath := by
    simp only [Request.manifestPath, Request.libDir, hdir r' hmem, hname]
  have hlies := hrefresh.liesIn (hdet r' hmem)
  rw [hcall, hpath] at hlies
  have hread : st₁.files.read b'.cwd r.manifestPath =
      (stateAfter st (requests.map (.call b'))).files.read b'.cwd r.manifestPath := by
    rw [← hpath]
    exact hrefresh.reads.manifest.trans (hpath ▸ hnow.manifest.symm)
  refine ⟨hread ▸ hlies.manifest_eq, fun m hload unit hunit => ?_⟩
  have hthen := hlies.unit_eq m ((Product.load_congr hread).trans hload) unit hunit
  -- A unit that is elsewhere now was changed by the refresh or by a later call.
  by_cases hput : st₁.files.locate b'.cwd unit = .ok l
  · exact .inr (.inl hput)
  by_cases hchanged : b'.ChangedBy (stateAfter st ((r' :: earlier).map (.call b'))) unit later
  · exact .inr (.inr hchanged)
  · have hafter : (stateAfter st ((r' :: earlier).map (.call b'))).files.read b'.cwd unit =
        .ok (product.unit old.tool old.target (b'.debaseInvocation r) unit) :=
      hrefresh.read_debase hput hthen
    have hlater := read_stateAfter hchanged hafter
    rw [← stateAfter_append, ← List.map_append, ← hrequests] at hlater
    exact .inl hlater

/-- Nobody but the builder writes the fingerprint for the first of the two targets. -/
theorem untouched_shared : ∀ l, (stateAfter sharedState
      (sharedRequests.map (.call (careful (oddProduct smallRequest))))).files.locate
        (careful (oddProduct smallRequest)).cwd
        (sidecar (requestFor "a.dll" "m.json" [])).path = .ok l →
    Untouched l sharedState (sharedRequests.map (.call (careful (oddProduct smallRequest)))) := by
  intro l hl
  have hplace : ((stateAfter sharedState
      (sharedRequests.map (.call (careful (oddProduct smallRequest))))).files.locate
        (careful (oddProduct smallRequest)).cwd
        (sidecar (requestFor "a.dll" "m.json" [])).path).toOption = some ["o", "a.dll.xxh3"] := by
    decide +kernel
  rw [hl] at hplace
  obtain rfl : l = ["o", "a.dll.xxh3"] := Option.some.inj hplace
  refine ⟨⟨?_, ?_⟩, ?_⟩
  · have hnone : sharedState.files.entryAt? ["o", "a.dll.xxh3"] = none := by decide +kernel
    simp [Untouched, hnone]
  · refine Event.spares_call ?_
    decide +kernel
  · refine Event.spares_call ?_
    decide +kernel

/-- The first target is skipped after the second one. -/
theorem run_shared : ((careful (oddProduct smallRequest)).debase
      (requestFor "a.dll" "m.json" [])).run
      (stateAfter sharedState (sharedRequests.map (.call (careful (oddProduct smallRequest))))) =
    (.ok ⟨(requestFor "a.dll" "m.json" []).manifestPath, none⟩,
      stateAfter sharedState (sharedRequests.map (.call (careful (oddProduct smallRequest))))) :=
  run_debase_of_fresh (by decide +kernel) (by decide +kernel)

/-- The manifest is that of the first target, and its unit was changed for the second one. -/
theorem skipped_stands_for_call_shared :
    let b := careful (oddProduct smallRequest);
    let product := oddProduct smallRequest;
    let r := requestFor "a.dll" "m.json" [];
    let st' := stateAfter sharedState (sharedRequests.map (.call b));
    (b.debase r).run st' = (.ok ⟨r.manifestPath, none⟩, st') ∧
    ∃ l, st'.files.locate b.cwd (sidecar r).path = .ok l ∧
      ∃ later r' earlier, sharedRequests = later ++ r' :: earlier ∧ ∃ st₁ old now,
        LastRefresh sharedState l (sharedRequests.map (.call b)) b r' (earlier.map (.call b))
          st₁ old ∧
        (b.fingerprintInputs r).Reads st'.files b.cwd now ∧
        (old.Fits → now.Fits → ¬ old.Collides now → r'.Plain → r.Plain →
          r'.targetPath = r.targetPath → r'.manifestName = r.manifestName →
          st'.files.read b.cwd r.manifestPath =
              .ok (product.manifest now.tool now.target (b.debaseInvocation r)) ∧
            ∀ m, Manifest.load st'.files b.cwd r.manifestPath = .ok m →
              ∀ unit ∈ m.units r.outputDir,
                st'.files.read b.cwd unit =
                    .ok (product.unit now.tool now.target (b.debaseInvocation r) unit) ∨
                  st₁.files.locate b.cwd unit = .ok l ∨
                  b.ChangedBy (stateAfter sharedState ((r' :: earlier).map (.call b))) unit
                    later) :=
  ⟨run_shared, skipped_stands_for_call (fun r' _ => deterministic_careful _ r')
    (by simp [sharedRequests, requestFor]) untouched_shared run_shared rfl⟩

/-! ### What a skipped call may leave instead -/

/-- Whether a call is skipped after some others, although its product is not found. -/
def skipsWithout (b : Builder σ) (product : Product) (st : BuildState σ) (requests : List Request)
    (r : Request) (tool target : Bytes) : Bool :=
  let files := (stateAfter st (requests.map (.call b))).files
  files.contains b.cwd r.targetPath && b.isUpToDate r files &&
    Product.hasContent files b.cwd b.toolchain.debase tool &&
    Product.hasContent files b.cwd r.targetPath target &&
    !decide (product.LiesIn files b.cwd (b.debaseInvocation r) r.manifestPath tool target)

theorem not_transparent_of_skipsWithout (tool target : Bytes)
    (h : b.skipsWithout product st requests r tool target = true) :
    ¬ b.Transparent product st requests r := by
  intro htransparent
  simp only [skipsWithout, Bool.and_eq_true, Bool.not_eq_true', decide_eq_false_iff_not,
    Product.hasContent_iff] at h
  obtain ⟨⟨⟨⟨hfound, hfresh⟩, htool⟩, htarget⟩, hno⟩ := h
  exact hno (htransparent _ _ (run_debase_of_fresh hfound hfresh) rfl tool target htool htarget)

/-- A call for another target writes a unit after the refresh. -/
theorem skipsWithout_unit :
    (careful (oddProduct smallRequest)).skipsWithout (oddProduct smallRequest) sharedState
      sharedRequests (requestFor "a.dll" "m.json" []) [1] [2] = true := by
  decide +kernel

/-- The refresh was for another target with the same name and content. -/
theorem skipsWithout_target :
    (careful (oddProduct (requestFor "y/c.dll" "m.json" []))).skipsWithout
      (oddProduct (requestFor "y/c.dll" "m.json" [])) sharedState
      [requestFor "x/c.dll" "m.json" []]
      (requestFor "y/c.dll" "m.json" []) [1] [4] = true := by
  decide +kernel

/-- The refresh was for a manifest of another name. A call for another target leaves one of the same
content under the name. -/
theorem skipsWithout_name :
    (careful (oddProduct (requestFor "a.dll" "n.json" []))).skipsWithout
      (oddProduct (requestFor "a.dll" "n.json" [])) sharedState
      [requestFor "b.dll" "n.json" [], requestFor "a.dll" "m.json" []]
      (requestFor "a.dll" "n.json" []) [1] [2] = true := by
  decide +kernel

/-- The refresh was for other input files whose paths are the same text between semicolons. -/
theorem skipsWithout_files :
    (careful (oddProduct (requestFor "a.dll" "m.json" ["/a", "/b/x"]))).skipsWithout
      (oddProduct (requestFor "a.dll" "m.json" ["/a", "/b/x"])) sharedState
      [requestFor "a.dll" "m.json" ["/a;/b/x"]]
      (requestFor "a.dll" "m.json" ["/a", "/b/x"]) [1] [2] = true := by
  decide +kernel

/-- The refresh was for an input file whose path spells no text and is shown in the same way. -/
theorem skipsWithout_shown :
    (careful (oddProduct (requestFor "a.dll" "m.json" ["/a\u00fe/f"]))).skipsWithout
      (oddProduct (requestFor "a.dll" "m.json" ["/a\u00fe/f"])) sharedState
      [requestFor "a.dll" "m.json" ["/a\u00ff/f"]]
      (requestFor "a.dll" "m.json" ["/a\u00fe/f"]) [1] [2] = true := by
  decide +kernel

/-- **Skipped calls do not always stand for calls**, not even those of a deterministic tool after
nothing but such calls. -/
theorem not_transparent :
    (∀ odd r, (careful (oddProduct odd)).Deterministic (oddProduct odd) r) ∧
    ¬ (careful (oddProduct smallRequest)).Transparent (oddProduct smallRequest) sharedState
      sharedRequests (requestFor "a.dll" "m.json" []) ∧
    ¬ (careful (oddProduct (requestFor "y/c.dll" "m.json" []))).Transparent
      (oddProduct (requestFor "y/c.dll" "m.json" [])) sharedState
      [requestFor "x/c.dll" "m.json" []] (requestFor "y/c.dll" "m.json" []) ∧
    ¬ (careful (oddProduct (requestFor "a.dll" "n.json" []))).Transparent
      (oddProduct (requestFor "a.dll" "n.json" [])) sharedState
      [requestFor "b.dll" "n.json" [], requestFor "a.dll" "m.json" []]
      (requestFor "a.dll" "n.json" []) ∧
    ¬ (careful (oddProduct (requestFor "a.dll" "m.json" ["/a", "/b/x"]))).Transparent
      (oddProduct (requestFor "a.dll" "m.json" ["/a", "/b/x"])) sharedState
      [requestFor "a.dll" "m.json" ["/a;/b/x"]]
      (requestFor "a.dll" "m.json" ["/a", "/b/x"]) ∧
    ¬ (careful (oddProduct (requestFor "a.dll" "m.json" ["/a\u00fe/f"]))).Transparent
      (oddProduct (requestFor "a.dll" "m.json" ["/a\u00fe/f"])) sharedState
      [requestFor "a.dll" "m.json" ["/a\u00ff/f"]]
      (requestFor "a.dll" "m.json" ["/a\u00fe/f"]) :=
  ⟨fun _ _ => deterministic_careful _ _,
    not_transparent_of_skipsWithout [1] [2] skipsWithout_unit,
    not_transparent_of_skipsWithout [1] [4] skipsWithout_target,
    not_transparent_of_skipsWithout [1] [2] skipsWithout_name,
    not_transparent_of_skipsWithout [1] [2] skipsWithout_files,
    not_transparent_of_skipsWithout [1] [2] skipsWithout_shown⟩

end Builder

end ModuleBuild
