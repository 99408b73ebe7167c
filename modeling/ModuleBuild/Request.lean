import ModuleBuild.Config.Error
import ModuleBuild.Profile

/-!
# Build requests

A request says what is built and how: one target module, the input files and flags for the first
tool, the profile, and whether the objects are listed in a response file or put into an archive.
It is made once from the wishes of the caller. All its paths are absolute, and its lists are split
at semicolons.

## Main definitions

* `RequestOptions` — the wishes of the caller
* `Request`, `Request.ofOptions` — the request that they make
* `Request.targetPath`, `libDir`, `manifestPath`, `optDir`, `objectFor` — where things lie
* `Request.configStrings` — what the first tool's work hangs on besides the files it reads

## Implementation notes

The working directory is a parameter of `Request.ofOptions`, and the output directory is that
directory where none is wished for.
-/

namespace ModuleBuild

/-- The wishes of the caller. -/
structure RequestOptions where
  /-- The target module, seen from the output directory. -/
  target : String
  /-- The output directory. -/
  outputDir : Option Path := none
  /-- The build profile. -/
  profile : Profile := .debug
  /-- The frame-pointer policy. -/
  framePointer : FramePointer := .all
  /-- Input files, several of them in one text between semicolons. -/
  files : List String := []
  /-- Flags for the first tool, between semicolons. -/
  passthrough : String := ""
  /-- The name of the manifest. -/
  manifestName : String
  /-- An archive, perhaps with a name. -/
  archive : Option String := none
  /-- A response file, perhaps with a name. -/
  response : Option String := none

/-- What becomes of the objects. -/
inductive PublishMode where
  /-- They are listed in a file. -/
  | response (path : Path)
  /-- They are put into an archive. -/
  | archive (name : Option String)
  deriving DecidableEq

/-- A request that can be carried out. -/
structure Request where
  /-- The target module as it was given. -/
  target : Path
  /-- The output directory. -/
  outputDir : Path
  /-- The build profile. -/
  profile : Profile
  /-- The frame-pointer policy. -/
  framePointer : FramePointer
  /-- The input files. -/
  files : List Path
  /-- The flags for the first tool. -/
  passthrough : List String
  /-- The name of the manifest. -/
  manifestName : String
  /-- What becomes of the objects. -/
  publish : PublishMode
  deriving DecidableEq

/-- The parts of a text between semicolons that are not empty. -/
def splitList (s : String) : List String :=
  ((s.toList.splitOn ';').filter (· ≠ [])).map String.ofList

/-- The part of a path that names what is below a directory, by the last name of the path. -/
def Path.nameOr (p : Path) (other : String) : String := p.fileStem?.getD other

namespace Request

/-- The response file that lies beside the target and has its name as that is shown. -/
def defaultResponse (outputDir target : Path) : Path :=
  outputDir.join (.ofText (Octets.toText (target.nameOr "objects") ++ ".rsp"))

/-- What becomes of the objects. An empty name is none. -/
def publishMode (outputDir target : Path) (archive response : Option String) : PublishMode :=
  match archive, response with
  | some name, _ => .archive (if name.isEmpty then none else some name)
  | none, some name =>
    .response (if name.isEmpty then defaultResponse outputDir target
      else outputDir.join (.ofText name))
  | none, none => .response (defaultResponse outputDir target)

/-- The absolute form of a path. -/
def place (cwd p : Path) : Except ConfigError Path :=
  match p.absolute? cwd with
  | some p => .ok p
  | none => .error (.noPlace .emptyPath)

/-- The request that the wishes of a caller in the working directory `cwd` make. -/
def ofOptions (cwd : Path) (o : RequestOptions) : Except ConfigError Request := do
  if o.target.isEmpty then throw (.missing .target)
  if o.manifestName.isEmpty then throw (.missing .outputFilename)
  if o.archive.isSome && o.response.isSome then throw .archiveAndResponse
  let outputDir ← match o.outputDir with
    | some dir => place cwd dir
    | none => pure cwd
  let files ← (o.files.flatMap splitList).mapM fun file => place cwd (.ofText file)
  let target := Path.ofText o.target
  return {
    target, outputDir, files
    profile := o.profile
    framePointer := o.framePointer
    passthrough := splitList o.passthrough
    manifestName := o.manifestName
    publish := publishMode outputDir target o.archive o.response }

/-! ### Where things lie -/

/-- The target module. -/
def targetPath (r : Request) : Path := r.outputDir.join r.target

/-- The directory for the units and the manifest. -/
def libDir (r : Request) : Path := r.outputDir.join ⟨"lib"⟩

/-- The manifest. -/
def manifestPath (r : Request) : Path := r.libDir.join (.ofText r.manifestName)

/-- The directory for the objects. -/
def optDir (r : Request) : Path := r.outputDir.join ⟨"opt"⟩

/-- The object of a unit, seen from the output directory. -/
def objectFor (unit : Path) : Path := Path.join ⟨"opt"⟩ ⟨unit.nameOr unit.text ++ ".o"⟩

/-- What the work of the first tool hangs on besides the files it reads: the frame-pointer policy,
the flags, and the input files as they are shown. -/
def configStrings (r : Request) : List String :=
  [r.framePointer.name, String.intercalate ";" r.passthrough,
    String.intercalate ";" (r.files.map Path.shown)]

end Request

end ModuleBuild
