import ModuleBuild.FileTree.Change
import ModuleBuild.Process.Utility.Basic

/-!
# Programs that change files

These programs make, copy, move and remove files and directories.

## Main definitions

* `Utility.mkdir`, `Utility.touch`, `Utility.ln` — make files
* `Utility.cp`, `Utility.mv` — copy and move them
* `Utility.rm`, `Utility.rmdir` — remove them
* `Utility.chmod` — changes whether they may be run
-/

namespace ModuleBuild

namespace Utility

/-! ### Names -/

/-- A path without its slashes at the end. -/
def trimmed (path : String) : String :=
  let kept := (path.toList.reverse.dropWhile (· = '/')).reverse
  if kept = [] then path else String.ofList kept

/-- The last name in a path. -/
def lastName (path : String) : String :=
  String.ofList ((trimmed path).toList.reverse.takeWhile (· ≠ '/')).reverse

/-- A name in a directory. -/
def inside (directory name : String) : String :=
  if directory.endsWith "/" then directory ++ name else directory ++ "/" ++ name

/-- What is at a path, links being followed. -/
def entryOf (path : String) : Job (Except FileFault (Location × Entry)) := do
  let (cwd, files) ← Job.files
  return files.entry cwd ⟨path⟩

/-- What a path names, a link being meant itself. -/
def selfOf (path : String) : Job (Except FileFault (Location × Entry)) := do
  let (cwd, files) ← Job.files
  return do
    match ← files.place? cwd ⟨path⟩ with
    | (_, none, _) => throw .notFound
    | (l, some e, slashes) =>
      if slashes && e != .directory then files.entry cwd ⟨path⟩ else return (l, e)

/-- Whether there is a directory at a path. -/
def isDirectory (path : String) : Job Bool := do
  match ← entryOf path with
  | .ok (_, .directory) => return true
  | _ => return false

/-- Says that something has been done, if that is asked for. -/
def told (verbose : Bool) (message : String) (status : Nat) : Job Nat := do
  if verbose && status = 0 then Job.print 0 (message ++ "\n") else return status

/-! ### Making -/

/-- Makes directories along a path, as far as they are missing. -/
def makeAlong (verbose : Bool) (path : String) : Job Nat := do
  let pieces := (path.toList.splitOn '/').map String.ofList
  let ways := (List.range pieces.length).map fun n => "/".intercalate (pieces.take (n + 1))
  let mut status := 0
  for (way, n) in (ways.zipIdx).filter fun p => !(p.1.endsWith "/") && !p.1.isEmpty do
    if status = 0 then
      match ← Job.changeFiles fun cwd files => files.makeDirectory cwd ⟨way⟩ with
      | .ok () =>
        status ← told verbose ((← read).name ++ ": created directory " ++ quoted way) 0
      | .error fault =>
        if !(← isDirectory way) then
          let isEnd := n + 1 = pieces.length
          let reason := if fault = .alreadyExists && !isEnd then .notDirectory else fault
          say ("cannot create directory " ++ inQuotes way ++ ": " ++ reason.reason)
          status := 1
  return status

/-- Makes directories. -/
def mkdir : Job Nat :=
  let known : List Choice :=
    [{ key := "p", letters := ['p'], names := ["parents"] },
      { key := "v", letters := ['v'], names := ["verbose"] },
      { key := "m", letters := ['m'], names := ["mode"], value := .required }]
  withOptions known false 1 fun given operands => do
    if operands.isEmpty then return ← misuse 1 "missing operand"
    let verbose := has given "v"
    forEach operands fun path => do
      if has given "p" && !path.isEmpty then makeAlong verbose path
      else
        let status ← attempt ("cannot create directory " ++ inQuotes path) fun cwd files =>
          files.makeDirectory cwd ⟨path⟩
        told verbose ((← read).name ++ ": created directory " ++ quoted path) status

/-- Makes files that are not there. -/
def touch : Job Nat :=
  let known : List Choice :=
    [{ key := "c", letters := ['c'], names := ["no-create"] },
      { key := "h", letters := ['h'], names := ["no-dereference"] },
      { key := "a", letters := ['a'] }, { key := "m", letters := ['m'] },
      { key := "f", letters := ['f'] },
      { key := "d", letters := ['d'], names := ["date"], value := .required },
      { key := "r", letters := ['r'], names := ["reference"], value := .required },
      { key := "t", letters := ['t'], value := .required },
      { key := "time", names := ["time"], value := .required }]
  withOptions known false 1 fun given operands => do
    if operands.isEmpty then return ← misuse 1 "missing file operand"
    forEach operands fun path => do
      match ← entryOf path with
      | .ok _ => return 0
      | .error .notDirectory =>
        if (← entryOf (trimmed path)).isOk then
          say ("setting times of " ++ quoted path ++ ": " ++ FileFault.notDirectory.reason)
        else say ("cannot touch " ++ quoted path ++ ": " ++ FileFault.notDirectory.reason)
        return 1
      | .error _ =>
        if has given "c" then return 0
        if path ≠ "/" && path.endsWith "/" then
          say ("setting times of " ++ quoted path ++ ": " ++ FileFault.notFound.reason)
          return 1
        attempt ("cannot touch " ++ quoted path) fun cwd files =>
          files.write cwd ⟨path⟩ []

/-! ### Removing -/

/-- Whether a path ends in a dot or in two. -/
def endsInDots (path : String) : Bool := [".", ".."].contains (lastName path)

/-- Removes one thing. -/
def removeOne (deep empty force verbose : Bool) (path : String) : Job Nat := do
  let refusal (fault : FileFault) : Job Nat := do
    say ("cannot remove " ++ quoted path ++ ": " ++ fault.reason)
    return 1
  if deep && endsInDots path then
    say ("refusing to remove '.' or '..' directory: skipping " ++ quoted path)
    return 1
  match ← selfOf path with
  | .error fault =>
    if force && (fault = .notFound || fault = .notDirectory) then return 0 else refusal fault
  | .ok (l, .directory) =>
    if deep && l = [] then
      say "it is dangerous to operate recursively on '/'"
      say "use --no-preserve-root to override this failsafe"
      return 1
    else if deep then
      modify fun s => { s with files := s.files.removeBelow l }
      told verbose ("removed directory " ++ quoted path) 0
    else if empty then
      let status ← attempt ("cannot remove " ++ quoted path) fun cwd files =>
        files.removeEmpty cwd ⟨path⟩
      told verbose ("removed directory " ++ quoted path) status
    else refusal .isDirectory
  | .ok _ =>
    let status ← attempt ("cannot remove " ++ quoted path) fun cwd files =>
      files.removeFile cwd ⟨path⟩
    told verbose ("removed " ++ quoted path) status

/-- Removes files, and directories if that is asked for. -/
def rm : Job Nat :=
  let known : List Choice :=
    [{ key := "f", letters := ['f'], names := ["force"] },
      { key := "i", letters := ['i'] }, { key := "I", letters := ['I'] },
      { key := "interactive", names := ["interactive"], value := .optional },
      { key := "r", letters := ['r', 'R'], names := ["recursive"] },
      { key := "d", letters := ['d'], names := ["dir"] },
      { key := "v", letters := ['v'], names := ["verbose"] },
      { key := "one", names := ["one-file-system"] },
      { key := "preserve", names := ["preserve-root"], value := .optional }]
  withOptions known false 1 fun given operands => do
    let force := has given "f"
    if operands.isEmpty then
      if force then return 0 else return ← misuse 1 "missing operand"
    forEach operands (removeOne (has given "r") (has given "d") force (has given "v"))

/-- The directories that a path names from its end on. -/
def ancestors (path : String) : List String :=
  let pieces := ((trimmed path).toList.splitOn '/').map String.ofList
  ((List.range pieces.length).reverse.map fun n => "/".intercalate (pieces.take (n + 1))).filter
    (!·.isEmpty)

/-- Removes empty directories. -/
def rmdir : Job Nat :=
  let known : List Choice :=
    [{ key := "p", letters := ['p'], names := ["parents"] },
      { key := "ignore", names := ["ignore-fail-on-non-empty"] },
      { key := "v", letters := ['v'], names := ["verbose"] }]
  withOptions known false 1 fun given operands => do
    if operands.isEmpty then return ← misuse 1 "missing operand"
    forEach operands fun path => do
      let mut status := 0
      for (way, n) in (if has given "p" then ancestors path else [path]).zipIdx do
        if status = 0 then
          if has given "v" then
            let _ ← Job.print 0 ((← read).name ++ ": removing directory, " ++ quoted way ++ "\n")
          match ← Job.changeFiles fun cwd files => files.removeEmpty cwd ⟨way⟩ with
          | .ok () => pure ()
          | .error fault =>
            if fault = .notEmpty && has given "ignore" then return 0
            let what := if n = 0 then "failed to remove " else "failed to remove directory "
            say (what ++ quoted way ++ ": " ++ fault.reason)
            status := 1
      return status

/-! ### Copying and moving -/

/-- Where operands are to be put: under a name of its own, or in a directory. -/
inductive Target where
  /-- Under this name. -/
  | named (path : String)
  /-- In this directory. -/
  | inside (directory : String)

/-- The sources and the target among operands, or why there are none. -/
def targetOf (given : List Given) (operands : List String) :
    Job (Except (Job Nat) (List String × Target)) := do
  let lacks (what : String) (last : Option String) : Job Nat :=
    misuse 1 <| "missing " ++ what ++ " operand" ++ match last with
      | some last => " after " ++ quoted last
      | none => ""
  match (valuesOf given "t").getLast?, operands.reverse with
  | _, [] => return .error (lacks "file" none)
  | some directory, _ =>
    match ← entryOf directory with
    | .ok (_, .directory) => return .ok (operands, .inside directory)
    | found =>
      let fault : FileFault := match found with
        | .ok _ => .notDirectory
        | .error fault => fault
      return .error do
        say ((if (← read).name.endsWith "ln" then "failed to access " else "target directory ") ++
          quoted directory ++ ": " ++ fault.reason)
        return 1
  | none, [only] => return .error (lacks "destination file" (some only))
  | none, target :: sources =>
    if has given "T" then return .ok (sources.reverse, .named target)
    else if ← isDirectory target then return .ok (sources.reverse, .inside target)
    else if 2 ≤ sources.length then
      let fault ← match ← entryOf target with
        | .error fault => pure fault
        | .ok _ => pure .notDirectory
      return .error do
        say ("target " ++ quoted target ++ ": " ++ fault.reason)
        return 1
    else return .ok (sources.reverse, .named target)

/-- The path that a source gets. -/
def Target.pathFor (t : Target) (source : String) : String :=
  match t with
  | .named path => path
  | .inside directory => Utility.inside directory (lastName source)

/-- The options of the programs that copy and move. -/
def copyingChoices : List Choice :=
  [{ key := "f", letters := ['f'], names := ["force"] }, { key := "i", letters := ['i'] },
    { key := "n", letters := ['n'], names := ["no-clobber"] },
    { key := "v", letters := ['v'], names := ["verbose"] },
    { key := "u", letters := ['u'] },
    { key := "T", letters := ['T'], names := ["no-target-directory"] },
    { key := "t", letters := ['t'], names := ["target-directory"], value := .required }]

/-- Copies one thing to a path. -/
def copyOne (deep keepLinks verbose clobber : Bool) (source target : String) : Job Nat := do
  let fails (message : String) : Job Nat := do
    say message
    return 1
  let found ← if keepLinks then selfOf source else entryOf source
  match found, ← entryOf target with
  | .error fault, _ => fails ("cannot stat " ++ quoted source ++ ": " ++ fault.reason)
  | .ok _, .error .notDirectory =>
    fails ("cannot stat " ++ quoted target ++ ": " ++ FileFault.notDirectory.reason)
  | .ok (l, .directory), there =>
    if !deep then fails ("-r not specified; omitting directory " ++ quoted source)
    else
      let (_, files) ← Job.files
      match there, files.nodeAt? l with
      | .ok (_, .file ..), _ =>
        fails ("cannot overwrite non-directory " ++ quoted target ++ " with directory " ++
          quoted source)
      | .ok (m, .directory), some (.directory entries) =>
        if l.isPrefixOf m then
          fails ("cannot copy a directory, " ++ quoted source ++ ", into itself, " ++ quoted target)
        else
          modify fun s =>
            { s with files := entries.foldl (fun t (n, node) => t.put (m ++ [n]) node) s.files }
          return 0
      | _, some node =>
        let (cwd, files) ← Job.files
        let isWithin := match files.place? cwd ⟨target⟩ with
          | .ok (m, _) => l.isPrefixOf m
          | .error _ => false
        let status ← attempt ("cannot create directory " ++ quoted target) fun cwd files => do
          match ← files.place? cwd ⟨target⟩ with
          | (m, none, _) =>
            return files.put m node
          | _ => throw .alreadyExists
        if isWithin then
          return ← fails
            ("cannot copy a directory, " ++ quoted source ++ ", into itself, " ++ quoted target)
        told verbose (quoted source ++ " -> " ++ quoted target) status
      | _, none => return 0
  | .ok (l, e), there =>
    match there with
    | .ok (_, .directory) =>
      fails ("cannot overwrite directory " ++ quoted target ++ " with non-directory")
    | .ok (m, _) =>
      if l = m then fails (quoted source ++ " and " ++ quoted target ++ " are the same file")
      else if !clobber then return 0
      else copyFile e
    | .error _ => copyFile e
where
  /-- Copies a file to a path. A file that is there keeps its leave to be run. -/
  copyFile (e : Entry) : Job Nat := do
    let status ← attempt ("cannot create regular file " ++ quoted target) fun cwd files => do
      let path : Path := ⟨target⟩
      match e with
      | .link goal => files.makeLink cwd goal path
      | .file content runnable =>
        if target.endsWith "/" then throw .notDirectory
        let isNew := !(files.contains cwd path)
        let files ← files.write cwd path content
        if isNew then files.setRunnable cwd path runnable else return files
      | _ => files.write cwd path []
    told verbose (quoted source ++ " -> " ++ quoted target) status

/-- Copies files, and directories if that is asked for. -/
def cp : Job Nat :=
  let known := copyingChoices ++
    [{ key := "r", letters := ['r', 'R'], names := ["recursive"] },
      { key := "a", letters := ['a'], names := ["archive"] },
      { key := "d", letters := ['d'] },
      { key := "P", letters := ['P'], names := ["no-dereference"] },
      { key := "L", letters := ['L'], names := ["dereference"] },
      { key := "H", letters := ['H'] },
      { key := "p", letters := ['p'] },
      { key := "preserve", names := ["preserve"], value := .optional },
      { key := "x", letters := ['x'] }, { key := "b", letters := ['b'] },
      { key := "Z", letters := ['Z'] }]
  withOptions known false 1 fun given operands => do
    if has given "n" then
      say ("warning: behavior of -n is non-portable and may change in future; " ++
        "use --update=none instead")
    match ← targetOf given operands with
    | .error refuse => refuse
    | .ok (sources, target) =>
      let deep := has given "r" || has given "a"
      let keepLinks := (deep || has given "d" || has given "P") && !has given "L"
      forEach sources fun source =>
        copyOne deep keepLinks (has given "v") (!has given "n") source (target.pathFor source)

/-- Moves one thing to a path. -/
def moveOne (verbose clobber : Bool) (source target : String) : Job Nat := do
  let fails (message : String) : Job Nat := do
    say message
    return 1
  match ← selfOf source, ← selfOf target with
  | .error fault, _ => fails ("cannot stat " ++ quoted source ++ ": " ++ fault.reason)
  | .ok _, .error .notDirectory =>
    fails ("cannot stat " ++ quoted target ++ ": " ++ FileFault.notDirectory.reason)
  | .ok (l, e), there =>
    let isSame := match there with
      | .ok (m, _) => l == m
      | .error _ => false
    if isSame && e != .directory then
      fails (quoted source ++ " and " ++ quoted target ++ " are the same file")
    else if !clobber && there.isOk then fails ("not replacing " ++ quoted target)
    else
      let change (cwd : Location) (files : FileTree) : Except FileFault FileTree := do
        if isSame then throw .belowItself
        files.rename cwd ⟨source⟩ ⟨target⟩
      match ← Job.changeFiles change with
      | .ok () => told verbose ("renamed " ++ quoted source ++ " -> " ++ quoted target) 0
      | .error .belowItself =>
        fails ("cannot move " ++ quoted source ++ " to a subdirectory of itself, " ++ quoted target)
      | .error .isDirectory =>
        fails ("cannot overwrite directory " ++ quoted target ++ " with non-directory " ++
          quoted source)
      | .error .notDirectory =>
        if there.isOk && e == .directory then
          fails ("cannot overwrite non-directory " ++ quoted target ++ " with directory " ++
            quoted source)
        else moveFails .notDirectory
      | .error .notEmpty =>
        fails ("cannot overwrite " ++ quoted target ++ ": " ++ FileFault.notEmpty.reason)
      | .error fault => moveFails fault
where
  /-- Says why something cannot be moved. -/
  moveFails (fault : FileFault) : Job Nat := do
    say ("cannot move " ++ quoted source ++ " to " ++ quoted target ++ ": " ++ fault.reason)
    return 1

/-- Moves files and directories. -/
def mv : Job Nat :=
  withOptions copyingChoices false 1 fun given operands => do
    match ← targetOf given operands with
    | .error refuse => refuse
    | .ok (sources, target) =>
      forEach sources fun source =>
        moveOne (has given "v") (!has given "n") source (target.pathFor source)

/-! ### Links -/

/-- Makes one link. -/
def linkOne (symbolic force verbose : Bool) (source target : String) : Job Nat := do
  if force && (← selfOf target).isOk then
    let _ ← Job.changeFiles fun cwd files => files.removeFile cwd ⟨target⟩
  if symbolic then
    let status ← attempt ("failed to create symbolic link " ++ quoted target) fun cwd files =>
      files.makeLink cwd ⟨source⟩ ⟨target⟩
    told verbose (quoted target ++ " -> " ++ quoted source) status
  else
    match ← selfOf source with
    | .error fault =>
      say ("failed to access " ++ quoted source ++ ": " ++ fault.reason)
      return 1
    | .ok (_, .directory) =>
      say (source ++ ": hard link not allowed for directory")
      return 1
    | .ok (l, _) =>
      attempt ("failed to create hard link " ++ quoted target ++ " => " ++ quoted source)
        fun cwd files => do
          match files.nodeAt? l, ← files.place? cwd ⟨target⟩ with
          | some node, (m, none, _) => return files.put m node
          | _, _ => throw .alreadyExists

/-- Makes links. -/
def ln : Job Nat :=
  let known : List Choice :=
    [{ key := "s", letters := ['s'], names := ["symbolic"] },
      { key := "f", letters := ['f'], names := ["force"] },
      { key := "n", letters := ['n'], names := ["no-dereference"] },
      { key := "v", letters := ['v'], names := ["verbose"] },
      { key := "T", letters := ['T'], names := ["no-target-directory"] },
      { key := "t", letters := ['t'], names := ["target-directory"], value := .required }]
  withOptions known false 1 fun given operands => do
    let make := linkOne (has given "s") (has given "f") (has given "v")
    match if has given "t" then [] else operands with
    | [source] => make source (lastName source)
    | [source, target] =>
      let isLink := (← selfOf target) matches .ok (_, .link _)
      if has given "T" || (has given "n" && isLink) then make source target
      else if ← isDirectory target then make source (inside target (lastName source))
      else make source target
    | _ =>
      match ← targetOf given operands with
      | .error refuse => refuse
      | .ok (sources, target) => forEach sources fun source => make source (target.pathFor source)

/-- Writes what links stand for. -/
def readlink : Job Nat :=
  let known : List Choice :=
    [{ key := "f", letters := ['f', 'e', 'm'], names := ["canonicalize"] },
      { key := "n", letters := ['n'], names := ["no-newline"] },
      { key := "q", letters := ['q', 's'] }, { key := "v", letters := ['v'] }]
  withOptions known false 1 fun given operands => do
    if operands.isEmpty then return ← misuse 1 "missing operand"
    let ending := if has given "n" then "" else "\n"
    forEach operands fun path => do
      if has given "f" then
        let (cwd, files) ← Job.files
        match files.locate cwd ⟨path⟩ with
        | .ok l => Job.print 0 ("/" ++ "/".intercalate l ++ ending)
        | .error _ => return 1
      else
        match ← selfOf path with
        | .ok (_, .link target) => Job.print 0 (target.text ++ ending)
        | _ => return 1

/-! ### Rights -/

/-- Whether a mode asks for files to be run or not to be run, and whether it is one at all. -/
def runnableIn? (mode : String) (before : Bool) : Option Bool :=
  let cs := mode.toList
  if cs ≠ [] ∧ cs.all (fun c => '0' ≤ c && c ≤ '7') ∧ cs.length ≤ 5 then
    some (cs.reverse.take 3 |>.any fun c => (c.toNat - 48) % 2 == 1)
  else
    let clause (state : Option Bool) (cs : List Char) : Option Bool := do
      let state ← state
      let rest := cs.dropWhile fun c => "ugoa".toList.contains c
      match rest with
      | sign :: rights =>
        let isCopy := rights.length = 1 && rights.all "ugo".toList.contains
        let areRights := isCopy || rights.all "rwxXst".toList.contains
        if !("+-=".toList.contains sign && areRights) then none
        let runs := rights.contains 'x' || (isCopy && state)
        return if sign == '+' then state || runs
          else if sign == '-' then state && !runs else runs
      | [] => none
    if cs = [] then none else (cs.splitOn ',').foldl clause (some before)

/-- Changes whether files may be run. A mode may look like an option. -/
def chmod : Job Nat := do
  let arguments := (← read).arguments
  let isMode (a : String) : Bool :=
    match a.toList with
    | '-' :: c :: _ => "rwxXstugoa,+=01234567".toList.contains c
    | _ => false
  let (modes, others) := arguments.partition isMode
  let known : List Choice :=
    [{ key := "R", letters := ['R'], names := ["recursive"] },
      { key := "v", letters := ['v'], names := ["verbose"] },
      { key := "c", letters := ['c'], names := ["changes"] },
      { key := "f", letters := ['f'], names := ["silent", "quiet"] }]
  match readOptions known false others with
  | .error message => misuse 1 message
  | .ok (given, operands) =>
    if operands.isEmpty then return ← misuse 1 "missing operand"
    match modes ++ operands with
    | [] => misuse 1 "missing operand"
    | [mode] => misuse 1 ("missing operand after " ++ inQuotes mode)
    | mode :: paths =>
      if (runnableIn? mode false).isNone then
        return ← misuse 1 ("invalid mode: " ++ inQuotes mode)
      forEach paths fun path => do
        match ← entryOf path with
        | .error fault =>
          if !has given "f" then say ("cannot access " ++ quoted path ++ ": " ++ fault.reason)
          return 1
        | .ok (l, e) =>
          let (_, files) ← Job.files
          let below :=
            if has given "R" then (files.childrenOf l).map fun p => (l ++ p.1, p.2) else []
          for (l, e) in (l, e) :: below do
            match e with
            | .file content runnable =>
              let runnable := (runnableIn? mode runnable).getD runnable
              modify fun s => { s with files := s.files.put l (.file content runnable) }
            | _ => pure ()
          return 0

end Utility

end ModuleBuild
