import ToolHost.Cli

/-!
# The program on a machine

Takes from the machine what the program looks at, runs it, and puts back what it changed. Nothing
here can create a process or reach the web, so both are refused as what the system does not
provide.
-/
namespace ToolHost.Main

open Machine (Errno FileTree Host Path Variables)

/-- The variables that the program looks at. -/
def variableNames : List String :=
  ["HOME", "XDG_CONFIG_HOME"] ++ ["LOG", "HOME", "SOURCE_URL", "RUNTIME"].map Product.variableName

def readVariables : IO Variables :=
  variableNames.filterMapM fun name => do
    return (← IO.getEnv name).map fun value => (name, value)

/-- Takes a file or directory over from the machine, if it is there. -/
def takeOver (files : FileTree) (p : Path) : IO FileTree := do
  let place := (← IO.currentDir) / p.text
  if ← place.isDir then return files.install p none
  try
    let content ← IO.FS.readBinFile place
    return files.install p (some content.toList)
  catch _ => return files

/-- The common directory of the home directory. -/
def commonPaths (h : Host) : List Path := (h.home?.map (·.join ".config")).toList

/-- The paths that the program looks at before it has settings. -/
def configPaths (h : Host) (args : List String) : List Path :=
  let root :=
    match CommandLine.read args with
    | .ok i => (Cli.projectDirectory h i.directory).toOption
    | .error _ => none
  commonPaths h ++ ((Config.Place.all h (root.map (·.text))).toOption.getD [])

/-- The places of the artifact that a run looks at. -/
def artifactPaths (h : Host) (args : List String) : List Path :=
  match CommandLine.read args with
  | .error _ => []
  | .ok i =>
    match i.mode.map fun m => (Cli.prepare h i m []).outcome with
    | some (.ok p) => p.house.location.artifactPath.toOption.toList
    | _ => []

def takeOverAll (h : Host) (paths : List Path) : IO Host := do
  return { h with files := ← paths.foldlM takeOver h.files }

def readHost (args : List String) : IO Host := do
  let cwd := Path.ofString (← IO.currentDir).toString
  let files : FileTree := ({ cwd } : FileTree).install cwd none
  let h : Host := { environment := ← readVariables, files }
  let h ← takeOverAll h (commonPaths h)
  let h ← takeOverAll h (configPaths h args)
  takeOverAll h (artifactPaths h args)

/-- Writes the files that are not what they were. -/
def putBack (before after : FileTree) : IO Unit :=
  after.entries.forM fun (place, e) => do
    if before.at? place = some e then return
    let p : Path := ⟨.root, place⟩
    match e with
    | .dir => IO.FS.createDirAll p.text
    | .file content => IO.FS.writeBinFile p.text ⟨content.toArray⟩

/-- What the system says about what it does not provide. -/
def unavailable : Errno := ⟨38⟩

/-- A stage on which no process can be created and nothing can be fetched. -/
def stage (h : Host) : Rehearsal.Stage Int :=
  let refused : Rehearsal.Script := { fault := some (.system unavailable none) }
  { house := { host := h }
    sessionScript := refused
    oneShotScript := refused
    network := fun _ => .fault "ConnectError" unavailable.message }

def exitCode : Cli.Ending → UInt32
  | .code n | .answered n => UInt32.ofNat (n % 256).toNat
  | .broken _ => 1

end ToolHost.Main

open ToolHost in
def main (args : List String) : IO UInt32 := do
  let host ← Main.readHost args
  let r := Cli.run (Main.stage host) args []
  IO.print r.output
  IO.eprint r.errors
  for x in r.happenings do
    if let .reported line := x then IO.eprintln line
  Main.putBack host.files r.host.files
  return Main.exitCode r.ending
