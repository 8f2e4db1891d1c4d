import Passbook.Program
import Std.Time.DateTime.Timestamp

/-! # The command line program

What the disk has along the paths that matter is put into a file tree, the program is run on it,
and what it changed is written back.
-/
namespace Passbook.Outer

open Text

def wayTo (place : Place) : List Place := (List.range place.length).map fun n => place.take (n + 1)

def visited (start : Place) : List String → List Place
  | [] => wayTo start
  | name :: rest =>
    let next :=
      if name = "." then start
      else if name = ".." then start.dropLast
      else start ++ [name]
    wayTo start ++ visited next rest

def placesOf (tree : FileTree) (path : String) : List Place :=
  visited (tree.start (FileTree.isAbsolute path)) (FileTree.names path)

def observe (tree : FileTree) (place : Place) : IO FileTree := do
  let path := (← IO.currentDir) / ("/" ++ join "/" place)
  if ← path.isDir then return tree.insert place .directory
  else if ← path.pathExists then return tree.insert place (.file (← IO.FS.readBinFile path))
  else return tree

def observePath (tree : FileTree) (path : String) : IO FileTree :=
  (placesOf tree path).foldlM observe tree

/-- The statement files that the options or the session file ask for. -/
def statementPaths (env : Environment) (tree : FileTree) (o : Options) : List String :=
  let dir := match o.config with
    | none => o.statementDir
    | some path =>
      (SessionFile.loadFile env tree path).toOption.bind fun f =>
        f.statement.map fun s => s.outputPath
  match dir with
  | none => []
  | some dir => [StatementFormat.csv, .json].map fun f : StatementFormat => FileTree.joinPath dir f.fileName

/-- The variables that a session file mentions, and the one for the log filter. -/
def environment (tree : FileTree) (o : Options) : IO Environment := do
  let names := match o.config.bind fun path => (tree.readText path).toOption with
    | some s => Placeholder.namesFrom 0 s.toList
    | none => []
  let found ← (Program.filterVariable :: names).mapM fun name => do
    return (name, ← IO.getEnv name)
  return fun name => (found.find? (·.1 == name)).bind (·.2)

def isUnchanged : Option Entry → Entry → Bool
  | some (.file a), .file b => a.data == b.data
  | some .directory, .directory => true
  | _, _ => false

def writeBack (before after : FileTree) : IO Unit :=
  after.entries.forM fun e => do
    if isUnchanged (before.lookup e.1) e.2 then return
    let path := (← IO.currentDir) / ("/" ++ join "/" e.1)
    match e.2 with
    | .directory => IO.FS.createDirAll path
    | .file content => IO.FS.writeBinFile path content

def run (o : Options) : IO UInt32 := do
  let start : FileTree := { workingPlace := FileTree.names (← IO.currentDir).toString }
  let tree ← (o.config.toList).foldlM observePath start
  let env ← environment tree o
  let tree ← (statementPaths env tree o).foldlM observePath tree
  let stamp ← Std.Time.Timestamp.now
  let now : Instant := ⟨stamp.val.second.val, stamp.val.nano.val.toNat⟩
  let outcome := Program.run (fun _ => now) (fun _ => now) env tree o
  IO.print outcome.stdout
  IO.eprint outcome.stderr
  writeBack tree outcome.tree
  return outcome.exitCode.toUInt32

/-- Failures of the disk that the file tree does not know of are reported like any other. -/
def start (args : List String) : IO UInt32 := do
  match CommandLine.read args with
  | .error s =>
    let outcome := Program.stopped {} s
    IO.print outcome.stdout
    IO.eprint outcome.stderr
    return outcome.exitCode.toUInt32
  | .ok o =>
    try run o
    catch e =>
      let failure := BankError.file (.stated e.toString)
      IO.eprintln ("❌ " ++ failure.friendly)
      IO.eprintln ("💡 " ++ failure.suggestion)
      return failure.exitCode.toUInt32

end Passbook.Outer

def main (args : List String) : IO UInt32 := Passbook.Outer.start args
