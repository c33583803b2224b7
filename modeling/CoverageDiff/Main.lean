import CoverageDiff.CommandLine.Run

/-!
# CoverageDiff.Main

The program.  It takes in the files that a command line can concern, runs the
command on them, and passes on what the run leaves behind.
-/

namespace CoverageDiff.CommandLine

open Files

/-! ## Taking files in -/

/-- The path of a place, as the system names it. -/
def systemPath (place : Location) : String :=
  (Tree.pathOf place).text

/-- The tree with what the system has at a place. -/
def takeIn (t : Tree) (place : Location) : IO Tree := do
  try
    let p ← IO.FS.realPath (systemPath place)
    if ← p.isDir then return t.set place .folder
    else if ← p.pathExists then return t.set place (.file (← IO.FS.readBinFile p).toList)
    else return t
  catch _ => return t

/-- The places that a path concerns: where it leads to, and everything above. -/
def placesOf (current : Location) (p : Path) : List Location :=
  Tree.upwards (Tree.resolve current p)

/-- The places that settings can come from. -/
def settingsPlaces (current : Location) : List Location :=
  (Tree.upwards current).flatMap fun place =>
    [place, place ++ [configName], place ++ [repositoryName]]

/-- The paths that an argument can name: itself, or what follows an equals sign. -/
def pathsIn (arg : String) : List Path :=
  Path.ofText arg :: ((Arguments.splitValue arg).2.map Path.ofText).toList

/-- The files that a command line can concern. -/
def workspaceFor (current : Location) (args : List String) : IO Workspace := do
  let places := settingsPlaces current ++ (args.flatMap pathsIn).flatMap (placesOf current)
  return { tree := ← places.eraseDups.foldlM takeIn {}, current }

/-! ## Passing on -/

/-- Puts what stands at a place into the system. -/
def putOut (place : Location) : Stored → IO Unit
  | .folder => IO.FS.createDirAll (systemPath place)
  | .file bytes => IO.FS.writeBinFile (systemPath place) ⟨bytes.toArray⟩

/-- Puts out everything that a run has changed. -/
def putChanges (before after : Workspace) : IO Unit :=
  (after.tree.entries.filter fun e => before.tree.at? e.1 != some e.2).reverse.forM fun e =>
    putOut e.1 e.2

/-- The failure that leaves the program, in words. -/
def failureLines (o : Outcome) : List String :=
  (o.failure.map Failure.message).toList

end CoverageDiff.CommandLine

open CoverageDiff CommandLine in
/-- Runs the program. -/
def main (args : List String) : IO UInt32 := do
  let current := (Files.Path.ofText (← IO.currentDir).toString).names
  let before ← workspaceFor current args
  let o := run before args
  putChanges before o.workspace
  IO.print o.output
  (o.messages.map Message.line ++ failureLines o).forM IO.eprintln
  return o.status.code.toUInt32
