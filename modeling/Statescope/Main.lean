-- SUMMARY: The command line: reads the files a replay needs, runs it, and writes what it leaves behind.
import Statescope.Replay.Run
import Statescope.Store.Directory

/-!
# Command line

`main` replays a file of snapshots. The directory of the store is read before
the replay, and the files that differ afterwards are written back.
-/

namespace Statescope.CommandLine

def helpText : String :=
  "Replays recorded snapshots, one to a line, and reports what a viewer would show.\n\n"
    ++ "  --snapshots PATH   the file of snapshots\n"
    ++ "  --store-dir PATH   the directory for layouts and preferences\n"
    ++ "  --seed PATH        the layouts that an empty store starts with\n"
    ++ "  --layout NAME      the layout to start with: preset, dagre or cose\n"
    ++ "  --export PATH      write all layouts to this file afterwards"

def versionText : String := "statescope 0.1.0"

/-! ## Files -/

/-- The content of a file, if it can be read. -/
def readFile? (path : String) : IO (Option Blob) := do
  try return some ⟨← IO.FS.readBinFile path⟩
  catch _ => return none

/-- The files and the folders right below a folder, with their paths from `place`. -/
def readFolder (place folder : String) : IO (List (String × Blob) × List String) := do
  let mut files := []
  let mut folders := []
  for entry in ← (← IO.FS.realPath (place ++ "/" ++ folder)).readDir do
    let path := folder ++ entry.fileName
    if ← entry.path.isDir then folders := path :: folders
    else if let some blob ← readFile? (place ++ "/" ++ path) then files := (path, blob) :: files
  return (files, folders)

/-- The directory at `place`, with the files that a store can see. -/
def readDirectory (place : String) : IO Directory := do
  let (files, folders) ← readFolder place ""
  let inner ← folders.mapM fun folder => readFolder place (folder ++ "/")
  return { files := Dict.ofPairs (files ++ inner.flatMap (·.1)), folders := .ofTexts folders }

/-- Writes the files of a directory that differ from those that are there. -/
def writeDirectory (place : String) (old new : Directory) : IO Unit := do
  for folder in new.folders.toList do
    unless old.folders.contains folder do IO.FS.createDirAll (place ++ "/" ++ folder)
  for (path, blob) in new.files.toList do
    unless old.files[path]? = some blob do IO.FS.writeBinFile (place ++ "/" ++ path) blob.bytes
  for path in old.files.keys do
    unless new.files.contains path do IO.FS.removeFile (place ++ "/" ++ path)

/-- The directory of the store if the arguments name none. -/
def defaultPlace : IO String := do
  let home := (← IO.getEnv "HOME").getD ""
  let config := ((← IO.getEnv "XDG_CONFIG_HOME").filter (·.startsWith "/")).getD (home ++ "/.config")
  return config ++ "/" ++ Directory.defaultFolder

/-- Whether the text could be written. -/
def tryWrite (path text : String) : IO Bool := do
  try
    IO.FS.writeFile path text
    return true
  catch _ => return false

/-! ## Replays -/

def complain (message : String) : IO Unit := IO.eprintln ("Error: " ++ message)

/-- Replays the text of a snapshot file. -/
def replay (o : Replay.Options) (text : String) : IO Nat := do
  let place ← match o.storeDir with
    | some place => pure place
    | none => defaultPlace
  IO.FS.createDirAll place
  let directory ← readDirectory place
  let seedPath := (Replay.start o place directory {}).explorer.prefs.seedBundle
  let seed ← match seedPath.bind (·.text?) with
    | some path => readFile? path
    | none => pure none
  let host : Host := { file? := fun path => if some path = seedPath then seed else none }
  let mut r := Replay.start o place directory host
  for (number, line) in Replay.snapshotLines text do
    r := r.feed (← IO.monoNanosNow) number line
  r := r.finish
  let writable ← match o.exportFile, r.bundle.1 with
    | some path, some text => tryWrite path text
    | _, _ => pure true
  let outcome := r.conclude o.exportFile writable
  writeDirectory place directory outcome.replay.explorer.store.store
  for event in outcome.replay.events do IO.println event.text
  if let some failure := outcome.failure then complain failure.message
  return outcome.code

def run (arguments : List String) : IO Nat := do
  match Replay.Request.read arguments with
  | .error e =>
    IO.eprintln e.message
    return e.code
  | .ok .help =>
    IO.println helpText
    return 0
  | .ok .version =>
    IO.println versionText
    return 0
  | .ok (.replay o) =>
    match Replay.input o (← readFile? o.snapshots) with
    | .error failure =>
      complain failure.message
      return failure.code
    | .ok text =>
      try replay o text
      catch e =>
        complain (toString e)
        return 1

end Statescope.CommandLine

def main (arguments : List String) : IO UInt32 := do
  return UInt32.ofNat (← Statescope.CommandLine.run arguments)
