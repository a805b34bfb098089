import BeaconGossip.Session

namespace BeaconGossip

def readFile? (path : String) : IO (Option Bytes) := do
  try
    let content ← IO.FS.readBinFile path
    pure (some content.toList)
  catch _ => pure none

/-- Adds what is at the path, if a path is given. -/
def withFile (files : FileTree) (path : Option String) : IO FileTree := do
  match path with
  | none => pure files
  | some path =>
    match ← readFile? path with
    | none => pure (files.withWay (files.locate path))
    | some content => pure (files.putDeep (files.locate path) content)

def workingDirectory : IO FileTree := do
  let home := (← IO.currentDir).toString
  pure (FileTree.standard ((FileTree.standard []).locate home))

def randomSeed : IO (Octets 32) := do
  let bytes ← IO.getRandomBytes 32
  pure ((Octets.ofList? 32 bytes.toList).getD (Octets.fill 32 0))

/-- Writes the file at the path if the run has made it. -/
def writeNew (earlier later : FileTree) (path : Option String) : IO Unit := do
  match path with
  | none => pure ()
  | some path =>
    match earlier.read path, later.read path with
    | .error _, .ok content => IO.FS.writeBinFile path ⟨content.toArray⟩
    | _, _ => pure ()

def printAll (lines : List String) : IO Unit := do
  for line in lines do
    IO.println line

end BeaconGossip

open BeaconGossip in
def main (arguments : List String) : IO UInt32 := do
  let configPath := Session.wantedFile arguments none
  let files ← withFile (← workingDirectory) configPath
  let config := configPath.bind fun path => (files.read path).toOption
  let keyPath := config.bind fun content => Session.wantedFile arguments (some content)
  let files ← withFile files keyPath
  let t := Session.run
    { arguments := arguments
      files := files
      logWish := ← IO.getEnv "RUST_LOG"
      seed := ← randomSeed }
  writeNew files t.files keyPath
  printAll (t.output ++ t.log.map (·.text))
  if t.interrupted then
    discard (← IO.getStdin).getLine
    printAll (t.closingLog.map (·.text))
  if let some message := t.error then
    IO.eprintln message
  pure (UInt32.ofNat t.exitCode)
