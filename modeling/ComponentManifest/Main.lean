import ComponentManifest.CommandLine.Run

/-!
# The command

The command works on the files whose paths stand on standard input, one on a line; a path that
cannot be read as a file is taken for a directory. It prints its reports and writes back what the
run changed.

1. Reading the files.
2. Writing back what changed.
3. `main`.
-/

namespace ComponentManifest.CommandLine

/-! ## Reading -/

/-- The lines of a stream that are not empty. -/
partial def readLines (input : IO.FS.Stream) : IO (List Text) := do
  let line ← input.getLine
  if line.isEmpty then return []
  let text := line.toList.filter (· ≠ '\n')
  let rest ← readLines input
  return if text.isEmpty then rest else text :: rest

/-- What a path holds. -/
def readEntry (path : Text) : IO Entry := do
  match ← (IO.FS.readBinFile (String.ofList path)).toBaseIO with
  | .ok content => return .file content.toList
  | .error _ => return .dir

/-- The workspace with the entries of some paths. -/
def readWorkspace (w : Workspace) : List Text → IO Workspace
  | [] => return w
  | p :: ps => do
    let e ← readEntry p
    readWorkspace (w.withTree (w.place p e).tree) ps

/-! ## Writing -/

/-- Writes one entry. -/
def writeEntry (l : Location) (e : Entry) : IO Unit :=
  let path := String.ofList l.path
  match e with
  | .file content => IO.FS.writeBinFile path ⟨content.toArray⟩
  | .dir => IO.FS.createDirAll path
  | .link _ => return ()

/-- Prints the reports that are at least of a level. -/
def printEvents (least : Level) (events : List Event) : IO Unit :=
  (events.filter fun e => least.rank ≤ e.level.rank).forM fun e => do
    IO.println (String.ofList (e.level.name ++ " - ".toList ++ e.message))

end ComponentManifest.CommandLine

/-! ## The command -/

open ComponentManifest CommandLine in
/-- Runs the command in the working directory that the environment names. -/
def main (args : List String) : IO UInt32 := do
  let (verbose, request) := request (args.map String.toList)
  let printed := String.ofList request.printed
  if request = .misuse then IO.eprint printed else IO.print printed
  let dir := (← IO.getEnv "PWD").getD "/"
  let paths ← if request.usesFiles then readLines (← IO.getStdin) else pure []
  let w ← readWorkspace (.atDirectory dir.toList) paths
  let done := run w request
  printEvents (if verbose then .debug else .info) done.events
  for e in (w.withTree done.tree).changedSince w.tree do
    writeEntry e.1 e.2
  match done.exit with
  | .ok code => return UInt32.ofNat code
  | .error fault =>
    IO.eprintln (String.ofList fault.message)
    return 1
