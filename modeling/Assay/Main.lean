import Assay.CommandLine.Execution
import Std.Time.DateTime.Timestamp

/-!
# The program

The files below the current directory, the settings of the machine, the time and what is typed are
handed to `CommandLine.execute`; what comes of it is printed and written. Nothing outside the
machine is asked.
-/

open Assay

namespace Assay.Program

/-- The entries at a place and below it. -/
partial def entriesAt (place : List String) (e : IO.FS.DirEntry) :
    IO (List (List String × Entry)) := do
  let place := place ++ [e.fileName]
  if ← e.path.isDir then
    let below ← (← e.path.readDir).toList.mapM (entriesAt place)
    return (place, .directory) :: below.flatten
  else return [(place, .file (← IO.FS.readBinFile e.path).toList)]

/-- The tree below the current directory. -/
def readTree : IO FileTree := do
  let entries ← (← (← IO.currentDir).readDir).toList.mapM (entriesAt [])
  return ⟨entries.flatten⟩

/-- The settings that may hold keys. -/
def readSettings : IO (List (String × String)) := do
  let pairs ← (Vendor.all.flatMap Vendor.keyNames).mapM fun k => do
    return (← IO.getEnv k).map fun v => (k, v)
  return pairs.filterMap id

/-- The time. -/
def readClock : IO Clock := do
  return .ofMillis (← Std.Time.Timestamp.now).toMillisecondsSinceUnixEpoch.val.toNat

/-- What is typed. -/
partial def readTyped (stdin : IO.FS.Stream) : IO String := do
  let line ← stdin.getLine
  if line.isEmpty then return ""
  return line ++ (← readTyped stdin)

/-- What is said where something outside the machine is asked. -/
def unreachable : String := "no connection"

/-- The workplace of the program. -/
def workplace : IO Workplace := do
  return {
    tree := ← readTree
    connection := { answer := fun _ => .lost unreachable, token := ← IO.getEnv "GITHUB_TOKEN" }
    clock := ← readClock
    environment := { settings := ← readSettings }
    replies := fun _ _ => .serviceError unreachable
    standIn := none }

/-- Writes a file, and the directories that it is in. -/
def writeFile (path text : String) : IO Unit := do
  let dir := Text.join "/" (Path.components path).dropLast
  unless dir.isEmpty do IO.FS.createDirAll dir
  IO.FS.writeFile path text

end Assay.Program

def main (args : List String) : IO UInt32 := do
  let typed ← if CommandLine.isInteractive args then Program.readTyped (← IO.getStdin) else pure ""
  let e := CommandLine.execute (← Program.workplace) args typed
  for (path, text) in e.files do Program.writeFile path text
  IO.print e.output
  IO.eprint e.complaints
  if let some f := e.failure then IO.eprintln f.message
  return UInt32.ofNat e.exitCode
