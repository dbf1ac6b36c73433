import Std.Time.DateTime
import TablePhrase.Command.Run

/-!
The program: it loads the files that the arguments name, runs the command on them, and carries out
what the run leaves behind.
-/

namespace TablePhrase.Command

def Invocation.paths (i : Invocation) : List String :=
  i.storePath
    :: (["config", "candidates", "workspace", "memory"].map i.valuesOf).flatten

/-- The file at a path put into the directory, if there is one. What is there and is no text stands
in its place as a directory, which cannot be read either. -/
def loadFile (d : Directory) (path : String) : IO Directory := do
  match ← (IO.FS.readFile path).toBaseIO with
  | .ok text => return (d.save path text).1
  | .error (.noFileOrDirectory ..) => return d
  | .error _ => return (d.makeAll (Directory.start path) (Directory.names path)).1

def loadFiles (arguments : List String) : IO Directory :=
  match Invocation.ofArguments arguments with
  | .ok i => i.paths.foldlM loadFile .empty
  | .error _ => return .empty

def writeFile (path text : String) : IO Unit := do
  let place := (Directory.names path).dropLast
  if !place.isEmpty then IO.FS.createDirAll (Text.join "/" (Directory.start path ++ place))
  IO.FS.writeFile path text

/-- Writes the file at a path if the run changed it; answers what to print if that fails. -/
def keepFile (before after : Directory) (path : String) : IO (List Notice) := do
  match after.read? path with
  | some text =>
    if before.read? path = some text then return []
    match ← (writeFile path text).toBaseIO with
    | .ok () => return []
    | .error _ => return (Report.ofStore (.inaccessible path)).notices
  | none => return []

def now : IO Timestamp := do
  let moment := Std.Time.DateTime.ofTimestamp (← Std.Time.Timestamp.now) .UTC
  let present := Timestamp.ofFields? moment.year.toInt moment.month.toNat moment.day.toNat
    moment.hour.toNat moment.minute.toNat moment.second.toNat moment.nanosecond.toNat
  match present with
  | some t => return t
  | none => throw (IO.userError "the clock shows no date")

def runHere (arguments : List String) : IO UInt32 := do
  let before ← loadFiles arguments
  let outcome := Command.run before (← now) arguments
  IO.print outcome.output
  let notices ←
    match Invocation.ofArguments arguments with
    | .ok i => (i.paths.mapM (keepFile before outcome.directory)).map List.flatten
    | .error _ => pure []
  (outcome.notices ++ notices).forM fun notice => IO.eprintln notice.text
  return if notices.isEmpty then outcome.exit.toUInt32 else 1

end TablePhrase.Command

def main (arguments : List String) : IO UInt32 :=
  TablePhrase.Command.runHere arguments
