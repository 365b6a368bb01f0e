import LiveTree.Command.Run
import LiveTree.Parser.Recorded

/-!
# The program

The outer layer: it collects the files that a command names, the recorded trees and the earlier logs,
lets `LiveTree.run` decide, and carries out what was decided.  Trees are read from the file that the
environment variable `LIVETREE_PARSES` names, as a list of recordings.
-/

namespace LiveTree.Main

/-- A directory given by an environment variable, or by its usual place below the home directory. -/
def userDirectory (setting usual : String) : IO String := do
  match ← IO.getEnv setting with
  | some path => if Path.isAbsolute path then return path
  | none => pure ()
  return Path.join ((← IO.getEnv "HOME").getD "/") usual

/-- Adds a path to what is known of the file system. -/
def lookAt (files : Files ByteArray) (path : String) : IO (Files ByteArray) := do
  let place := (← IO.currentDir) / path
  if ← place.isDir then
    return { files with folders := Path.locate files.base path :: files.folders }
  else
    try return files.insert path (← IO.FS.readBinFile place)
    catch _ => return files

/-- The recorded trees. -/
def recordings : IO (List Recording) := do
  match ← IO.getEnv "LIVETREE_PARSES" with
  | none => return []
  | some path => return (Recording.parse? (← IO.FS.readFile path).toList).getD []

/-- Milliseconds of a point in time. -/
def millis (time : IO.FS.SystemTime) : Int := time.sec * 1000 + time.nsec.toNat / 1000000

/-- Starts a log in a directory and answers the earlier files there; their ages are measured from the
    time of the new log. -/
def startLog (directory : String) : IO (List LogFile) := do
  IO.FS.createDirAll directory
  let folder ← IO.FS.realPath directory
  let earlier ← folder.readDir
  let stamp ← IO.monoNanosNow
  let log := folder / s!"session-{stamp}.log"
  IO.FS.writeFile log ""
  let now := millis (← log.metadata).modified
  earlier.toList.filterMapM fun entry => do
    let metadata ← entry.path.metadata
    if metadata.type == .file then
      return some ⟨entry.fileName, now - millis metadata.modified⟩
    else return none

/-- Says on the standard streams how the program ends, and answers its exit code. -/
def conclude (ending : Ending) : IO UInt32 := do
  match ending with
  | .usage => IO.eprintln "usage: syntax-sync [options] tree|select|bracket|verify <file> [options]"
  | .help => IO.println "syntax-sync [options] tree|select|bracket|verify <file> [options]"
  | .printed text => IO.print text
  | .failed failure => IO.eprint failure.report
  | .aborted message => IO.eprintln message
  | .killed => IO.eprintln "out of memory"
  return (ending.exitCode.getD 137).toUInt32

/-- Runs the command that the arguments name. -/
def perform (args : List String) (invocation : Invocation) : IO UInt32 := do
  let directory := Path.join (← userDirectory "XDG_CACHE_HOME" ".cache") "syntax-sync"
  let logs ← if invocation.logFile then startLog directory else pure []
  let base := Path.components (← IO.currentDir).toString
  let files ← invocation.paths.foldlM lookAt { base := base }
  let dataHome ← userDirectory "XDG_DATA_HOME" ".local/share"
  let outcome := LiveTree.run (.ofRecordings (← recordings) none) { files, dataHome, logs } args
  for log in logs do
    unless outcome.logs.contains log do
      IO.FS.removeFile (Path.join directory log.name)
  conclude outcome.ending

end LiveTree.Main

/-- Runs the program. -/
def main (args : List String) : IO UInt32 :=
  match LiveTree.Arguments.parse args with
  | .error stop => LiveTree.Main.conclude (.ofStop stop)
  | .ok invocation => LiveTree.Main.perform args invocation
