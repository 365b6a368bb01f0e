/-!
# Session logs

A run that is told to keep a log adds a file to the log directory and first removes the logs of
earlier sessions that are more than seven days old.  Other files in the directory stay.
-/

namespace LiveTree

/-- A file in the log directory and the time since its last change, in milliseconds; the time is
    negative when the clock has been turned back. -/
structure LogFile where
  name : String
  age : Int
  deriving DecidableEq, Repr

namespace LogFile

/-- How long session logs are kept, in milliseconds. -/
def retention : Int := 7 * 24 * 60 * 60 * 1000

/-- Whether a file is the log of a session. -/
def isSession (file : LogFile) : Bool :=
  file.name.startsWith "session-" && file.name.endsWith ".log"

/-- Whether a new session removes a file. -/
def isExpired (file : LogFile) : Bool := file.isSession && decide (retention < file.age)

end LogFile

end LiveTree
