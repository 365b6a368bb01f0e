import LiveTree.Config.Format
import LiveTree.Files

/-!
# Configuration files
-/

namespace LiveTree

/-- The settings in a configuration file. -/
def Config.load (fs : Files ByteArray) (path : String) : Except ConfigError Config :=
  match fs.readText path with
  | .ok text => Config.parse text
  | .error reason => .error (.unreadable path reason.message)

end LiveTree
