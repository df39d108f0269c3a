import BoardSmoke.Calendar
import BoardSmoke.Channel.Basic
import BoardSmoke.FileTree.Path
import BoardSmoke.RunError

namespace BoardSmoke

structure Disk (ω : Type) where
  makeFolders : Bytes → ω → Except Fault Unit × ω
  writeFile : Bytes → Bytes → ω → Except Fault Unit × ω

namespace Archive

variable {ω : Type}

def versionLogName : Name := Utf8.bytes "latest_ver_all.log"

def bootLogName (time : LocalTime) : Name := Utf8.bytes ("boot_" ++ time.stamp ++ ".log")

-- Writes `text` to the file `name` of the archive, in the stead of what it held, and returns the
-- file's path.
def save (journal : Journal ω) (disk : Disk ω) (root : Bytes) (name : Name) (text : String) :
    Session ω RunError Bytes := do
  Session.mapError (.logNotWritten root) (Session.call (disk.makeFolders root))
  let path := Path.join root name
  let content := Utf8.bytes text
  Session.act (journal.note ⟨.debug, .logs,
    "Writing " ++ toString content.length ++ " bytes to " ++ Utf8.text path⟩)
  Session.mapError (.logNotWritten path) (Session.call (disk.writeFile path content))
  pure path

def saveBootLog (journal : Journal ω) (disk : Disk ω) (root : Bytes) (text : String)
    (time : LocalTime) : Session ω RunError Bytes :=
  save journal disk root (bootLogName time) text

def saveVersionOutput (journal : Journal ω) (disk : Disk ω) (root : Bytes) (text : String) :
    Session ω RunError Bytes :=
  save journal disk root versionLogName text

end Archive

end BoardSmoke
