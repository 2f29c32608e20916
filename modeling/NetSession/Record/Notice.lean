import NetSession.Console.Notice
import NetSession.Record.Decode

/-!
# Notices about records

What is said while a record is read.
-/

namespace NetSession.Record

/-- A record of a newer version is read with a warning, if its header is sound. -/
def notices (bytes : Bytes) : List Console.Notice :=
  match newerVersion? bytes with
  | none => []
  | some version =>
    [.say .records .warn ("loge record version " ++ toString version.toNat ++ " is newer than "
      ++ toString currentVersion.toNat ++ ", reading by offset")]

end NetSession.Record
