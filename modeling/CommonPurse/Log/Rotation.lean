import CommonPurse.Store.Table

/-!
# Log files

A log file that makes room when it grows too large: it becomes the first of its copies, the
copies move up by one, and the last one is dropped.

## Main definitions

* `CommonPurse.Log.Disk` — files with their contents.
* `CommonPurse.Log.LogFile` — a log file, its greatest size and the number of its copies.
* `CommonPurse.Log.LogFile.append` — write a line.
-/

namespace CommonPurse.Log

open CommonPurse.Store (Table)

/-- Files by their paths, with their contents. -/
abbrev Disk := Table String String

/-- A log file. A limit that is not positive is no limit, and without copies nothing is moved. -/
structure LogFile where
  path : String
  limit : Int
  copies : Int
  deriving DecidableEq, Repr, Inhabited

namespace LogFile

/-- The path of a copy; copy zero is the file itself. -/
def copyPath (f : LogFile) (n : Nat) : String :=
  if n = 0 then f.path else f.path ++ "." ++ toString n

/-- Make sure that the file is there. -/
def create (f : LogFile) (d : Disk) : Disk := if d.contains f.path then d else d.put f.path ""

/-- Whether a line would make the file too large. An empty file takes every line. -/
def isFull (f : LogFile) (line : String) (d : Disk) : Bool :=
  let content := (d.get? f.path).getD ""
  0 < f.limit && !content.isEmpty && f.limit ≤ content.utf8ByteSize + line.length + 1

/-- Move a file to another path, if it is there. -/
def move (source target : String) (d : Disk) : Disk :=
  match d.get? source with
  | some content => (d.erase source).put target content
  | none => d

/-- Move the copies up to the given number by one, the last one first. -/
def moveUp (f : LogFile) : Nat → Disk → Disk
  | 0, d => d
  | n + 1, d => moveUp f n (move (f.copyPath n) (f.copyPath (n + 1)) d)

/-- Make room. -/
def rotate (f : LogFile) (d : Disk) : Disk := f.create (f.moveUp f.copies.toNat d)

/-- Write a line at the end of the file. -/
def append (f : LogFile) (line : String) (d : Disk) : Disk :=
  let d := if f.isFull line d then f.rotate d else d
  d.put f.path ((d.get? f.path).getD "" ++ line ++ "\n")

end LogFile

end CommonPurse.Log
