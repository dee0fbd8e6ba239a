-- A store of what another one answered, path by path. What was not looked at is not there.
import LayerLint.FileStore
import LayerLint.SortedMap

namespace LayerLint

/-- What stands at a path. -/
inductive SnapshotEntry where
  | file (contents : List UInt8)
  | directory (entries : List DirectoryEntry)
  deriving DecidableEq, Repr

structure Snapshot where
  entries : SortedMap SnapshotEntry

namespace Snapshot

def empty : Snapshot := ⟨SortedMap.empty⟩

def addFile (s : Snapshot) (path : String) (contents : List UInt8) : Snapshot :=
  ⟨s.entries.insert path (.file contents)⟩

/-- Adds a directory; its entries are put in order. -/
def addDirectory (s : Snapshot) (path : String) (entries : List DirectoryEntry) : Snapshot :=
  ⟨s.entries.insert path (.directory (entries.mergeSort fun a b => a.name ≤ b.name))⟩

def read (s : Snapshot) (path : String) : Except FileProblem (List UInt8) :=
  match s.entries.get? path with
  | some (.file contents) => .ok contents
  | some (.directory _) => .error .isDirectory
  | none => .error .notFound

def list (s : Snapshot) (path : String) : Except FileProblem (List DirectoryEntry) :=
  match s.entries.get? path with
  | some (.directory entries) => .ok entries
  | some (.file _) => .error .notDirectory
  | none => .error .notFound

instance : FileStore Snapshot where
  read := read
  list := list
  has s path := s.entries.contains path

end Snapshot

end LayerLint
