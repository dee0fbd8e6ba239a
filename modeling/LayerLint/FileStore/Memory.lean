-- A store that holds files and no directories: a directory is there as long as a file is stored
-- under it.
import LayerLint.FileStore
import LayerLint.SortedMap
import LayerLint.Text.Affix
import LayerLint.Text.Cut

namespace LayerLint

/-- Files by their paths. -/
structure MemoryStore where
  files : SortedMap (List UInt8)

namespace MemoryStore

def empty : MemoryStore := ⟨SortedMap.empty⟩

/-! ## Paths -/

/-- A path without the slashes in front. -/
def fileKey (path : String) : String := String.ofList (Text.dropLeading '/' path.toList)

/-- A path without the slashes at its two ends. -/
def directoryKey (path : String) : List Char :=
  Text.dropTrailing '/' (Text.dropLeading '/' path.toList)

/-- What the paths below a directory begin with. -/
def directoryStart (path : String) : List Char :=
  match directoryKey path with
  | [] => []
  | key => key ++ ['/']

/-! ## Changes -/

/-- Stores a file; one with the same path is replaced. -/
def insert (m : MemoryStore) (path : String) (contents : List UInt8) : MemoryStore :=
  ⟨m.files.insert (fileKey path) contents⟩

/-- Removes a file. -/
def remove (m : MemoryStore) (path : String) : MemoryStore := ⟨m.files.erase (fileKey path)⟩

/-- The contents of a file. -/
def get? (m : MemoryStore) (path : String) : Option (List UInt8) := m.files.get? (fileKey path)

/-- A store of files, of which a later one replaces an earlier one. -/
def ofFiles (files : List (String × List UInt8)) : MemoryStore :=
  files.foldl (fun m f => m.insert f.1 f.2) empty

@[simp] theorem get?_insert (m : MemoryStore) (path other : String) (contents : List UInt8) :
    (m.insert path contents).get? other =
      if fileKey other = fileKey path then some contents else m.get? other := by
  simp [get?, insert]

/-! ## Answers -/

/-- What the first segment of a path below a directory shows there: itself, as a directory if
more segments follow. -/
def shown (rest : List Char) : DirectoryEntry where
  name := String.ofList ((Text.cut '/' rest).headD [])
  isDirectory := 1 < (Text.cut '/' rest).length
  plain := by
    rw [String.toList_ofList]
    rcases hcut : Text.cut '/' rest with _ | ⟨name, more⟩
    · exact List.not_mem_nil
    · exact Text.not_mem_of_mem_cut (hcut ▸ List.mem_cons_self)

/-- The entries of a listing by their names. Of a file and a directory with one name the
directory is shown. -/
def listing (m : MemoryStore) (path : String) : SortedMap DirectoryEntry :=
  m.files.keys.foldl (fun entries key =>
      match Text.after? (directoryStart path) key.toList with
      | none => entries
      | some rest =>
        let entry := shown rest
        let before := (entries.get? entry.name).any (·.isDirectory)
        entries.insert entry.name { entry with isDirectory := entry.isDirectory || before })
    SortedMap.empty

instance : FileStore MemoryStore where
  read m path :=
    match m.get? path with
    | some contents => .ok contents
    | none => .error .notFound
  list m path :=
    match (m.listing path).entries with
    | [] => .error .notFound
    | entries => .ok (entries.map (·.2))
  has m path :=
    m.files.contains (String.ofList (directoryKey path)) ||
      m.files.keys.any fun key => (directoryStart path).isPrefixOf key.toList

end MemoryStore

end LayerLint
