-- A store that is a tree of directories and files, as a system keeps it on a disk. Paths are
-- followed segment by segment from the top, which is the working directory of a relative path and
-- the root directory of an absolute one.
import LayerLint.FileStore
import LayerLint.SortedMap
import LayerLint.Text.Affix
import LayerLint.Text.Cut

namespace LayerLint

/-- A file or a directory. A system gives the entries of a directory in any order. -/
inductive FileTree where
  | file (contents : List UInt8)
  | directory (entries : List (String × FileTree))

namespace FileTree

def empty : FileTree := .directory []

/-! ## Following a path -/

/-- The longest name that an entry of a directory may have, in octets. -/
def nameLimit : Nat := 255

/-- The length, in octets, that a path stays below. -/
def pathLimit : Nat := 4096

/-- Follows segments from a place whose ancestors are known, the nearest first. One point stays
where it is and two go back; nothing is known outside of the tree. -/
def follow (ancestors : List FileTree) : FileTree → List String → Except FileProblem FileTree
  | here, [] => .ok here
  | .file _, _ :: _ => .error .notDirectory
  | .directory entries, segment :: rest =>
    if segment = "" ∨ segment = "." then follow ancestors (.directory entries) rest
    else if segment = ".." then
      match ancestors with
      | [] => .error .notFound
      | parent :: above => follow above parent rest
    else if nameLimit < segment.utf8ByteSize then .error .nameTooLong
    else
      match entries.lookup segment with
      | none => .error .notFound
      | some next => follow (.directory entries :: ancestors) next rest

theorem follow_stay {ancestors : List FileTree} {entries : List (String × FileTree)}
    {segment : String} (h : segment = "" ∨ segment = ".") (rest : List String) :
    follow ancestors (.directory entries) (segment :: rest) =
      follow ancestors (.directory entries) rest := by
  rw [follow.eq_def]
  simp only [h, if_true]

theorem follow_back (parent : FileTree) (above : List FileTree)
    (entries : List (String × FileTree)) (rest : List String) :
    follow (parent :: above) (.directory entries) (".." :: rest) = follow above parent rest := by
  simp [follow]

theorem follow_name {segment : String} (ancestors : List FileTree)
    (entries : List (String × FileTree)) (hstay : ¬(segment = "" ∨ segment = "."))
    (hback : segment ≠ "..") (rest : List String) :
    follow ancestors (.directory entries) (segment :: rest) =
      if nameLimit < segment.utf8ByteSize then .error .nameTooLong
      else
        match entries.lookup segment with
        | none => .error .notFound
        | some next => follow (.directory entries :: ancestors) next rest := by
  rw [follow.eq_def]
  simp only [hstay, hback, if_false]

/-- What stands at a path. Nothing stands in front of the slash that an absolute path begins with,
so that it is followed from the top as well. -/
def find (tree : FileTree) (path : String) : Except FileProblem FileTree :=
  if path.toList.contains '\x00' then .error .nulInName
  else if path.isEmpty then .error .notFound
  else if pathLimit ≤ path.utf8ByteSize then .error .nameTooLong
  else follow [] tree (Text.cutString '/' path)

/-- The contents of the file at a path. -/
def read (tree : FileTree) (path : String) : Except FileProblem (List UInt8) :=
  match tree.find path with
  | .error problem => .error problem
  | .ok (.file contents) => .ok contents
  | .ok (.directory _) => .error .isDirectory

def isDirectory : FileTree → Bool
  | .file _ => false
  | .directory _ => true

/-- The names of entries, put in order. -/
def listing (entries : List (String × FileTree)) : List DirectoryEntry :=
  (entries.filterMap fun e => DirectoryEntry.of? e.1 e.2.isDirectory).mergeSort
    fun a b => a.name ≤ b.name

/-- The names in the directory at a path. -/
def list (tree : FileTree) (path : String) : Except FileProblem (List DirectoryEntry) :=
  match tree.find path with
  | .error problem => .error problem
  | .ok (.file _) => .error .notDirectory
  | .ok (.directory entries) => .ok (listing entries)

/-- Whether anything stands at a path. -/
def has (tree : FileTree) (path : String) : Bool :=
  match tree.find path with
  | .error _ => false
  | .ok _ => true

instance : FileStore FileTree where
  read := read
  list := list
  has := has

/-! ## Building a tree -/

/-- The entries of a directory; a file has none. -/
def entries : FileTree → List (String × FileTree)
  | .file _ => []
  | .directory entries => entries

/-- Puts a file, or an empty directory, at the end of segments. Directories on the way are made,
and one that is there already stays. -/
def put (contents : Option (List UInt8)) : List String → FileTree → FileTree
  | [], tree =>
    match contents with
    | some octets => .file octets
    | none => .directory tree.entries
  | segment :: rest, tree =>
    let below := (tree.entries.lookup segment).getD empty
    .directory (SortedMap.insertEntry segment (put contents rest below) tree.entries)

/-- Puts a file at a path, or an empty directory if the path ends with a slash. -/
def insert (tree : FileTree) (path : String) (contents : List UInt8) : FileTree :=
  match FileStore.segments path with
  | [] => tree
  | first :: rest =>
    put (if Text.endsWith path "/" then none else some contents) (first :: rest) tree

def ofFiles (files : List (String × List UInt8)) : FileTree :=
  files.foldl (fun tree f => tree.insert f.1 f.2) empty

end FileTree

end LayerLint
