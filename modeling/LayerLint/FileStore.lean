-- Where the files of a repository are kept. A store is asked by paths with a slash between their
-- segments; what stands behind it is its own affair.
import LayerLint.Text.Cut

namespace LayerLint

/-- Why a store does not give what it is asked for. -/
inductive FileProblem where
  | notFound
  | notDirectory
  | isDirectory
  | nameTooLong
  | nulInName
  deriving DecidableEq, Repr

/-- The text of a problem, with the number that the system gives it if there is one. -/
def FileProblem.message : FileProblem → String
  | .notFound => "No such file or directory (os error 2)"
  | .notDirectory => "Not a directory (os error 20)"
  | .isDirectory => "Is a directory (os error 21)"
  | .nameTooLong => "File name too long (os error 36)"
  | .nulInName => "file name contained an unexpected NUL byte"

/-- One name in the listing of a directory. A name is one segment of a path. -/
structure DirectoryEntry where
  name : String
  isDirectory : Bool
  plain : '/' ∉ name.toList
  deriving DecidableEq, Repr

/-- The entry of a name. No path leads to what has a slash in its name, and it has no entry. -/
def DirectoryEntry.of? (name : String) (isDirectory : Bool) : Option DirectoryEntry :=
  if plain : '/' ∉ name.toList then some ⟨name, isDirectory, plain⟩ else none

/-- A store of files. Listings are in ascending order of the names. -/
class FileStore (σ : Type) where
  read : σ → String → Except FileProblem (List UInt8)
  list : σ → String → Except FileProblem (List DirectoryEntry)
  has : σ → String → Bool

/-- The segments of a path that name something. -/
def FileStore.segments (path : String) : List String :=
  (Text.cutString '/' path).filter fun segment => segment != ""

end LayerLint
