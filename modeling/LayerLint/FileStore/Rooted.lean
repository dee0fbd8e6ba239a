-- A store that begins at a directory of another store.
import LayerLint.FileStore
import LayerLint.Text.Affix

namespace LayerLint

/-- A store, and the path in it where this one begins. -/
structure RootedStore (σ : Type) where
  root : String
  store : σ

namespace RootedStore

/-- A path and one name more. -/
def join (path name : String) : String :=
  if path.isEmpty then name
  else if Text.endsWith path "/" then path ++ name
  else path ++ "/" ++ name

/-- The path in the store behind. -/
def place {σ : Type} (s : RootedStore σ) (path : String) : String :=
  (FileStore.segments path).foldl join s.root

instance {σ : Type} [FileStore σ] : FileStore (RootedStore σ) where
  read s path := FileStore.read s.store (s.place path)
  list s path := FileStore.list s.store (s.place path)
  has s path := FileStore.has s.store (s.place path)

end RootedStore

end LayerLint
