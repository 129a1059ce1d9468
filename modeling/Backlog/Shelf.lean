import Backlog.Document
import Backlog.Catalog
import Backlog.Path
import Backlog.Storage
/-!
A shelf: the directory in which the documents of a project stand, with the mark that their file
names start with and the catalog that goes with them.

- `Shelf.discover`: the documents in the byte order of their names;
- `Shelf.find`, `Shelf.loadAll`: one document by identifier, and all of them;
- `Shelf.summarize`: how many stories there are and how many are finished.
-/
namespace Backlog
set_option autoImplicit false

structure Shelf where
  dir : Text
  /-- Documents are named `<filePrefix>-….md`. -/
  filePrefix : Text
  catalog : Catalog

structure Summary where
  total : Nat
  completed : Nat
  notStarted : Nat
  deriving DecidableEq, Repr

namespace Shelf

/-! ## Discovery -/

def isDocumentName (filePrefix name : Text) : Bool :=
  Text.startsWith (filePrefix ++ ['-']) name && Path.extension? name == some "md"

/-- The names of documents among entries: those of files, in the byte order. -/
def documentNames (filePrefix : Text) (entries : List Entry) : List Text :=
  let files := entries.filter fun e => e.kind == .file
  let sorted := (files.map (·.name)).mergeSort fun a b => decide (a ≤ b)
  (sorted.filterMap Text.ofUtf8?).filter (isDocumentName filePrefix)

/-- The first fault that is met where the kinds of entries named like documents are asked for. -/
def untold? (filePrefix : Text) (entries : List Entry) : Option ReadFault :=
  entries.findSome? fun e =>
    match e.kind, Text.ofUtf8? e.name with
    | .untold fault, some name => if isDocumentName filePrefix name then some fault else none
    | _, _ => none

def discover (shelf : Shelf) (storage : Storage) : Except StoryError (List Text) :=
  match storage.list shelf.dir with
  | .error .noDirectory => .error (.directoryNotFound shelf.dir)
  | .error (.unopened fault) => .error (fault.error shelf.dir)
  -- An entry that has been seen may have ended the search before the listing broke off.
  | .error (.brokenOff seen fault) =>
    .error ((untold? shelf.filePrefix seen).getD fault).pathless
  | .ok entries =>
    match untold? shelf.filePrefix entries with
    | some fault => .error fault.pathless
    | none => .ok ((documentNames shelf.filePrefix entries).map (Path.join shelf.dir))

/-! ## Loading -/

end Shelf

def Storage.load (storage : Storage) (path : Text) : Except StoryError Story :=
  match storage.read path with
  | .error fault => .error (fault.error path)
  | .ok content => .ok (Document.read (Path.storyId path) content)

namespace Shelf

/-- The path of the first document with an identifier, up to the case of letters. -/
def find (shelf : Shelf) (storage : Storage) (id : Text) : Except StoryError Text := do
  let paths ← shelf.discover storage
  match paths.find? fun path => Text.sameLetters (Path.storyId path) id with
  | some path => .ok path
  | none => .error (.storyNotFound id)

/-- The stories at paths, up to the first that cannot be read. -/
def loadPaths (storage : Storage) : List Text → Except StoryError (List Story)
  | [] => .ok []
  | path :: paths => do
    let story ← storage.load path
    let stories ← loadPaths storage paths
    return story :: stories

def loadAll (shelf : Shelf) (storage : Storage) : Except StoryError (List Story) := do
  loadPaths storage (← shelf.discover storage)

/-! ## Counting -/

def count (catalog : Catalog) (summary : Summary) (id : Text) : Summary :=
  if catalog.isComplete id then
    { summary with total := summary.total + 1, completed := summary.completed + 1 }
  else { summary with total := summary.total + 1, notStarted := summary.notStarted + 1 }

/-- The summary of identifiers, each counted as often as it occurs. -/
def countAll (catalog : Catalog) (ids : List Text) : Summary :=
  ids.foldl (count catalog) ⟨0, 0, 0⟩

/-- The summary of the documents, by their file names alone. -/
def summarize (shelf : Shelf) (storage : Storage) : Except StoryError Summary := do
  let paths ← shelf.discover storage
  return countAll shelf.catalog (paths.map Path.storyId)

end Shelf

end Backlog
