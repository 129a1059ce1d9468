import Backlog.Path
import Backlog.Storage
/-!
A storage in memory: a tree of directories, files and symbolic links, and how a path finds its way
through it.

- `Tree.destination`, `Tree.walk`: from a place along the parts of a path, following links;
- `Tree.addFile`, `Tree.addLink`, `Tree.addDirectory`, `Tree.remove`: trees made step by step;
- `Tree.storage`: the tree as a storage, seen from a working directory.
-/
namespace Backlog
set_option autoImplicit false

abbrev Name := List UInt8

/-- A place in a tree: the names on the way from the root. -/
abbrev Place := List Name

inductive Node where
  | file (bytes : List UInt8)
  | directory
  | link (target : Text)
  deriving DecidableEq, Repr

/-- What stands where. The root is a directory that is not listed. -/
structure Tree where
  nodes : List (Place × Node)

namespace Tree

def empty : Tree := ⟨[]⟩

def node? (t : Tree) (place : Place) : Option Node :=
  if place.isEmpty then some .directory else t.nodes.lookup place

def set (t : Tree) (place : Place) (node : Node) : Tree :=
  ⟨t.nodes.filter (fun n => n.1 ≠ place) ++ [(place, node)]⟩

/-! ## Paths -/

/-- The name of the directory itself. -/
def here : Name := Text.utf8 "."

/-- The name of the directory above. -/
def above : Name := Text.utf8 ".."

/-- The names along a path. A slash at the end asks for a directory, as a dot there would. -/
def names (path : Text) : List Name :=
  (Path.parts path).map Text.utf8 ++ if path.getLast? == some '/' then [here] else []

def nameLimit : Nat := 255

/-- How many links may be followed on one way. -/
def linkLimit : Nat := 40

/-- The length in bytes that no path may reach. -/
def pathLimit : Nat := 4096

/-- The place that names lead to from a place, when `link` says where they lead on from a link.
Nothing need stand at the place of the last name. -/
def follow (t : Tree) (link : Place → List Name → Except ReadFault Place) :
    Place → List Name → Except ReadFault Place
  | place, [] => .ok place
  | place, name :: rest =>
    if t.node? place ≠ some .directory then .error .notDirectory
    else if nameLimit < name.length then .error .nameTooLong
    else if name = here then follow t link place rest
    else if name = above then follow t link place.dropLast rest
    else
      match t.node? (place ++ [name]) with
      | none => if rest.isEmpty then .ok (place ++ [name]) else .error .missing
      | some (.link target) =>
        link (if Path.isAbsolute target then [] else place) (names target ++ rest)
      | some _ => follow t link (place ++ [name]) rest

/-- The place that names lead to from a place, following at most `links` links. Nothing need stand
at the place of the last name, also when that name is the target of a link. -/
def destination (t : Tree) : Nat → Place → List Name → Except ReadFault Place
  | 0 => follow t fun _ _ => .error .tooManyLinks
  | links + 1 => follow t (destination t links)

/-- The place that names lead to, if something stands there. -/
def walk (t : Tree) (place : Place) (along : List Name) : Except ReadFault Place :=
  match destination t linkLimit place along with
  | .error fault => .error fault
  | .ok next => if (t.node? next).isSome then .ok next else .error .missing

def resolve (t : Tree) (cwd : Place) (path : Text) : Except ReadFault Place :=
  if path.isEmpty then .error .missing
  else if path.contains '\x00' then .error .nulInPath
  else if pathLimit ≤ Text.utf8Length path then .error .nameTooLong
  else walk t (if Path.isAbsolute path then [] else cwd) (names path)

/-! ## Making trees -/

/-- The tree with directories along names, and the place at their end. There is none when something
else stands in the way, such as a link that leads nowhere. -/
def makeDirectories? (t : Tree) (place : Place) : List Name → Option (Tree × Place)
  | [] => some (t, place)
  | name :: rest =>
    match destination t linkLimit place [name] with
    | .error _ => none
    | .ok next =>
      match t.node? next with
      | some .directory => makeDirectories? t next rest
      | some _ => none
      | none =>
        if next = place ++ [name] then makeDirectories? (t.set next .directory) next rest else none

/-- The tree with directories along all names but the last, and the place at their end with this
last name. -/
def makeParents? (t : Tree) (place : Place) (along : List Name) : Option (Tree × Place × Name) := do
  let last ← along.getLast?
  let (t, parent) ← t.makeDirectories? place along.dropLast
  return (t, parent, last)

/-- The tree with a file at the end of names, and directories on the way. What the last name links
to is written in place of the link. The tree stays as it is when the file cannot be written. -/
def addFile (t : Tree) (place : Place) (along : List Name) (bytes : List UInt8) : Tree :=
  match t.makeParents? place along with
  | none => t
  | some (t, parent, last) =>
    match destination t linkLimit parent [last] with
    | .error _ => t
    | .ok next => if t.node? next = some .directory then t else t.set next (.file bytes)

/-- The tree with a link at the end of names, unless something stands there. -/
def addLink (t : Tree) (place : Place) (along : List Name) (target : Text) : Tree :=
  match t.makeParents? place along with
  | none => t
  | some (t, parent, last) =>
    if (t.node? (parent ++ [last])).isSome then t else t.set (parent ++ [last]) (.link target)

def addDirectory (t : Tree) (place : Place) (along : List Name) : Tree :=
  ((t.makeDirectories? place along).map Prod.fst).getD t

/-- The tree without what stands at the end of names and below, if something stands there. A link is
removed and not followed, unless a directory is asked for. -/
def remove? (t : Tree) (place : Place) (along : List Name) : Option Tree := do
  let target ← match along.getLast? with
    | none => some place
    | some last =>
      if last = here then (walk t place along).toOption
      else ((walk t place along.dropLast).toOption).map (· ++ [last])
  let _ ← t.node? target
  return ⟨t.nodes.filter fun n => !target.isPrefixOf n.1⟩

/-! ## As a storage -/

def entryOf (name : Name) : Node → Entry
  | .file _ => ⟨name, .file⟩
  | .directory => ⟨name, .directory⟩
  | .link _ => ⟨name, .link⟩

def entriesAt (t : Tree) (place : Place) : List Entry :=
  t.nodes.filterMap fun n =>
    match n.1.getLast? with
    | some name => if n.1.dropLast = place then some (entryOf name n.2) else none
    | none => none

def list (t : Tree) (cwd : Place) (path : Text) : Except ListFault (List Entry) :=
  match t.resolve cwd path with
  | .error _ => .error .noDirectory
  | .ok place =>
    match t.node? place with
    | some .directory => .ok (t.entriesAt place)
    | _ => .error .noDirectory

def read (t : Tree) (cwd : Place) (path : Text) : Except ReadFault Text :=
  match t.resolve cwd path with
  | .error fault => .error fault
  | .ok place =>
    match t.node? place with
    | some (.file bytes) =>
      match Text.ofUtf8? bytes with
      | some content => .ok content
      | none => .error .notText
    | some .directory => .error .isDirectory
    | _ => .error .missing

def storage (t : Tree) (cwd : Place) : Storage where
  list := t.list cwd
  read := t.read cwd

end Tree

end Backlog
