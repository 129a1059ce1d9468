import Backlog.Text
/-!
Paths as they are written, with `/` between their parts. Nothing here asks what exists.

- `Path.join`: one path below another; an absolute one stands for itself;
- `Path.fileName?`, `Path.stem?`: the last part, and that part without its extension;
- `Path.storyId`: the identifier that a file name gives, its stem up to the second hyphen.
-/
namespace Backlog.Path
set_option autoImplicit false

def isAbsolute (path : Text) : Bool := path.head? == some '/'

/-- The path of `child` below `parent`. No part is normalised. -/
def join (parent child : Text) : Text :=
  if isAbsolute child then child
  else if parent.isEmpty || parent.getLast? == some '/' then parent ++ child
  else parent ++ '/' :: child

def parts (path : Text) : List Text := (path.splitOn '/').filter fun part => !part.isEmpty

/-- The last part of a path. A part that is a single dot does not count, and a path that ends in two
dots names no file. -/
def fileName? (path : Text) : Option Text :=
  match ((parts path).filter (· ≠ ['.'])).getLast? with
  | some name => if name = ['.', '.'] then none else some name
  | none => none

/-- A name cut at its last dot. A dot at the front does not cut. -/
def splitExtension (name : Text) : Text × Option Text :=
  match name.reverse.dropWhile (· != '.') with
  | [] | [_] => (name, none)
  | _ :: stem => (stem.reverse, some (name.reverse.takeWhile (· != '.')).reverse)

def stem? (path : Text) : Option Text := (fileName? path).map fun name => (splitExtension name).1

def extension? (name : Text) : Option Text := (splitExtension name).2

def upToSecondHyphen (t : Text) : Text := Text.join "-" ((t.splitOn '-').take 2)

/-- The identifier of the story that a file holds, empty when the path names no file. -/
def storyId (path : Text) : Text := upToSecondHyphen ((stem? path).getD [])

end Backlog.Path
