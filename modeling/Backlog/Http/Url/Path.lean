import Backlog.Http.Escape
import Backlog.Text.Classes
/-!
Paths of addresses, freed of the segments that only move about. A path is built from its first segment
on and kept with its last character first, so that moving up cuts off its front.

- `Path.Rules`: in what addresses differ;
- `Path.append`: a path with the segments of a text behind it.
-/
namespace Backlog.Http.Url
set_option autoImplicit false

namespace Path

/-- In what the paths of addresses differ. -/
structure Rules where
  bothSlashes : Bool
  /-- Whether the path is one of files, where a drive is never left. -/
  files : Bool

/-! ## Segments -/

/-- Whether a segment stands for the directory itself. -/
def isHere (segment : Text) : Bool := [".".toList, "%2e"].contains (segment.map Char.toLower)

def isAbove (segment : Text) : Bool :=
  ["..".toList, ".%2e", "%2e.", "%2e%2e"].contains (segment.map Char.toLower)

/-- Whether a segment names a drive: a letter and a colon, or an upright stroke in its place. -/
def isDrive : Text → Bool
  | [letter, mark] => letter.isAlpha && (mark == ':' || mark == '|')
  | _ => false

def isNormalDrive : Text → Bool
  | [letter, mark] => letter.isAlpha && mark == ':'
  | _ => false

def startsWithDrive (segment : Text) : Bool :=
  isDrive (segment.take 2) && (segment.length == 2 || segment[2]? == some '\\')

def marked : Text := " \"<>#?\x7b\x7d\x60"

/-! ## Paths with their last character first -/

def lastSegment (path : Text) : Text := (path.takeWhile (· != '/')).reverse

/-- The path, ended by a slash. -/
def closed (path : Text) : Text := if path.head? = some '/' then path else '/' :: path

/-- The path without the slash at its end, unless that is its only slash or stands behind a drive.
-/
def opened : Text → Text
  | '/' :: path =>
    if path.contains '/' && !startsWithDrive (lastSegment path) then path else '/' :: path
  | path => path

/-- The path without its last segment. A path of files keeps its drive. -/
def shortened (rules : Rules) (path : Text) : Text :=
  if rules.files && isNormalDrive (lastSegment path) then path else path.dropWhile (· != '/')

/-- The path of the directory above. -/
def above (rules : Rules) (path : Text) : Text := shortened rules (opened path)

/-- The path with a segment behind it, and with a slash if one follows. -/
def push (rules : Rules) (path segment : Text) (slash : Bool) : Text :=
  if isAbove segment then
    let path := above rules path
    if slash then closed path else path
  else if isHere segment then closed path
  else
    let segment := Escape.escape marked segment
    let segment :=
      if rules.files && path.length == 1 && isDrive segment then segment.take 1 ++ [':'] else segment
    let path := segment.reverse ++ path
    if slash then '/' :: path else path

def pushAll (rules : Rules) (path : Text) : List Text → Text
  | [] => path
  | [segment] => push rules path segment false
  | segment :: segments => pushAll rules (push rules path segment true) segments

/-- Whether one of the segments comes to name the drive of a path of files. -/
def meetsDrive (rules : Rules) (path : Text) : List Text → Bool
  | [] => false
  | segment :: segments =>
    (rules.files && path.length == 1 && isDrive segment) ||
      meetsDrive rules (push rules path segment true) segments

def segments (rules : Rules) (t : Text) : List Text :=
  (t.map fun c => if rules.bothSlashes && c == '\\' then '/' else c).splitOn '/'

/-- The path `start` with the segments of a text behind it. A path of files starts with one slash.
-/
def append (rules : Rules) (start t : Text) : Text :=
  let path := (pushAll rules start.reverse (segments rules t)).reverse
  if rules.files then '/' :: path.dropWhile (· == '/') else path

end Path

end Backlog.Http.Url
