import Backlog.Error
import Backlog.Text
/-!
Where documents are kept, as far as the library asks: the entries of a directory and the text of a
file. A storage is a value, so that nothing changes while it is read.

- `ReadFault.message`: the words of the system for what fails;
- `ListFault`: the ways in which a directory is not listed to its end;
- `ReadFault.error`, `ReadFault.pathless`: the errors of the library for such faults.
-/
namespace Backlog
set_option autoImplicit false

inductive ReadFault where
  | missing
  | notDirectory
  | isDirectory
  | tooManyLinks
  | nameTooLong
  | nulInPath
  | forbidden
  | notText
  /-- Anything else, in the words of the system. -/
  | other (words : Text)
  deriving DecidableEq, Repr

def ReadFault.message : ReadFault → Text
  | .missing => "No such file or directory (os error 2)"
  | .notDirectory => "Not a directory (os error 20)"
  | .isDirectory => "Is a directory (os error 21)"
  | .tooManyLinks => "Too many levels of symbolic links (os error 40)"
  | .nameTooLong => "File name too long (os error 36)"
  | .nulInPath => "file name contained an unexpected NUL byte"
  | .forbidden => "Permission denied (os error 13)"
  | .notText => "stream did not contain valid UTF-8"
  | .other words => words

/-- What a directory entry is, without following links. -/
inductive EntryKind where
  | file
  | directory
  | link
  /-- The system fails when it is asked. -/
  | untold (fault : ReadFault)
  deriving DecidableEq, Repr

/-- An entry of a directory. Its name is a run of bytes, which need not encode a text. -/
structure Entry where
  name : List UInt8
  kind : EntryKind
  deriving DecidableEq, Repr

/-- Why a directory is not listed to its end. -/
inductive ListFault where
  /-- The path leads to no directory. -/
  | noDirectory
  /-- The directory is there but cannot be opened. -/
  | unopened (fault : ReadFault)
  /-- The listing breaks off behind some entries. -/
  | brokenOff (seen : List Entry) (fault : ReadFault)
  deriving DecidableEq, Repr

structure Storage where
  /-- The entries of the directory that a path leads to, in any order. -/
  list : Text → Except ListFault (List Entry)
  read : Text → Except ReadFault Text

/-- The error of a file or a directory that cannot be read. -/
def ReadFault.error (path : Text) (fault : ReadFault) : StoryError :=
  .fileUnreadable path fault.message

/-- The error of a fault in the middle of a listing, which no path is told with. -/
def ReadFault.pathless (fault : ReadFault) : StoryError := .storage fault.message

end Backlog
