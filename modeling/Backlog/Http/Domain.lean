import Backlog.Http.Domain.Classes
import Backlog.Http.Domain.Folding
import Backlog.Http.Domain.Punycode
/-!
Names of hosts. A name is a row of labels with dots between them. It may be spelled with the letters of
any script; what is asked for is its ASCII form.

- `Domain.normal`: a text with its letters folded and composed;
- `Domain.ascii?`: the ASCII form of a name, if the bytes spell one.
-/
namespace Backlog.Http.Domain
set_option autoImplicit false

/-- A text with its letters folded and composed. -/
def normal (t : Text) : Text := composed (t.flatMap fold)

/-- The mark of labels that are an ASCII form. -/
def encodedMark : Text := "xn--"

def isEncoded (label : Text) : Bool := Text.startsWith encodedMark (label.map Char.toLower)

/-- The label that is meant, if it can be one. An ASCII form must be that of a label that needs one.
-/
def label? (label : Text) : Option Text :=
  if isEncoded label then do
    let code := label.drop encodedMark.length
    if 2000 < code.length || !code.all Punycode.isAscii then none
    else
      let meant ← Punycode.decode? code
      if meant.all Punycode.isAscii || isEncoded meant || normal meant != meant then none
      else if isAllowed meant then some meant
      else none
  else if label.all Punycode.isAscii || isAllowed label then some label
  else none

/-- The ASCII form of a label, unless it is too long. -/
def asciiLabel? (label : Text) : Option Text :=
  if label.all Punycode.isAscii then some label
  else if 1000 < label.length then none
  else some (encodedMark ++ Punycode.encode label)

/-- The ASCII form of a name that has other letters, or labels that stand for some. -/
def encoded? (name : Text) : Option Text := do
  let labels ← ((normal name).splitOn '.').mapM label?
  if labels.any Direction.turns && !labels.all Direction.fits then none
  else
    let forms ← labels.mapM asciiLabel?
    return Text.join "." forms

/-- Characters of ASCII that no name holds. -/
def refused : Text := " #%/:<>?@[\\]^|"

def isPlain (c : Char) : Bool := 0x20 < c.toNat && c.toNat < 0x7F && !refused.contains c

def ascii? (bytes : List UInt8) : Option Text := do
  let name ← Text.ofUtf8? bytes
  let form ←
    if name.all Punycode.isAscii && !(name.splitOn '.').any isEncoded then
      some (name.map Char.toLower)
    else encoded? name
  if form.all isPlain then some form else none

end Backlog.Http.Domain
