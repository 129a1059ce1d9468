import Backlog.Text
/-!
JSON values as they are written. Objects keep their members in order, repeated names included, and a
number keeps its spelling unless it is a plain natural number.

- `Json.Quoted`: what a string literal stands for. A literal may hold half of a surrogate pair; then
  it stands for no text, yet it is still a legal literal.
- `Json.Layout`, `Json.render`: the two ways of writing a value, on one line or indented.
-/
namespace Backlog
set_option autoImplicit false

/-- What a string literal stands for: a text, or none when an escape leaves half a surrogate pair.
-/
abbrev Json.Quoted := Option Text

inductive Json where
  | null
  | bool (b : Bool)
  /-- A number written as digits only, without leading zeros. -/
  | natural (n : Nat)
  /-- Any other number, as spelled. -/
  | number (spelling : Text)
  | string (s : Json.Quoted)
  | array (items : List Json)
  | object (members : List (Json.Quoted × Json))

namespace Json

def text (t : Text) : Json := .string (some t)

/-- An object whose members have these names. -/
def record (members : List (Text × Json)) : Json :=
  .object (members.map fun m => (some m.1, m.2))

/-! ## String literals -/

def hexDigit (n : Nat) : Char := if n < 10 then Char.ofNat (48 + n) else Char.ofNat (87 + n)

/-- How one character is written inside a literal: the quote, the backslash and the controls are
escaped, with a letter where there is one, and nothing else is. -/
def escape (c : Char) : Text :=
  if c = '"' then ['\\', '"']
  else if c = '\\' then ['\\', '\\']
  else if c = '\x08' then ['\\', 'b']
  else if c = '\x0c' then ['\\', 'f']
  else if c = '\n' then ['\\', 'n']
  else if c = '\r' then ['\\', 'r']
  else if c = '\t' then ['\\', 't']
  else if c.toNat < 0x20 then ['\\', 'u', '0', '0', hexDigit (c.toNat / 16), hexDigit (c.toNat % 16)]
  else [c]

/-- A string literal. One that stands for no text is written as half a surrogate pair. -/
def quote : Quoted → Text
  | some t => '"' :: t.flatMap escape ++ ['"']
  | none => "\"\\ud800\""

/-! ## Layouts -/

/-- Where blanks go: before an item at a depth of nesting, and after a colon. -/
structure Layout where
  breakAt : Nat → Text
  afterColon : Text

def Layout.compact : Layout := ⟨fun _ => [], []⟩

/-- Each item on a line of its own, two columns further in than its container. -/
def Layout.indented : Layout := ⟨fun depth => '\n' :: Text.repeated (2 * depth) ' ', [' ']⟩

mutual

/-- The text of a value inside `depth` containers. -/
def renderAt (l : Layout) (depth : Nat) : Json → Text
  | .null => "null"
  | .bool true => "true"
  | .bool false => "false"
  | .natural n => Text.decimal n
  | .number spelling => spelling
  | .string s => quote s
  | .array [] => "[]"
  | .array (x :: xs) =>
    '[' :: (l.breakAt (depth + 1) ++ renderAt l (depth + 1) x ++ renderItems l (depth + 1) xs ++
      l.breakAt depth ++ [']'])
  | .object [] => "\x7b\x7d"
  | .object ((k, v) :: ms) =>
    '{' :: (l.breakAt (depth + 1) ++ quote k ++ ':' :: (l.afterColon ++ renderAt l (depth + 1) v) ++
      renderMembers l (depth + 1) ms ++ l.breakAt depth ++ ['}'])

def renderItems (l : Layout) (depth : Nat) : List Json → Text
  | [] => []
  | x :: xs => ',' :: (l.breakAt depth ++ renderAt l depth x ++ renderItems l depth xs)

def renderMembers (l : Layout) (depth : Nat) : List (Quoted × Json) → Text
  | [] => []
  | (k, v) :: ms =>
    ',' :: (l.breakAt depth ++ quote k ++ ':' :: (l.afterColon ++ renderAt l depth v) ++
      renderMembers l depth ms)

end

def render (l : Layout) (j : Json) : Text := renderAt l 0 j

end Json

end Backlog
