import Backlog.Http.Domain
import Backlog.Http.Escape
/-!
Hosts: names, and numeric addresses of two sizes.

- `Host.parse?`: the host that a text of the web names;
- `Host.opaque?`: the host of an address of any other kind, which is taken as it is;
- `Host.toText`: the normal form.
-/
namespace Backlog.Http
set_option autoImplicit false

inductive Host where
  | name (text : Text)
  /-- An address of 32 bits. -/
  | short (address : Nat)
  /-- An address of eight pieces of 16 bits. -/
  | long (pieces : List Nat)
  deriving DecidableEq, Repr

namespace Host

/-! ## Short addresses -/

inductive Number where
  | value (n : Nat)
  /-- It is written like a number but has too many bits. -/
  | tooLarge
  | none

/-- The number that a part of a short address is: in base 16 behind `0x`, in base 8 behind another
zero, else in base 10. -/
def Number.ofText (t : Text) : Number :=
  let read (base : Nat) (digits : Text) : Number :=
    match Text.numeral? base digits with
    | some n => if n < UInt32.size then .value n else .tooLarge
    | Option.none => .none
  match t with
  | [] => .none
  | '0' :: 'x' :: digits | '0' :: 'X' :: digits => read 16 digits
  | '0' :: d :: digits => read 8 (d :: digits)
  | digits => read 10 digits

/-- The parts of a text between dots, without an empty one at its end. -/
def dottedParts (t : Text) : List Text :=
  let parts := t.splitOn '.'
  if 1 < parts.length ∧ parts.getLast? = some [] then parts.dropLast else parts

/-- Whether a text ends like a short address: its last part is a number. -/
def endsInNumber (t : Text) : Bool :=
  match (dottedParts t).getLast? with
  | some part =>
    (!part.isEmpty && part.all Char.isDigit) ||
      match Number.ofText part with
      | .none => false
      | _ => true
  | none => false

/-- The address of numbers: all but the last are bytes, and the last fills the bits that are left.
-/
def shortOf? : List Nat → Option Nat
  | [] => none
  | numbers@(_ :: _) =>
    let bytes := numbers.dropLast
    let last := numbers.getLast?.getD 0
    let free := Nat.pow 256 (4 - bytes.length)
    if numbers.length ≤ 4 ∧ bytes.all (· ≤ 255) ∧ last < free then
      some (bytes.foldl (fun n b => 256 * n + b) 0 * free + last)
    else none

def short? (t : Text) : Option Nat := do
  let numbers ← (dottedParts t).mapM fun part =>
    match Number.ofText part with
    | .value n => some n
    | _ => none
  shortOf? numbers

def shortText (address : Nat) : Text :=
  Text.join "." <| [0x1000000, 0x10000, 0x100, 1].map fun unit => Text.decimal (address / unit % 256)

/-! ## Long addresses -/

/-- One of the four numbers at the end of a long address. -/
def byte? (t : Text) : Option Nat :=
  if t.isEmpty || (t.head? == some '0' && 1 < t.length) then none
  else do
    let n ← Text.numeral? 10 t
    if n ≤ 255 then some n else none

/-- The pieces that a group of a long address stands for. Only the last group may be a short address
in four numbers, which makes two pieces. -/
def group? (isLast : Bool) (t : Text) : Option (List Nat) :=
  if isLast && t.contains '.' then do
    let numbers ← (t.splitOn '.').mapM byte?
    match numbers with
    | [a, b, c, d] => some [256 * a + b, 256 * c + d]
    | _ => none
  else if t.isEmpty || 4 < t.length then none
  else (Text.numeral? 16 t).map fun n => [n]

/-- The pieces of groups before a gap, and those behind it if there is a gap. An empty group is the
gap; at the end it takes an empty group more. -/
def groups? : List Text → Option (List Nat × Option (List Nat))
  | [] => some ([], none)
  | [group] => (group? true group).map fun pieces => (pieces, none)
  | [] :: rest =>
    if rest == [[]] then some ([], some [])
    else
      match groups? rest with
      | some (pieces, none) => some ([], some pieces)
      | _ => none
  | group :: rest => do
    let pieces ← group? false group
    let (before, behind) ← groups? rest
    return (pieces ++ before, behind)

/-- The pieces of a long address. A gap stands for at least one piece that is zero. -/
def pieces? (t : Text) : Option (List Nat) := do
  let groups ← match t.splitOn ':' with
    | [] :: [] :: rest => some ([] :: rest)
    | [] :: _ => none
    | groups => some groups
  match ← groups? groups with
  | (pieces, none) => if pieces.length = 8 then some pieces else none
  | (before, some behind) =>
    let known := before.length + behind.length
    if known < 8 then some (before ++ List.replicate (8 - known) 0 ++ behind) else none

/-- How many pieces at the front are zero. -/
def zeros (pieces : List Nat) : Nat := (pieces.takeWhile (· == 0)).length

/-- The longest run of zeros, the first of several: where it starts, and how long it is. -/
def longestZeros (pieces : List Nat) : Nat × Nat :=
  (List.range pieces.length).foldl (fun best i =>
    let n := zeros (pieces.drop i)
    if best.2 < n then (i, n) else best) (0, 0)

/-- A long address. Two zeros or more show as a gap. -/
def longText (pieces : List Nat) : Text :=
  let shown (pieces : List Nat) : Text := Text.join ":" (pieces.map Text.hexadecimal)
  let (start, length) := longestZeros pieces
  if length < 2 then shown pieces
  else shown (pieces.take start) ++ "::" ++ shown (pieces.drop (start + length))

def bracketed? (t : Text) : Option Host :=
  if t.getLast? = some ']' then (pieces? t.tail.dropLast).map .long else none

/-! ## Hosts -/

/-- The host that a text of the web names. -/
def parse? (t : Text) : Option Host :=
  if t.head? = some '[' then bracketed? t
  else do
    let name ← Domain.ascii? (Escape.unescape t)
    if name.isEmpty then none
    else if endsInNumber name then (short? name).map .short
    else some (.name name)

def refused : Text := "\x00\t\n\r #/:<>?@[\\]^|"

/-- The host of an address that is not of the web. It is not looked into. -/
def opaque? (t : Text) : Option Host :=
  if t.head? = some '[' then bracketed? t
  else if t.any refused.contains then none
  else some (.name (Escape.escape [] t))

def toText : Host → Text
  | .name text => text
  | .short address => shortText address
  | .long pieces => '[' :: longText pieces ++ [']']

end Host

end Backlog.Http
