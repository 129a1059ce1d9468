import Backlog.Text.Lossy
/-!
Messages of a server, read from the bytes of a connection: a line with the status, lines with headers,
an empty line, and a body whose length the headers tell. Messages that only announce another one are
passed over.

- `Message.read?`: the first message that answers, if the bytes hold one;
- `Message.Framing`: how the end of a body is found.
-/
namespace Backlog.Http
set_option autoImplicit false

structure Message where
  status : Nat
  /-- The body; none when the bytes end before it does. -/
  body : Option (List UInt8)
  deriving DecidableEq, Repr

namespace Message

/-! ## Lines -/

/-- The first line of bytes, each byte as a character, without its break, and the bytes behind it.
-/
def line? (bytes : List UInt8) : Option (Text × List UInt8) :=
  match bytes.dropWhile (· != 10) with
  | [] => none
  | _ :: rest =>
    let line := (bytes.takeWhile (· != 10)).map fun b => Char.ofNat b.toNat
    some (if line.getLast? = some '\r' then line.dropLast else line, rest)

def isLineChar (c : Char) : Bool := c == '\t' || (0x20 ≤ c.toNat && c.toNat != 0x7F)

def isNameChar (c : Char) : Bool := c.isAlphanum || ("!#$%&'*+-.^_\x60|~" : Text).contains c

def isLineBlank (c : Char) : Bool := c == ' ' || c == '\t'

/-! ## Heads -/

/-- What stands before a body. -/
structure Head where
  /-- Whether the first version of the protocol is spoken. -/
  old : Bool
  status : Nat
  /-- The headers, their names in lower case. -/
  headers : List (Text × Text)

/-- The version and the status in a line: behind the three digits nothing stands, or a blank and
words. -/
def status? (line : Text) : Option (Bool × Nat) := do
  let rest ← Text.after? "HTTP/1." line
  match rest with
  | version :: ' ' :: a :: b :: c :: words =>
    if (version == '0' || version == '1') && (words.isEmpty || words.head? == some ' ') &&
        words.all isLineChar then
      let status ← Text.numeral? 10 [a, b, c]
      if 100 ≤ status then some (version == '0', status) else none
    else none
  | _ => none

def header? (line : Text) : Option (Text × Text) :=
  let name := line.takeWhile isNameChar
  match line.dropWhile isNameChar with
  | ':' :: value =>
    if !name.isEmpty && value.all isLineChar then
      some (name.map Char.toLower, Text.trim isLineBlank value)
    else none
  | _ => none

def headerLimit : Nat := 100

/-- At most `n` headers up to an empty line, and what follows it. -/
def headers? : Nat → List UInt8 → Option (List (Text × Text) × List UInt8)
  | n, bytes => do
    let (line, rest) ← line? bytes
    if line.isEmpty then some ([], rest)
    else
      match n with
      | 0 => none
      | n + 1 => do
        let header ← header? line
        let (headers, rest) ← headers? n rest
        return (header :: headers, rest)

def skipEmptyLines : List UInt8 → List UInt8
  | 10 :: rest => skipEmptyLines rest
  | 13 :: 10 :: rest => skipEmptyLines rest
  | bytes => bytes

def head? (bytes : List UInt8) : Option (Head × List UInt8) := do
  let (line, rest) ← line? (skipEmptyLines bytes)
  let (old, status) ← status? line
  let (headers, rest) ← headers? headerLimit rest
  return (⟨old, status, headers⟩, rest)

/-! ## Bodies -/

/-- How the end of a body is found. -/
inductive Framing where
  | length (n : Nat)
  /-- In pieces, each with its length in front. -/
  | pieces
  | connection
  deriving DecidableEq, Repr

/-- The values of a header, each taken apart at its commas. -/
def Head.values (head : Head) (name : Text) : List Text :=
  (head.headers.filter fun h => h.1 == name).flatMap fun h =>
    (h.2.splitOn ',').map (Text.trim isLineBlank)

def length? (t : Text) : Option Nat :=
  if t.isEmpty then none
  else (Text.numeral? 10 t).filter (· + 2 < UInt64.size)

/-- How the end of the body is found; none when the headers contradict each other. -/
def Head.framing? (head : Head) : Option Framing :=
  if head.status = 101 ∨ head.status = 204 ∨ head.status = 304 then some (.length 0)
  else
    match head.values "transfer-encoding" with
    | [] =>
      match head.values "content-length" with
      | [] => some .connection
      | first :: others =>
        (length? first).bind fun n =>
          if others.all fun t => length? t == some n then some (.length n) else none
    | codings =>
      if head.old then none
      else if (codings.getLast?.getD []).map Char.toLower = "chunked".toList then some .pieces
      else some .connection

/-- The length in front of a piece: digits in base 16, blanks, and perhaps remarks behind a
semicolon. The line must end with both marks of a break. -/
def pieceLength? (bytes : List UInt8) : Option (Nat × List UInt8) :=
  match bytes.dropWhile (· != 13) with
  | 13 :: 10 :: rest =>
    let line := (bytes.takeWhile (· != 13)).map fun b => Char.ofNat b.toNat
    let digits := line.takeWhile fun c => (Text.digitValue? 16 c).isSome
    let behind := (line.dropWhile fun c => (Text.digitValue? 16 c).isSome).dropWhile isLineBlank
    if digits.isEmpty || line.contains '\n' || !(behind.isEmpty || behind.head? == some ';') then none
    else (Text.numeral? 16 digits).bind fun n => if n < UInt64.size then some (n, rest) else none
  | _ => none

/-- Whether bytes start with lines up to an empty one. -/
def hasEmptyLine : List UInt8 → Bool
  | 13 :: 10 :: _ => true
  | bytes =>
    match _h : bytes.dropWhile (· != 13) with
    | 13 :: 10 :: rest => hasEmptyLine rest
    | _ => false
termination_by bytes => bytes.length
decreasing_by
  have := (List.dropWhile_suffix (l := bytes) (· != 13)).length_le
  rw [_h] at this
  simp only [List.length_cons] at this
  omega

/-- A body in at most `n` pieces, of which the last is empty. -/
def pieces? : Nat → List UInt8 → Option (List UInt8)
  | 0, _ => none
  | n + 1, bytes => do
    let (length, rest) ← pieceLength? bytes
    if length = 0 then if hasEmptyLine rest then some [] else none
    else
      match rest.drop length with
      | 13 :: 10 :: more => (pieces? n more).map (rest.take length ++ ·)
      | _ => none

def Framing.body? (framing : Framing) (bytes : List UInt8) : Option (List UInt8) :=
  match framing with
  | .length n => if n ≤ bytes.length then some (bytes.take n) else none
  | .pieces => pieces? bytes.length bytes
  | .connection => some bytes

/-! ## Messages -/

/-- Whether a status only announces another message. -/
def isAnnouncement (status : Nat) : Bool := 100 ≤ status && status < 200 && status != 101

/-- The first message that answers, passing over at most `n` announcements. -/
def readWithin? : Nat → List UInt8 → Option Message
  | n, bytes => do
    let (head, rest) ← head? bytes
    if isAnnouncement head.status then
      match n with
      | 0 => none
      | n + 1 => readWithin? n rest
    else
      let framing ← head.framing?
      return ⟨head.status, framing.body? rest⟩

/-- The first message in the bytes that answers. Every head takes some of the bytes. -/
def read? (bytes : List UInt8) : Option Message := readWithin? bytes.length bytes

end Message

end Backlog.Http
