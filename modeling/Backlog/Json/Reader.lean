import Backlog.Json
/-!
Reading JSON text. The grammar is strict: four blanks, no comments, no trailing commas, no raw
controls in a literal, nothing after the value. Nesting is not bounded.

- `Json.literal?`: the pieces of a string literal; `Json.denote`: the text they stand for;
- `Json.numeral?`: a number, natural or as spelled;
- `Json.parse?`: the value that a whole text spells.
-/
namespace Backlog.Json
set_option autoImplicit false

def isSpace (c : Char) : Bool := c == ' ' || c == '\t' || c == '\n' || c == '\r'

def skip (t : Text) : Text := t.dropWhile isSpace

/-! ## String literals -/

/-- One piece of a string literal: a character, or a unit of UTF-16 given by four digits. -/
inductive Piece where
  | char (c : Char)
  | unit (u : Nat)

def unit? (a b c d : Char) : Option Nat := Text.numeral? 16 [a, b, c, d]

/-- The character that a backslash and this letter stand for. -/
def escaped? (c : Char) : Option Char :=
  if c = '"' ∨ c = '\\' ∨ c = '/' then some c
  else if c = 'b' then some '\x08'
  else if c = 'f' then some '\x0c'
  else if c = 'n' then some '\n'
  else if c = 'r' then some '\r'
  else if c = 't' then some '\t'
  else none

/-- The pieces of a literal whose opening quote has been read, and the text after its closing one.
-/
def literal? : Text → Option (List Piece × Text)
  | [] => none
  | '"' :: rest => some ([], rest)
  | '\\' :: 'u' :: a :: b :: c :: d :: rest => do
    let u ← unit? a b c d
    let (ps, rest) ← literal? rest
    return (.unit u :: ps, rest)
  | '\\' :: c :: rest => do
    let e ← escaped? c
    let (ps, rest) ← literal? rest
    return (.char e :: ps, rest)
  | c :: rest =>
    if c.toNat < 0x20 ∨ c = '\\' then none
    else do
      let (ps, rest) ← literal? rest
      return (.char c :: ps, rest)

/-- Whether a unit is the first half of a surrogate pair. -/
def isHigh (u : Nat) : Bool := 0xD800 ≤ u && u < 0xDC00

/-- Whether a unit is the second half of a surrogate pair. -/
def isLow (u : Nat) : Bool := 0xDC00 ≤ u && u < 0xE000

/-- The text that pieces stand for. Two units that form a surrogate pair are one character; half a
pair stands for nothing. -/
def denote : List Piece → Quoted
  | [] => some []
  | .char c :: ps => (denote ps).map (c :: ·)
  | .unit u :: .unit v :: ps =>
    if isHigh u then
      if isLow v then
        (denote ps).map (Char.ofNat (0x10000 + (u - 0xD800) * 0x400 + (v - 0xDC00)) :: ·)
      else none
    else if isLow u then none
    else (denote (.unit v :: ps)).map (Char.ofNat u :: ·)
  | .unit u :: ps =>
    if isHigh u || isLow u then none else (denote ps).map (Char.ofNat u :: ·)

def quoted? (t : Text) : Option (Quoted × Text) := do
  let (ps, rest) ← literal? t
  return (denote ps, rest)

/-! ## Numbers -/

/-- The digits at the front of a text, at least one, and what follows them. -/
def digits? (t : Text) : Option (Text × Text) :=
  match t.takeWhile Char.isDigit with
  | [] => none
  | d :: ds => some (d :: ds, t.dropWhile Char.isDigit)

/-- The whole part of a number: a zero alone, or digits that start with another one. -/
def whole? : Text → Option (Text × Text)
  | '0' :: rest => some (['0'], rest)
  | t => digits? t

/-- The fraction of a number, if it has one: a point and digits. -/
def fraction? : Text → Option (Text × Text)
  | '.' :: rest => do
    let (ds, rest) ← digits? rest
    return ('.' :: ds, rest)
  | t => some ([], t)

/-- The sign of an exponent, if it has one. -/
def sign : Text → Text × Text
  | '+' :: rest => (['+'], rest)
  | '-' :: rest => (['-'], rest)
  | t => ([], t)

/-- The exponent of a number, if it has one: a letter, perhaps a sign, and digits. -/
def exponent? : Text → Option (Text × Text)
  | [] => some ([], [])
  | c :: rest =>
    if c = 'e' ∨ c = 'E' then do
      let (s, rest) := sign rest
      let (ds, rest) ← digits? rest
      return (c :: s ++ ds, rest)
    else some ([], c :: rest)

def numeral? : Text → Option (Json × Text)
  | '-' :: t => do
    let (w, t) ← whole? t
    let (f, t) ← fraction? t
    let (e, t) ← exponent? t
    return (.number ('-' :: w ++ f ++ e), t)
  | t => do
    let (w, t) ← whole? t
    let (f, t) ← fraction? t
    let (e, t) ← exponent? t
    return (if f.isEmpty && e.isEmpty then .natural (Text.ofDigits w) else .number (w ++ f ++ e), t)

/-! ## Values

The number that the readers below count down bounds how many calls may be open at once. Each value
takes at least one character of the text, so one more than twice the length of the text is enough.
-/

mutual

def value? : Nat → Text → Option (Json × Text)
  | 0, _ => none
  | n + 1, t =>
    match skip t with
    | 'n' :: 'u' :: 'l' :: 'l' :: rest => some (.null, rest)
    | 't' :: 'r' :: 'u' :: 'e' :: rest => some (.bool true, rest)
    | 'f' :: 'a' :: 'l' :: 's' :: 'e' :: rest => some (.bool false, rest)
    | '"' :: rest => (quoted? rest).map fun r => (.string r.1, r.2)
    | '[' :: rest =>
      match skip rest with
      | ']' :: rest => some (.array [], rest)
      | rest => (items? n rest).map fun r => (.array r.1, r.2)
    | '{' :: rest =>
      match skip rest with
      | '}' :: rest => some (.object [], rest)
      | rest => (members? n rest).map fun r => (.object r.1, r.2)
    | rest => numeral? rest

/-- The items of an array from one item on, up to its closing bracket. -/
def items? : Nat → Text → Option (List Json × Text)
  | 0, _ => none
  | n + 1, t => do
    let (x, t) ← value? n t
    match skip t with
    | ',' :: t =>
      let (xs, t) ← items? n t
      return (x :: xs, t)
    | ']' :: t => return ([x], t)
    | _ => none

/-- The members of an object from one member on, up to its closing brace. -/
def members? : Nat → Text → Option (List (Quoted × Json) × Text)
  | 0, _ => none
  | n + 1, t =>
    match skip t with
    | '"' :: t => do
      let (k, t) ← quoted? t
      match skip t with
      | ':' :: t =>
        let (v, t) ← value? n t
        match skip t with
        | ',' :: t =>
          let (ms, t) ← members? n t
          return ((k, v) :: ms, t)
        | '}' :: t => return ([(k, v)], t)
        | _ => none
      | _ => none
    | _ => none

end

/-- The value that a text spells, with blanks allowed around it. -/
def parse? (t : Text) : Option Json := do
  let (j, rest) ← value? (2 * t.length + 1) t
  if (skip rest).isEmpty then some j else none

end Backlog.Json
