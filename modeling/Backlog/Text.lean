/-!
Texts, read as lists of characters. This module holds what the readers and printers of this library
share: cutting, trimming by a class of characters, and the two encodings a text meets outside.

- `Text.after? lead t`: what follows `lead` at the front of `t`;
- `Text.trimEnd`, `Text.trim`: a text without the characters of a class at its ends;
- `Text.utf8`, `Text.ofUtf8?`: the bytes of a text, and the text of bytes that encode one;
- `Text.decimal`, `Text.numeral?`: numbers as digits, and digits as numbers;
- `word32?`, `word64?`: the words of 32 and 64 bits.
-/
namespace Backlog
set_option autoImplicit false

/-- A text is its characters in order; a character is a Unicode scalar value. -/
abbrev Text := List Char

instance : Coe String Text := ⟨String.toList⟩

namespace Text

/-! ## Cutting -/

def after? (lead t : Text) : Option Text := lead.isPrefixOf? t

def startsWith (lead t : Text) : Bool := lead.isPrefixOf t

def occurs (needle : Text) : Text → Bool
  | [] => needle.isEmpty
  | c :: cs => needle.isPrefixOf (c :: cs) || occurs needle cs

/-- The part of a text before the first place where `stop` stands, or all of it. -/
def upTo (stop : Text) : Text → Text
  | [] => []
  | c :: cs => if stop.isPrefixOf (c :: cs) then [] else c :: upTo stop cs

/-- The lines of a text: its pieces between line feeds. There is always at least one. -/
def lines (t : Text) : List Text := t.splitOn '\n'

def join (sep : Text) (ts : List Text) : Text := sep.intercalate ts

def repeated (n : Nat) (c : Char) : Text := List.replicate n c

/-! ## Trimming by a class of characters -/

def trimStart (p : Char → Bool) (t : Text) : Text := t.dropWhile p

def trimEnd (p : Char → Bool) (t : Text) : Text := (t.reverse.dropWhile p).reverse

def trim (p : Char → Bool) (t : Text) : Text := trimEnd p (trimStart p t)

/-! ## Letter case -/

/-- Equality up to the case of the letters A to Z. -/
def sameLetters (a b : Text) : Bool := a.map Char.toLower == b.map Char.toLower

/-! ## Bytes -/

def utf8 (t : Text) : List UInt8 := t.flatMap String.utf8EncodeChar

def utf8Length (t : Text) : Nat := (utf8 t).length

/-- The text that the bytes encode, if they are well-formed UTF-8. -/
def ofUtf8? (bytes : List UInt8) : Option Text :=
  (String.fromUTF8? bytes.toByteArray).map String.toList

/-! ## Numbers -/

def decimal (n : Nat) : Text := Nat.toDigits 10 n

def ofDigits (digits : Text) : Nat := Nat.ofDigitChars 10 digits 0

theorem ofDigits_decimal (n : Nat) : ofDigits (decimal n) = n :=
  Nat.ofDigitChars_toDigits (by decide) (by decide)

theorem decimal_digits (n : Nat) : ∀ d ∈ decimal n, d.isDigit = true := fun _ h =>
  Nat.isDigit_of_mem_toDigits (by decide) (by decide) h

/-- The value of a digit in a base up to sixteen. Letters of either case stand for ten and more. -/
def digitValue? (base : Nat) (c : Char) : Option Nat :=
  let n := c.toNat
  let value :=
    if 48 ≤ n ∧ n ≤ 57 then n - 48
    else if 97 ≤ n ∧ n ≤ 102 then n - 87
    else if 65 ≤ n ∧ n ≤ 70 then n - 55
    else base
  if value < base then some value else none

/-- The number that digits in a base stand for, if all are digits. No digits stand for zero. -/
def numeral? (base : Nat) (digits : Text) : Option Nat :=
  digits.foldlM (fun n c => (digitValue? base c).map (base * n + ·)) 0

def hexadecimal (n : Nat) : Text := Nat.toDigits 16 n

end Text

def word32? (n : Nat) : Option UInt32 :=
  if h : n < UInt32.size then some (UInt32.ofNatLT n h) else none

def word64? (n : Nat) : Option UInt64 :=
  if h : n < UInt64.size then some (UInt64.ofNatLT n h) else none

theorem word32_of_toNat (w : UInt32) : word32? w.toNat = some w := by
  simp [word32?, w.toNat_lt]

theorem word64_of_toNat (w : UInt64) : word64? w.toNat = some w := by
  simp [word64?, w.toNat_lt]

end Backlog
