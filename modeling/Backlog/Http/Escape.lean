import Backlog.Text
/-!
Escapes in addresses: a byte may be written as a percent sign and two digits.

- `Escape.escape`: a text with the characters of a class escaped;
- `Escape.unescape`: the bytes that a text with escapes stands for.
-/
namespace Backlog.Http.Escape
set_option autoImplicit false

def digit (n : Nat) : Char := if n < 10 then Char.ofNat (48 + n) else Char.ofNat (55 + n)

def byte (b : UInt8) : Text := ['%', digit (b.toNat / 16), digit (b.toNat % 16)]

/-- The text with its non-ASCII characters, its controls and the marked characters escaped. -/
def escape (marked : Text) (t : Text) : Text :=
  t.flatMap fun c =>
    if c.toNat < 0x20 || 0x7F ≤ c.toNat || marked.contains c then
      (String.utf8EncodeChar c).flatMap byte
    else [c]

/-- The bytes of a text in which escapes stand for bytes. A percent sign without two digits behind
it stands for itself. -/
def unescape : Text → List UInt8
  | '%' :: a :: b :: rest =>
    match Text.numeral? 16 [a, b] with
    | some n => UInt8.ofNat n :: unescape rest
    | none => 37 :: unescape (a :: b :: rest)
  | c :: rest => String.utf8EncodeChar c ++ unescape rest
  | [] => []

end Backlog.Http.Escape
