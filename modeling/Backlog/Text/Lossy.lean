import Backlog.Text
/-!
Bytes that should encode a text and may not: what is not well-formed shows as a mark of replacement,
one for each run of bytes that starts a character and does not end it.

- `Text.ofUtf8Lossy`: the text of any bytes.
-/
namespace Backlog.Text
set_option autoImplicit false

def replacement : Char := '\ufffd'

/-- How many bytes follow the first byte of a character, and between what the first of them lies. -/
def continuation (b : UInt8) : Nat × UInt8 × UInt8 :=
  if b < 0x80 then (0, 0x80, 0xBF)
  else if b = 0xE0 then (2, 0xA0, 0xBF)
  else if b = 0xED then (2, 0x80, 0x9F)
  else if b = 0xF0 then (3, 0x90, 0xBF)
  else if b = 0xF4 then (3, 0x80, 0x8F)
  else if 0xC2 ≤ b ∧ b ≤ 0xDF then (1, 0x80, 0xBF)
  else if 0xE1 ≤ b ∧ b ≤ 0xEF then (2, 0x80, 0xBF)
  else if 0xF1 ≤ b ∧ b ≤ 0xF3 then (3, 0x80, 0xBF)
  else (0, 0x80, 0xBF)

def continued (b : UInt8) (rest : List UInt8) : List UInt8 :=
  let (count, low, high) := continuation b
  match rest with
  | c :: cs =>
    if 0 < count ∧ low ≤ c ∧ c ≤ high then
      c :: (cs.take (count - 1)).takeWhile fun d => 0x80 ≤ d && d ≤ 0xBF
    else []
  | [] => []

/-- The text of bytes, with a mark of replacement for what encodes nothing. -/
def ofUtf8Lossy : List UInt8 → Text
  | [] => []
  | b :: rest =>
    let more := continued b rest
    (ofUtf8? (b :: more)).getD [replacement] ++ ofUtf8Lossy (rest.drop more.length)
termination_by bytes => bytes.length
decreasing_by simp only [List.length_drop, List.length_cons]; omega

end Backlog.Text
