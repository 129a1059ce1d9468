import Backlog.Http.Domain.Composition.Table
import Backlog.Http.Domain.Rows
/-!
Letters and marks: a letter with marks has one spelling, in which marks stand in the order of their
rank and whatever can be one character is one.

- `Composition.rank`: the rank of a mark, zero for what is no mark;
- `composed`: the spelling of a text.
-/
namespace Backlog.Http.Domain
set_option autoImplicit false

namespace Composition

/-! ## Parts -/

def pairRows : List (Char × Text) := rows pairs

/-- The rank of a mark, zero for what is no mark. -/
def rank (c : Char) : Nat :=
  (ranks.findSome? fun (first, last, n) =>
    if first ≤ c.toNat && c.toNat ≤ last then some n else none).getD 0

/-- The mark that a letter loses its vowel by has this rank. -/
def vowelKiller : Nat := 9

/-- The parts of a Korean syllable: its first consonant, its vowel, and perhaps a last consonant. -/
def syllableParts? (c : Char) : Option Text :=
  let n := c.toNat
  if 0xAC00 ≤ n ∧ n ≤ 0xD7A3 then
    let i := n - 0xAC00
    let lead := [Char.ofNat (0x1100 + i / 588), Char.ofNat (0x1161 + i % 588 / 28)]
    some (if i % 28 = 0 then lead else lead ++ [Char.ofNat (0x11A7 + i % 28)])
  else none

def syllable? (a b : Char) : Option Char :=
  let m := a.toNat
  let n := b.toNat
  if 0x1100 ≤ m ∧ m ≤ 0x1112 ∧ 0x1161 ≤ n ∧ n ≤ 0x1175 then
    some (Char.ofNat (0xAC00 + ((m - 0x1100) * 21 + (n - 0x1161)) * 28))
  else if 0xAC00 ≤ m ∧ m ≤ 0xD7A3 ∧ (m - 0xAC00) % 28 = 0 ∧ 0x11A8 ≤ n ∧ n ≤ 0x11C2 then
    some (Char.ofNat (m + (n - 0x11A7)))
  else none

/-- The parts of a character. Parts have parts, at most `depth` deep. -/
def parts : Nat → Char → Text
  | 0, c => [c]
  | depth + 1, c =>
    match syllableParts? c with
    | some ps => ps
    | none =>
      match pairRows.lookup c with
      | some ps => ps.flatMap (parts depth)
      | none => [c]

def pair? (a b : Char) : Option Char :=
  (syllable? a b).or ((pairRows.find? fun r => r.2 == [a, b]).map Prod.fst)

/-! ## Order -/

/-- A text, last character first, with one more character behind it. A mark moves in front of marks
of higher rank. -/
def arrange (c : Char) : Text → Text
  | [] => [c]
  | d :: before => if rank c ≠ 0 ∧ rank c < rank d then d :: arrange c before else c :: d :: before

/-! ## Composing -/

structure Spelling where
  /-- What is finished, last character first. -/
  done : Text
  /-- The letter that marks may still join. -/
  letter : Option Char
  /-- The marks behind the letter that did not join it, last first. -/
  marks : Text

def Spelling.reversed (d : Spelling) : Text := d.marks ++ d.letter.toList ++ d.done

/-- Whether a character may join the letter across the marks between them. -/
def Spelling.reaches (d : Spelling) (c : Char) : Bool :=
  match d.marks with
  | [] => true
  | mark :: _ => rank mark < rank c

def Spelling.push (d : Spelling) (c : Char) : Spelling :=
  match d.letter with
  | none => if rank c = 0 then { d with letter := some c } else { d with done := c :: d.done }
  | some letter =>
    match if d.reaches c then pair? letter c else none with
    | some whole => { d with letter := some whole }
    | none =>
      if rank c = 0 then ⟨d.reversed, some c, []⟩ else { d with marks := c :: d.marks }

end Composition

/-- The spelling of a text: its parts in order, composed again. -/
def composed (t : Text) : Text :=
  let parts := t.flatMap (Composition.parts 4)
  let ordered := (parts.foldl (fun before c => Composition.arrange c before) []).reverse
  (ordered.foldl Composition.Spelling.push ⟨[], none, []⟩).reversed.reverse

end Backlog.Http.Domain
