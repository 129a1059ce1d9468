import Backlog.Text.Columns.Company
/-!
How many columns of a terminal a text takes. Most characters take one, East Asian wide ones two,
combining ones none. An emoji takes two columns together with all that is joined to it, and some
letters merge with their neighbours.

- `Columns.Behind`: what stands behind a place in a text;
- `columns`: the columns of a text, counted from its end.
-/
namespace Backlog.Text
set_option autoImplicit false

open Columns

/-- What stands behind a place in a text: a company, and perhaps a selector before it. -/
structure Columns.Behind where
  company : Company
  selector : Option Selector

def Columns.Behind.nothing : Columns.Behind := ⟨.nothing, none⟩

/-- The company that a character finds which the selector, if any, does not change. -/
def Columns.Behind.unselected (b : Columns.Behind) : Company :=
  if b.selector.isSome then b.company.withoutSelector else b.company

/-- What a character adds, and what then stands behind the place in front of it. -/
def Columns.Behind.step (b : Columns.Behind) (c : Char) : Int × Columns.Behind :=
  if b.selector = some .emoji ∧ isSelectable c then
    (if b.company.isJoined then 0 else 2, ⟨.emoji, none⟩)
  else if c = '\r' ∧ b.unselected = .lineFeed then (0, .nothing)
  else if c.toNat ≤ 0xA0 then (1, ⟨Company.ofChar c, none⟩)
  else
    match Selector.ofChar? c with
    | some s => (0, ⟨b.unselected.withSelector s, some s⟩)
    | none =>
      if b.selector = some .text ∧ isNarrowable c then (1, .nothing)
      else if b.selector = some .wide ∧ isCurvedQuote c then (2, .nothing)
      else
        match b.unselected.join c with
        | some (n, company) => (n, ⟨company, none⟩)
        | none => (charColumns c, ⟨Company.ofChar c, none⟩)

/-- The columns of a text so far, and what stands behind its next place. -/
def Columns.count (t : Text) : Int × Columns.Behind :=
  t.foldr (fun c k =>
    let (n, b) := k.2.step c
    (k.1 + n, b)) (0, .nothing)

def columns (t : Text) : Nat := (Columns.count t).1.toNat

end Backlog.Text
