import Mathlib.Data.List.Induction
import Backlog.Proofs.JsonText
import Backlog.Story
/-!
The sprint that a header declares: the first number in the words of its sprint field.

- `Text.Spells`, `Text.spells_iff`: digits spell what they stand for;
- `Text.IsFirstRun`: the first run of digits in a text;
- `Story.declared_sprint_first_number`: the declared sprint is what the first run stands for, if
  that is a number of 32 bits.
-/
namespace Backlog
set_option autoImplicit false

open Json (IsDigits EndsDigits ends_digits_cons)

namespace Text

/-! ## What digits stand for -/

/-- Digits that are the decimal form of a number, perhaps behind zeros. -/
def Spells (ds : Text) (n : Nat) : Prop := ∃ zeros, ds = repeated zeros '0' ++ decimal n

theorem digit_value {d : Char} (h : d.isDigit = true) :
    d.toNat - '0'.toNat < 10 ∧ (d.toNat - '0'.toNat).digitChar = d := by
  have bounds : 48 ≤ d.toNat ∧ d.toNat ≤ 57 := Char.isDigit_iff_toNat.1 h
  have small : d.toNat - '0'.toNat < 10 := by
    change d.toNat - 48 < 10
    omega
  have value : (d.toNat - '0'.toNat).digitChar.toNat = 48 + (d.toNat - 48) :=
    Nat.toNat_digitChar_of_lt_ten small
  refine ⟨small, Char.toNat_inj.1 ?_⟩
  omega

theorem spells_digit {k : Nat} (hk : k < 10) : Spells [k.digitChar] k :=
  ⟨0, (Nat.toDigits_of_lt_base hk).symm⟩

/-- One more digit. Behind a zero it makes that zero a leading one. -/
theorem Spells.snoc {ds : Text} {n k : Nat} (h : Spells ds n) (hk : k < 10) :
    Spells (ds ++ [k.digitChar]) (10 * n + k) := by
  obtain ⟨zeros, rfl⟩ := h
  have one : decimal k = [k.digitChar] := Nat.toDigits_of_lt_base hk
  by_cases hn : n = 0
  · subst hn
    have leading : repeated (zeros + 1) '0' = repeated zeros '0' ++ decimal 0 := List.replicate_succ'
    refine ⟨zeros + 1, ?_⟩
    rw [Nat.mul_zero, Nat.zero_add, one, leading]
  · have longer : decimal n ++ decimal k = decimal (10 * n + k) :=
      Nat.toDigits_append_toDigits (by decide) (Nat.pos_of_ne_zero hn) hk
    refine ⟨zeros, ?_⟩
    rw [← longer, one, List.append_assoc]

theorem digits_spell (ds : Text) (h : IsDigits ds) : Spells ds (ofDigits ds) := by
  induction ds using List.reverseRecOn with
  | nil => exact absurd rfl h.some_digit
  | append_singleton ds d ih =>
    obtain ⟨small, back⟩ := digit_value (h.digits d (by simp))
    have value : ofDigits (ds ++ [d]) = 10 * ofDigits ds + (d.toNat - '0'.toNat) :=
      Nat.ofDigitChars_append 0
    by_cases first : ds = []
    · subst first
      have alone := spells_digit small
      have nothing : ofDigits [] = 0 := rfl
      rw [back] at alone
      rw [value, nothing, Nat.mul_zero, Nat.zero_add]
      exact alone
    · have front : IsDigits ds := ⟨first, fun c hc => h.digits c (List.mem_append_left _ hc)⟩
      have grown := (ih front).snoc small
      rw [back, ← value] at grown
      exact grown

theorem Spells.value {ds : Text} {n : Nat} (h : Spells ds n) : ofDigits ds = n := by
  obtain ⟨zeros, rfl⟩ := h
  have leading : ofDigits (repeated zeros '0') = 10 ^ zeros * 0 := Nat.ofDigitChars_replicate_zero
  have split : ofDigits (repeated zeros '0' ++ decimal n) =
      Nat.ofDigitChars 10 (decimal n) (ofDigits (repeated zeros '0')) := Nat.ofDigitChars_append 0
  rw [split, leading, Nat.mul_zero]
  exact ofDigits_decimal n

theorem spells_iff {ds : Text} (h : IsDigits ds) (n : Nat) : Spells ds n ↔ ofDigits ds = n := by
  refine ⟨Spells.value, ?_⟩
  rintro rfl
  exact digits_spell ds h

theorem decimal_is_digits (n : Nat) : IsDigits (decimal n) := ⟨Nat.toDigits_ne_nil, decimal_digits n⟩

/-! ## The first run of digits -/

/-- The first run of digits in a text: no digit stands before it and none right behind it. -/
structure IsFirstRun (ds t : Text) : Prop extends IsDigits ds where
  place : ∃ before after : Text, t = before ++ ds ++ after ∧
    (∀ c ∈ before, c.isDigit = false) ∧ EndsDigits after

theorem IsFirstRun.first_digits {ds t : Text} (h : IsFirstRun ds t) : Story.firstDigits t = ds := by
  obtain ⟨before, after, rfl, none_before, ends⟩ := h.place
  obtain ⟨d, more, split⟩ := List.exists_cons_of_ne_nil h.some_digit
  have skipped : (before ++ ds ++ after).dropWhile (fun c => !c.isDigit) = ds ++ after := by
    rw [List.append_assoc, List.dropWhile_append_of_pos (by simpa using none_before), split,
      List.cons_append, List.dropWhile_cons_of_neg (by simp [h.digits d (by simp [split])])]
  rw [Story.firstDigits, skipped, List.takeWhile_append_of_pos h.digits, ends.behind.1,
    List.append_nil]

theorem first_digits_none {t : Text} (h : ∀ c ∈ t, c.isDigit = false) : Story.firstDigits t = [] := by
  have skipped : t.dropWhile (fun c => !c.isDigit) = [] :=
    List.dropWhile_eq_nil_iff.2 (by simpa using h)
  rw [Story.firstDigits, skipped]
  rfl

theorem first_run_of_digit {t : Text} (h : ∃ c ∈ t, c.isDigit = true) : ∃ ds, IsFirstRun ds t := by
  obtain ⟨c, hc, digit⟩ := h
  have some_left : t.dropWhile (fun c => !c.isDigit) ≠ [] := by
    intro e
    have skipped := List.dropWhile_eq_nil_iff.1 e c hc
    simp [digit] at skipped
  obtain ⟨d, rest, found⟩ := List.exists_cons_of_ne_nil some_left
  have hd : d.isDigit = true := by
    have stop := List.head?_dropWhile_not (fun c => !c.isDigit) t
    rw [found] at stop
    simpa using stop
  have split : t = t.takeWhile (fun c => !c.isDigit) ++ (d :: rest.takeWhile Char.isDigit) ++
      rest.dropWhile Char.isDigit := by
    rw [List.append_assoc, List.cons_append, List.takeWhile_append_dropWhile, ← found,
      List.takeWhile_append_dropWhile]
  refine ⟨d :: rest.takeWhile Char.isDigit, ⟨List.cons_ne_nil _ _, ?_⟩, _, _, split, ?_, ?_⟩
  · exact List.forall_mem_cons.2 ⟨hd, fun c hc => List.mem_takeWhile_imp hc⟩
  · intro c hc
    simpa using List.mem_takeWhile_imp hc
  · intro c hc
    have stop := List.head?_dropWhile_not Char.isDigit rest
    rw [hc] at stop
    exact stop

end Text

/-! ## The declared sprint -/

theorem word32_iff (n : Nat) (w : UInt32) : word32? n = some w ↔ n = w.toNat := by
  constructor
  · intro found
    unfold word32? at found
    split at found
    next small =>
      obtain rfl := Option.some.inj found
      rfl
    next => exact absurd found (by simp)
  · rintro rfl
    exact word32_of_toNat w

theorem word32_none_iff (n : Nat) : word32? n = none ↔ 4294967295 < n := by
  have size : UInt32.size = 4294967296 := rfl
  unfold word32?
  split
  · simp only [reduceCtorEq, false_iff]
    omega
  · simp only [true_iff]
    omega

namespace Story

theorem declared_of_run {story : Story} {ds : Text} (h : Text.IsFirstRun ds story.sprint) :
    story.declaredSprint = word32? (Text.ofDigits ds) := by
  obtain ⟨d, more, rfl⟩ := List.exists_cons_of_ne_nil h.some_digit
  rw [declaredSprint, h.first_digits]

theorem declared_of_no_digit {story : Story} (h : ∀ c ∈ story.sprint, c.isDigit = false) :
    story.declaredSprint = none := by
  rw [declaredSprint, Text.first_digits_none h]

theorem declared_cases (story : Story) :
    ((∀ c ∈ story.sprint, c.isDigit = false) ∧ story.declaredSprint = none) ∨
      ∃ ds : Text, Text.IsFirstRun ds story.sprint ∧
        story.declaredSprint = word32? (Text.ofDigits ds) := by
  by_cases digit : ∃ c ∈ story.sprint, c.isDigit = true
  · obtain ⟨ds, run⟩ := Text.first_run_of_digit digit
    exact Or.inr ⟨ds, run, declared_of_run run⟩
  · have no_digit : ∀ c ∈ story.sprint, c.isDigit = false := by simpa using digit
    exact Or.inl ⟨no_digit, declared_of_no_digit no_digit⟩

theorem declared_iff (story : Story) (n : UInt32) : story.declaredSprint = some n ↔
    ∃ ds : Text, Text.IsFirstRun ds story.sprint ∧ Text.Spells ds n.toNat := by
  constructor
  · intro declared
    obtain ⟨-, undeclared⟩ | ⟨ds, run, value⟩ := story.declared_cases
    · rw [undeclared] at declared
      exact absurd declared (by simp)
    · rw [value, word32_iff] at declared
      exact ⟨ds, run, (Text.spells_iff run.toIsDigits _).2 declared⟩
  · rintro ⟨ds, run, spells⟩
    rw [declared_of_run run, word32_iff]
    exact spells.value

theorem undeclared_iff (story : Story) : story.declaredSprint = none ↔
    (∀ c ∈ story.sprint, c.isDigit = false) ∨
      ∃ (ds : Text) (n : Nat), Text.IsFirstRun ds story.sprint ∧ Text.Spells ds n ∧ 4294967295 < n := by
  constructor
  · intro undeclared
    obtain ⟨no_digit, -⟩ | ⟨ds, run, value⟩ := story.declared_cases
    · exact Or.inl no_digit
    · rw [value, word32_none_iff] at undeclared
      exact Or.inr ⟨ds, Text.ofDigits ds, run, Text.digits_spell ds run.toIsDigits, undeclared⟩
  · rintro (no_digit | ⟨ds, n, run, spells, large⟩)
    · exact declared_of_no_digit no_digit
    · rw [declared_of_run run, word32_none_iff, spells.value]
      exact large

/-- A header declares a number of 32 bits exactly when the first run of digits in its sprint field
spells it. It declares none exactly when there is no digit or the first run spells a larger number,
whatever follows. So a number that is written out is read back from any words around it. -/
theorem declared_sprint_first_number (story : Story) :
    (∀ n : UInt32, story.declaredSprint = some n ↔
      ∃ ds : Text, Text.IsFirstRun ds story.sprint ∧ Text.Spells ds n.toNat) ∧
      (story.declaredSprint = none ↔ (∀ c ∈ story.sprint, c.isDigit = false) ∨
        ∃ (ds : Text) (n : Nat),
          Text.IsFirstRun ds story.sprint ∧ Text.Spells ds n ∧ 4294967295 < n) ∧
      ∀ (n : UInt32) (before after : Text), (∀ c ∈ before, c.isDigit = false) →
        (∀ c ∈ after.head?, c.isDigit = false) →
        { story with sprint := before ++ Text.decimal n.toNat ++ after }.declaredSprint = some n := by
  refine ⟨story.declared_iff, story.undeclared_iff, fun n before after no_digit ends => ?_⟩
  rw [declared_iff]
  exact ⟨Text.decimal n.toNat,
    ⟨Text.decimal_is_digits n.toNat, before, after, rfl, no_digit, ends⟩, 0, rfl⟩

/-- A digit of another script and a sign before the number, zeros in front of it, the largest number,
and one that is too large in front of a small one. -/
theorem declared_sprint_first_number_led :
    let story := { blank "US-1" with sprint := "Sprint ٣+007 of 8" }
    story.declaredSprint = some 7 ∧
      { story with sprint := "4294967296, then 3" }.declaredSprint = none ∧
      { story with sprint := "(4294967295)" }.declaredSprint = some 4294967295 := by
  intro story
  have no_digit (t : Text) (h : t.any Char.isDigit = false) : ∀ c ∈ t, c.isDigit = false := by
    simpa using h
  have digits (t : Text) (ne : t ≠ []) (h : t.all Char.isDigit = true) : IsDigits t :=
    ⟨ne, List.all_eq_true.1 h⟩
  refine ⟨?_, ?_, ?_⟩
  · apply ((declared_sprint_first_number story).1 7).2
    have run : Text.IsFirstRun "007" story.sprint :=
      ⟨digits _ (by decide) (by decide), "Sprint ٣+", " of 8", rfl, no_digit _ (by decide),
        ends_digits_cons (by decide) _⟩
    exact ⟨"007", run, 2, rfl⟩
  · apply (declared_sprint_first_number { story with sprint := "4294967296, then 3" }).2.1.2
    have run : Text.IsFirstRun "4294967296" "4294967296, then 3" :=
      ⟨digits _ (by decide) (by decide), [], ", then 3", rfl, no_digit _ (by decide),
        ends_digits_cons (by decide) _⟩
    exact Or.inr ⟨"4294967296", 4294967296, run, ⟨0, by decide⟩, by decide⟩
  · exact (declared_sprint_first_number story).2.2 4294967295 "(" ")" (no_digit _ (by decide))
      (ends_digits_cons (by decide) _)

end Story

end Backlog
