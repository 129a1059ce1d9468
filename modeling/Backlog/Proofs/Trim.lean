import Mathlib.Data.List.TakeWhile
import Backlog.Text
/-!
What trimming keeps. The characters of a class at either end of a text do not count for its trimmed
form, and the trimmed form is a piece of the text.
-/
namespace Backlog.Text
set_option autoImplicit false

variable {p : Char → Bool}

/-! ## Trimming at one end -/

theorem trimStart_all {t : Text} (h : ∀ c ∈ t, p c = true) : trimStart p t = [] :=
  List.dropWhile_eq_nil_iff.2 h

theorem not_trimmed_away {t : Text} (h : ∃ c ∈ t, p c = false) : (t.dropWhile p).isEmpty = false := by
  obtain ⟨c, hc, hp⟩ := h
  rw [List.isEmpty_eq_false_iff]
  intro e
  rw [List.dropWhile_eq_nil_iff.1 e c hc] at hp
  exact Bool.noConfusion hp

theorem trimStart_append {b : Text} (h : ∀ c ∈ b, p c = true) (t : Text) :
    trimStart p (b ++ t) = trimStart p t := List.dropWhile_append_of_pos h

/-- What stands behind a character outside the class stays. -/
theorem trimStart_append_keep {t : Text} (h : ∃ c ∈ t, p c = false) (u : Text) :
    trimStart p (t ++ u) = trimStart p t ++ u := by
  have kept : (t.dropWhile p).isEmpty = false := not_trimmed_away h
  unfold trimStart
  rw [List.dropWhile_append, kept]
  rfl

theorem trimEnd_append {b : Text} (h : ∀ c ∈ b, p c = true) (t : Text) :
    trimEnd p (t ++ b) = trimEnd p t := by
  unfold trimEnd
  rw [List.reverse_append, List.dropWhile_append_of_pos (fun c hc => h c (List.mem_reverse.1 hc))]

/-- What stands in front of a character outside the class stays. -/
theorem trimEnd_append_keep {t : Text} (h : ∃ c ∈ t, p c = false) (lead : Text) :
    trimEnd p (lead ++ t) = lead ++ trimEnd p t := by
  obtain ⟨c, hc, hp⟩ := h
  have kept : (t.reverse.dropWhile p).isEmpty = false :=
    not_trimmed_away ⟨c, List.mem_reverse.2 hc, hp⟩
  unfold trimEnd
  rw [List.reverse_append, List.dropWhile_append, kept]
  simp

theorem prefix_trimEnd (t : Text) : trimEnd p t <+: t := by
  have h := List.dropWhile_suffix (l := t.reverse) p
  rwa [← List.reverse_prefix, List.reverse_reverse] at h

/-- What is trimmed away at the end is in the class. -/
theorem trimEnd_tail (t : Text) : ∃ tail : Text, (∀ c ∈ tail, p c = true) ∧ trimEnd p t ++ tail = t := by
  refine ⟨(t.reverse.takeWhile p).reverse, ?_, ?_⟩
  · intro c hc
    exact List.mem_takeWhile_imp (List.mem_reverse.1 hc)
  · unfold trimEnd
    rw [← List.reverse_append, List.takeWhile_append_dropWhile, List.reverse_reverse]

/-- A trimmed text does not end in the class. -/
theorem last_trimEnd {t : Text} {c : Char} (h : (trimEnd p t).getLast? = some c) : p c = false := by
  rw [trimEnd, List.getLast?_reverse] at h
  have stop := List.head?_dropWhile_not p t.reverse
  rwa [h] at stop

/-! ## Trimming at both ends -/

theorem trim_append_left {b : Text} (h : ∀ c ∈ b, p c = true) (t : Text) :
    trim p (b ++ t) = trim p t := by
  unfold trim
  rw [trimStart_append h]

theorem trim_append_right {b : Text} (h : ∀ c ∈ b, p c = true) (t : Text) :
    trim p (t ++ b) = trim p t := by
  unfold trim trimStart
  rw [List.dropWhile_append, List.dropWhile_eq_nil_iff.2 h]
  split
  next e => rw [List.isEmpty_iff.1 e]
  next => rw [trimEnd_append h]

theorem trim_infix (t : Text) : trim p t <:+: t :=
  (prefix_trimEnd (trimStart p t)).isInfix.trans (List.dropWhile_suffix p).isInfix

end Backlog.Text
