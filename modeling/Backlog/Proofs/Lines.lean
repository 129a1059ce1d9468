import Mathlib.Data.List.Basic
import Backlog.Text
/-!
Texts read line by line. A text without line feeds is one line; any other is its first line, a line
feed, and the lines of the rest.

- `Text.by_lines`: induction on the lines of a text;
- `Text.prefix_line`: a mark without line feeds stands at the front of a text only if it stands at
  the front of its first line;
- `Text.infix_iff_line`: a mark behind a line feed stands at the front of a line after the first.
-/
namespace Backlog.Text
set_option autoImplicit false

/-! ## Lines and their joints -/

theorem lines_last {l : Text} (h : '\n' ∉ l) : lines l = [l] := List.splitOn_eq_singleton h

theorem lines_more {l : Text} (h : '\n' ∉ l) (t : Text) : lines (l ++ '\n' :: t) = l :: lines t :=
  List.splitOn_append_cons_self_of_not_mem h t

/-- Two texts with a line feed between them have the lines of both. -/
theorem lines_append (t u : Text) : lines (t ++ '\n' :: u) = lines t ++ lines u :=
  List.splitOn_append_cons_self t u

theorem lines_ne_nil (t : Text) : lines t ≠ [] := List.splitOn_ne_nil '\n' t

theorem join_nil (sep : Text) : join sep [] = [] := rfl

theorem join_single (sep l : Text) : join sep [l] = l := List.intercalate_singleton

theorem join_more (sep l : Text) {ls : List Text} (h : ls ≠ []) :
    join sep (l :: ls) = l ++ sep ++ join sep ls := List.intercalate_cons_of_ne_nil h

/-- Texts put together are the first one, and the others with the separator in front of each. -/
theorem join_led (sep l : Text) (ls : List Text) :
    join sep (l :: ls) = l ++ ls.flatMap fun l => sep ++ l := by
  induction ls generalizing l with
  | nil => rw [join_single, List.flatMap_nil, List.append_nil]
  | cons second ls ih =>
    rw [join_more _ _ (List.cons_ne_nil second ls), ih, List.flatMap_cons, List.append_assoc,
      List.append_assoc]

theorem join_cons (l : Text) (ls : List Text) :
    join "\n" (l :: ls) = l ++ ls.flatMap fun l => '\n' :: l := join_led "\n" l ls

/-- With the separator behind it as well, each text that is put together is followed by one. -/
theorem join_ended (sep : Text) {ls : List Text} (h : ls ≠ []) :
    join sep ls ++ sep = ls.flatMap fun l => l ++ sep := by
  induction ls with
  | nil => exact absurd rfl h
  | cons l ls ih =>
    rw [List.flatMap_cons]
    cases ls with
    | nil => rw [join_single, List.flatMap_nil, List.append_nil]
    | cons second ls =>
      rw [join_more _ _ (List.cons_ne_nil second ls), List.append_assoc, ih (List.cons_ne_nil _ _)]

/-- The lines of a text, put together again, are the text. -/
theorem join_lines (t : Text) : join "\n" (lines t) = t := List.intercalate_splitOn '\n'

theorem lines_join {ls : List Text} (h : ∀ l ∈ ls, '\n' ∉ l) (ne : ls ≠ []) :
    lines (join "\n" ls) = ls := List.splitOn_intercalate '\n' h ne

/-- Induction on the pieces of a text between separators. -/
theorem by_pieces (sep : Char) {P : Text → Prop} (last : ∀ l : Text, sep ∉ l → P l)
    (more : ∀ l t : Text, sep ∉ l → P t → P (l ++ sep :: t)) (t : Text) : P t := by
  obtain ⟨n, hn⟩ : ∃ n, t.length = n := ⟨_, rfl⟩
  induction n using Nat.strongRecOn generalizing t with
  | ind n ih =>
    by_cases h : sep ∈ t
    · obtain ⟨l, u, rfl, hl⟩ := List.eq_append_cons_of_mem h
      refine more l u hl (ih u.length ?_ u rfl)
      rw [← hn, List.length_append, List.length_cons]
      omega
    · exact last t h

theorem no_separator_of_mem {sep : Char} (t : Text) : ∀ l ∈ t.splitOn sep, sep ∉ l := by
  induction t using by_pieces sep with
  | last l h => simp [List.splitOn_eq_singleton h, h]
  | more l t h ih =>
    rw [List.splitOn_append_cons_self_of_not_mem h]
    exact List.forall_mem_cons.2 ⟨h, ih⟩

/-- Induction on the lines of a text. -/
theorem by_lines {P : Text → Prop} (last : ∀ l : Text, '\n' ∉ l → P l)
    (more : ∀ l t : Text, '\n' ∉ l → P t → P (l ++ '\n' :: t)) (t : Text) : P t :=
  by_pieces '\n' last more t

/-- No line has a line feed. -/
theorem no_break_of_mem_lines (t : Text) : ∀ l ∈ lines t, '\n' ∉ l := no_separator_of_mem t

theorem no_break_cons {c : Char} {l : Text} (h : '\n' ∉ c :: l) : (c == '\n') = false ∧ '\n' ∉ l := by
  obtain ⟨hc, hl⟩ := not_or.1 (mt List.mem_cons.2 h)
  exact ⟨beq_eq_false_iff_ne.2 (Ne.symm hc), hl⟩

/-! ## Marks at the front of lines -/

theorem startsWith_iff {lead t : Text} : startsWith lead t = true ↔ lead <+: t :=
  List.isPrefixOf_iff_prefix

theorem after?_append (lead t : Text) : after? lead (lead ++ t) = some t :=
  List.isPrefixOf?_eq_some_iff_append_eq.2 rfl

theorem after?_eq_none {lead t : Text} (h : ¬ lead <+: t) : after? lead t = none := by
  cases found : after? lead t with
  | none => rfl
  | some rest => exact absurd ⟨rest, List.isPrefixOf?_eq_some_iff_append_eq.1 found⟩ h

/-- A text without some character stands in front of another one only within the part before that
character. -/
theorem prefix_up_to {stop : Char} {lead : Text} (h : stop ∉ lead) (l t : Text) :
    lead <+: l ++ stop :: t ↔ lead <+: l := by
  refine ⟨fun p => ?_, fun p => p.trans (List.prefix_append l _)⟩
  induction lead generalizing l with
  | nil => exact List.nil_prefix
  | cons c lead ih =>
    obtain ⟨hc, hlead⟩ := not_or.1 (mt List.mem_cons.2 h)
    cases l with
    | nil => exact absurd (List.cons_prefix_cons.1 p).1.symm hc
    | cons d l =>
      obtain ⟨hd, rest⟩ := List.cons_prefix_cons.1 p
      exact List.cons_prefix_cons.2 ⟨hd, ih hlead l rest⟩

/-- A mark without line feeds does not reach beyond the first line. -/
theorem prefix_line {lead : Text} (h : '\n' ∉ lead) (l t : Text) :
    lead <+: l ++ '\n' :: t ↔ lead <+: l := prefix_up_to h l t

theorem startsWith_line {lead : Text} (h : '\n' ∉ lead) (l t : Text) :
    startsWith lead (l ++ '\n' :: t) = startsWith lead l := by
  rw [Bool.eq_iff_iff, startsWith_iff, startsWith_iff, prefix_line h]

theorem prefix_first_line {lead : Text} (h : '\n' ∉ lead) {t first : Text} {rest : List Text}
    (e : lines t = first :: rest) : lead <+: t ↔ lead <+: first := by
  have ht := join_lines t
  rw [e] at ht
  rw [← ht]
  cases rest with
  | nil => rw [join_single]
  | cons second rest =>
    rw [join_more _ _ (List.cons_ne_nil second rest), List.append_assoc]
    exact prefix_line h first _

/-- A mark behind a line feed stands past the first line, at the front of the next one or later. -/
theorem infix_line {lead l : Text} (h : '\n' ∉ l) (t : Text) :
    '\n' :: lead <:+: l ++ '\n' :: t ↔ lead <+: t ∨ '\n' :: lead <:+: t := by
  induction l with
  | nil => rw [List.nil_append, List.infix_cons_iff, List.cons_prefix_cons]; simp
  | cons c l ih =>
    obtain ⟨hc, hl⟩ := not_or.1 (mt List.mem_cons.2 h)
    rw [List.cons_append, List.infix_cons_iff, ih hl, List.cons_prefix_cons]
    simp [hc]

/-- A mark stands behind a line feed exactly when a line after the first starts with it. -/
theorem infix_iff_line {lead : Text} (h : '\n' ∉ lead) (t : Text) :
    '\n' :: lead <:+: t ↔ ∃ l ∈ (lines t).tail, lead <+: l := by
  induction t using by_lines with
  | last l hl =>
    rw [lines_last hl]
    refine ⟨fun p => absurd (p.subset List.mem_cons_self) hl, fun ⟨_, m, _⟩ => ?_⟩
    exact absurd m List.not_mem_nil
  | more l t hl ih =>
    rw [infix_line hl, ih, lines_more hl, List.tail_cons]
    obtain ⟨first, rest, e⟩ := List.exists_cons_of_ne_nil (lines_ne_nil t)
    simp [e, prefix_first_line h e]

end Backlog.Text
