import Mathlib.Data.List.Induction
import Backlog.Proofs.PlanLabels
/-!
Labels as a set that keeps its order. What has been pushed is there once, at the place of its first
push, and stays there.

- `Labels.FirstOrder`: labels in the order in which a list names them first;
- `Labels.FirstOrder.push`: one more push keeps that order;
- `Labels.pushed_first_order`: the labels after any sequence of pushes.
-/
namespace Backlog.Labels
set_option autoImplicit false

variable {ls : Labels} {a : Text}

/-! ## One push -/

theorem push_present (h : a ∈ ls.toList) : ls.push a = ls := if_pos (List.contains_iff_mem.2 h)

theorem mem_push (ls : Labels) (a l : Text) : l ∈ (ls.push a).toList ↔ l ∈ ls.toList ∨ l = a := by
  by_cases h : a ∈ ls.toList
  · rw [push_present h]
    constructor
    · exact Or.inl
    · rintro (there | rfl)
      · exact there
      · exact h
  · rw [push_fresh h, List.mem_append, List.mem_singleton]

theorem prefix_push (ls : Labels) (a : Text) : ls.toList <+: (ls.push a).toList := by
  by_cases h : a ∈ ls.toList
  · have same : ls.push a = ls := push_present h
    simp [same]
  · rw [push_fresh h]
    exact List.prefix_append _ _

/-! ## A sequence of pushes -/

theorem push_all_append (ls : Labels) (xs ys : List Text) :
    ls.pushAll (xs ++ ys) = (ls.pushAll xs).pushAll ys := List.foldl_append

theorem mem_push_all (ls : Labels) (xs : List Text) (l : Text) :
    l ∈ (ls.pushAll xs).toList ↔ l ∈ ls.toList ∨ l ∈ xs := by
  induction xs generalizing ls with
  | nil => simp [pushAll]
  | cons x xs ih =>
    have step : ls.pushAll (x :: xs) = (ls.push x).pushAll xs := rfl
    rw [step, ih, mem_push, List.mem_cons, or_assoc]

theorem prefix_push_all (ls : Labels) (xs : List Text) : ls.toList <+: (ls.pushAll xs).toList := by
  induction xs generalizing ls with
  | nil => exact List.prefix_rfl
  | cons x xs ih => exact (prefix_push ls x).trans (ih (ls.push x))

/-- Nothing new is added exactly when the labels stay as they are. -/
theorem push_all_eq_iff (ls : Labels) (more : List Text) :
    ls.pushAll more = ls ↔ more ⊆ ls.toList := by
  constructor
  · intro same l hl
    have there := (mem_push_all ls more l).2 (Or.inr hl)
    rwa [same] at there
  · intro known
    induction more with
    | nil => rfl
    | cons x more ih =>
      obtain ⟨hx, rest⟩ := List.cons_subset.1 known
      have step : ls.pushAll (x :: more) = (ls.push x).pushAll more := rfl
      rw [step, push_present hx]
      exact ih rest

/-! ## Order -/

/-- The labels that a list names, in the order in which it names them first. -/
structure FirstOrder (xs : List Text) (ls : Labels) : Prop where
  mem : ∀ l, l ∈ ls.toList ↔ l ∈ xs
  ordered : ls.toList.Pairwise fun l m => xs.idxOf l < xs.idxOf m

namespace FirstOrder

variable {xs : List Text}

theorem nodup (h : FirstOrder xs ls) : ls.toList.Nodup := by
  apply h.ordered.imp
  rintro l m before rfl
  exact Nat.lt_irrefl _ before

/-- Naming something more at the end moves nothing that is named already. -/
theorem ordered_longer (h : FirstOrder xs ls) (ys : List Text) :
    ls.toList.Pairwise fun l m => (xs ++ ys).idxOf l < (xs ++ ys).idxOf m := by
  apply h.ordered.imp_of_mem
  intro l m hl hm before
  have place (l : Text) (hl : l ∈ ls.toList) : (xs ++ ys).idxOf l = xs.idxOf l :=
    List.idxOf_append_of_mem ((h.mem l).1 hl)
  rwa [place l hl, place m hm]

theorem push (h : FirstOrder xs ls) (a : Text) : FirstOrder (xs ++ [a]) (ls.push a) := by
  constructor
  · intro l
    rw [mem_push, h.mem, List.mem_append, List.mem_singleton]
  · by_cases known : a ∈ ls.toList
    · rw [push_present known]
      exact h.ordered_longer [a]
    · rw [push_fresh known, List.pairwise_append]
      refine ⟨h.ordered_longer [a], List.pairwise_singleton _ a, fun l hl m hm => ?_⟩
      obtain rfl := List.mem_singleton.1 hm
      -- The new label is named first at the very end, all others before it.
      have unnamed : m ∉ xs := mt (h.mem m).2 known
      have named : l ∈ xs := (h.mem l).1 hl
      have earlier : xs.idxOf l < xs.length := List.idxOf_lt_length_iff.2 named
      have place : (xs ++ [m]).idxOf m = xs.length + [m].idxOf m :=
        List.idxOf_append_of_notMem unnamed
      rw [List.idxOf_append_of_mem named, place]
      omega

end FirstOrder

theorem first_order_empty : FirstOrder [] empty where
  mem _ := Iff.rfl
  ordered := List.Pairwise.nil

/-- After any sequence of pushes the labels are in the order of their first push. -/
theorem first_order_push_all (xs : List Text) : FirstOrder xs (empty.pushAll xs) := by
  induction xs using List.reverseRecOn with
  | nil => exact first_order_empty
  | append_singleton xs a ih =>
    rw [push_all_append]
    exact ih.push a

/-- Labels pushed one after the other, from none: each is there once, they are in the order of their
first push, at every moment the labels so far are a front of the final ones, and pushing more
changes nothing exactly when all of it has been pushed before. -/
theorem pushed_first_order (xs : List Text) :
    let ls := empty.pushAll xs
    ls.toList.Nodup ∧ (∀ l, l ∈ ls.toList ↔ l ∈ xs) ∧
      ls.toList.Pairwise (fun l m => xs.idxOf l < xs.idxOf m) ∧
      (∀ n, (empty.pushAll (xs.take n)).toList <+: ls.toList) ∧
      ∀ more : List Text, ls.pushAll more = ls ↔ more ⊆ xs := by
  intro ls
  have order : FirstOrder xs ls := first_order_push_all xs
  refine ⟨order.nodup, order.mem, order.ordered, fun n => ?_, fun more => ?_⟩
  · have split : ls = (empty.pushAll (xs.take n)).pushAll (xs.drop n) := by
      rw [← push_all_append, List.take_append_drop]
    rw [split]
    exact prefix_push_all _ _
  · have same : more ⊆ ls.toList ↔ more ⊆ xs := forall₂_congr fun l _ => order.mem l
    rw [push_all_eq_iff, same]

example : (empty.pushAll ["b", "a", "b", "c", "a"]).toList = ["b", "a", "c"] := by decide

end Backlog.Labels
