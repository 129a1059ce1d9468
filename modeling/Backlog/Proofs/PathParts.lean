import Mathlib.Data.List.TakeWhile
import Backlog.Path
import Backlog.Proofs.Lines
/-!
The parts of a path, the name of the file it leads to, and the place where this name is cut.

- `Path.by_parts`: a path by its parts and the slashes around them;
- `Path.file_name_join`: a file in a directory has its own name;
- `Path.extension_iff`: a name is cut at its last dot, unless the dot is at the front.
-/
namespace Backlog.Path
set_option autoImplicit false

/-! ## Parts and slashes -/

def slashes (n : Nat) : Text := Text.repeated n '/'

@[simp] theorem slashes_zero : slashes 0 = [] := rfl

@[simp] theorem slashes_succ (n : Nat) : slashes (n + 1) = '/' :: slashes n := rfl

/-- A part of a path: a text that is not empty and has no slash. -/
structure IsPart (t : Text) : Prop where
  some_char : t ≠ []
  no_slash : '/' ∉ t

instance (t : Text) : Decidable (IsPart t) :=
  decidable_of_iff (t ≠ [] ∧ '/' ∉ t) ⟨fun h => ⟨h.1, h.2⟩, fun h => ⟨h.some_char, h.no_slash⟩⟩

theorem parts_append (t u : Text) : parts (t ++ '/' :: u) = parts t ++ parts u := by
  unfold parts
  rw [List.splitOn_append_cons_self, List.filter_append]

theorem parts_slash (t : Text) : parts ('/' :: t) = parts t := parts_append [] t

theorem parts_slashes (n : Nat) (t : Text) : parts (slashes n ++ t) = parts t := by
  induction n with
  | zero => rfl
  | succ n ih => rw [slashes_succ, List.cons_append, parts_slash, ih]

theorem parts_part {t : Text} (h : IsPart t) : parts t = [t] := by
  unfold parts
  rw [List.splitOn_eq_singleton h.no_slash]
  simp [h.some_char]

theorem parts_more {t : Text} (h : IsPart t) (u : Text) :
    parts (t ++ '/' :: u) = t :: parts u := by
  rw [parts_append, parts_part h, List.singleton_append]

theorem parts_only_slashes (n : Nat) : parts (slashes n) = [] := by
  have h := parts_slashes n []
  rwa [List.append_nil] at h

/-- A path is slashes alone, or slashes, a part, and a rest that starts with a slash if there is one.
-/
theorem by_parts (t : Text) :
    (∃ n, t = slashes n) ∨ ∃ n part, IsPart part ∧
      (t = slashes n ++ part ∨ ∃ rest, t = slashes n ++ part ++ '/' :: rest) := by
  induction t with
  | nil => exact .inl ⟨0, rfl⟩
  | cons c t ih =>
    by_cases slash : c = '/'
    · subst slash
      rcases ih with ⟨n, rfl⟩ | ⟨n, part, h, rfl | ⟨rest, rfl⟩⟩
      · exact .inl ⟨n + 1, rfl⟩
      · exact .inr ⟨n + 1, part, h, .inl rfl⟩
      · exact .inr ⟨n + 1, part, h, .inr ⟨rest, rfl⟩⟩
    · by_cases more : '/' ∈ c :: t
      · obtain ⟨part, rest, e, no_slash⟩ := List.eq_append_cons_of_mem more
        have some_char : part ≠ [] := by
          rintro rfl
          exact slash (List.cons.inj e).1
        exact .inr ⟨0, part, ⟨some_char, no_slash⟩, .inr ⟨rest, e⟩⟩
      · exact .inr ⟨0, c :: t, ⟨List.cons_ne_nil c t, more⟩, .inl rfl⟩

theorem part_of_mem {t part : Text} (h : part ∈ parts t) : IsPart part := by
  obtain ⟨piece, some_char⟩ := List.mem_filter.1 h
  exact ⟨by simpa using some_char, Text.no_separator_of_mem t part piece⟩

theorem parts_none {t : Text} (h : parts t = []) : ∃ n, t = slashes n := by
  rcases by_parts t with slashes | ⟨n, part, hp, rfl | ⟨rest, rfl⟩⟩
  · exact slashes
  · rw [parts_slashes, parts_part hp] at h
    exact absurd h (by simp)
  · rw [List.append_assoc, parts_slashes, parts_more hp] at h
    exact absurd h (by simp)

/-! ## Files in a directory -/

theorem part_not_absolute {t : Text} (h : IsPart t) : isAbsolute t = false := by
  unfold isAbsolute
  cases t with
  | nil => rfl
  | cons c t =>
    have other : c ≠ '/' := fun e => h.no_slash (e ▸ List.mem_cons_self)
    simp [other]

theorem parts_join (dir : Text) {name : Text} (h : IsPart name) :
    parts (join dir name) = parts dir ++ [name] := by
  unfold join
  rw [part_not_absolute h, if_neg Bool.false_ne_true]
  split
  next closed =>
    rw [Bool.or_eq_true, List.isEmpty_iff, beq_iff_eq] at closed
    obtain rfl | last := closed
    · exact parts_part h
    · obtain ⟨front, rfl⟩ := List.getLast?_eq_some_iff.1 last
      have none_behind : parts [] = [] := rfl
      have own : parts (front ++ ['/']) = parts front := by
        rw [parts_append, none_behind, List.append_nil]
      rw [own, List.append_assoc, List.singleton_append, parts_append, parts_part h]
  next => rw [parts_append, parts_part h]

/-- A name that a file can have: a part of a path, and none of the two that stand for a directory
itself and for the one above. -/
structure IsFileName (name : Text) : Prop where
  part : IsPart name
  not_here : name ≠ ['.']
  not_above : name ≠ ['.', '.']

theorem file_name_join (dir : Text) {name : Text} (h : IsFileName name) :
    fileName? (join dir name) = some name := by
  have last : ((parts (join dir name)).filter (· ≠ ['.'])).getLast? = some name := by
    rw [parts_join dir h.part, List.filter_append]
    simp [h.not_here]
  unfold fileName?
  rw [last]
  exact if_neg h.not_above

/-! ## Extensions -/

theorem split_at_last_dot {stem ext : Text} (some_stem : stem ≠ []) (dotless : '.' ∉ ext) :
    splitExtension (stem ++ '.' :: ext) = (stem, some ext) := by
  have mirrored : (stem ++ '.' :: ext).reverse = ext.reverse ++ '.' :: stem.reverse := by simp
  have before_dot : ∀ c ∈ ext.reverse, (c != '.') = true := by
    intro c hc
    have other : c ≠ '.' := fun e => dotless (e ▸ List.mem_reverse.1 hc)
    simpa using other
  unfold splitExtension
  rw [mirrored, List.dropWhile_append_of_pos before_dot, List.takeWhile_append_of_pos before_dot,
    List.dropWhile_cons_of_neg (by simp), List.takeWhile_cons_of_neg (by simp)]
  split
  next e => exact absurd e (by simp)
  next e => exact absurd (List.reverse_eq_nil_iff.1 (List.cons.inj e).2) some_stem
  next e =>
    rw [← (List.cons.inj e).2, List.reverse_reverse, List.append_nil, List.reverse_reverse]

/-- The extension is what follows the last dot. A dot at the front does not count. -/
theorem extension_iff {name ext : Text} :
    extension? name = some ext ↔
      ∃ stem : Text, stem ≠ [] ∧ name = stem ++ '.' :: ext ∧ '.' ∉ ext := by
  constructor
  · intro h
    have whole := List.takeWhile_append_dropWhile (p := (· != '.')) (l := name.reverse)
    unfold extension? splitExtension at h
    split at h
    next => exact absurd h (by simp)
    next => exact absurd h (by simp)
    next c stem more cut =>
      have dot : c = '.' := by
        have stop := List.head?_dropWhile_not (· != '.') name.reverse
        rw [cut] at stop
        simpa using stop
      obtain rfl := Option.some.inj h
      refine ⟨stem.reverse, ?_, ?_, ?_⟩
      · intro e
        exact more (List.reverse_eq_nil_iff.1 e)
      · rw [cut, dot] at whole
        have mirrored := congrArg List.reverse whole
        rw [List.reverse_reverse, List.reverse_append, List.reverse_cons, List.append_assoc]
          at mirrored
        exact mirrored.symm
      · intro hdot
        have kept := List.mem_takeWhile_imp (List.mem_reverse.1 hdot)
        exact absurd kept (by decide)
  · rintro ⟨stem, some_stem, rfl, dotless⟩
    rw [extension?, split_at_last_dot some_stem dotless]

end Backlog.Path
