import Backlog.Proofs.OptIn
import Backlog.Proofs.PathParts
/-!
The repository of a tracker. It has to have two parts, but more slashes may stand around them than
the one between, and these go into the address as they are.

- `Repository.Spelling`: an owner, a name, and slashes in excess;
- `Tracker.new_by_spelling`: which repositories a tracker is made for, and the address it then has.
-/
namespace Backlog
set_option autoImplicit false

/-! ## Repositories -/

namespace Repository

open Backlog.Path

/-- A repository as it may be written: an owner and a name, with slashes in excess in front of them,
between them and behind them. -/
structure Spelling where
  owner : Text
  name : Text
  front : Nat
  between : Nat
  behind : Nat
  owner_part : IsPart owner
  name_part : IsPart name

namespace Spelling

def text (s : Spelling) : Text :=
  slashes s.front ++ s.owner ++ '/' :: (slashes s.between ++ s.name ++ slashes s.behind)

/-- No slash in excess. -/
def Exact (s : Spelling) : Prop := s.front = 0 ∧ s.between = 0 ∧ s.behind = 0

theorem parts_name (s : Spelling) : parts (s.name ++ slashes s.behind) = [s.name] := by
  cases s.behind with
  | zero => rw [slashes_zero, List.append_nil, parts_part s.name_part]
  | succ n => rw [slashes_succ, parts_more s.name_part, parts_only_slashes]

theorem parts_text (s : Spelling) : parts s.text = [s.owner, s.name] := by
  unfold text
  rw [List.append_assoc, parts_slashes, parts_more s.owner_part, List.append_assoc, parts_slashes,
    parts_name]

/-- What has two parts is a spelling of them. -/
theorem of_two_parts {t : Text} (h : (parts t).length = 2) : ∃ s : Spelling, s.text = t := by
  rcases by_parts t with ⟨n, rfl⟩ | ⟨front, owner, ho, rfl | ⟨rest, rfl⟩⟩
  · rw [parts_only_slashes] at h
    exact absurd h (by simp)
  · rw [parts_slashes, parts_part ho] at h
    exact absurd h (by simp)
  rw [List.append_assoc, parts_slashes, parts_more ho, List.length_cons,
    Nat.add_right_cancel_iff] at h
  rcases by_parts rest with ⟨n, rfl⟩ | ⟨between, name, hn, rfl | ⟨rest, rfl⟩⟩
  · rw [parts_only_slashes] at h
    exact absurd h (by simp)
  · refine ⟨⟨owner, name, front, between, 0, ho, hn⟩, ?_⟩
    simp [text]
  · rw [List.append_assoc, parts_slashes, parts_more hn, List.length_cons] at h
    have no_parts : parts rest = [] := List.length_eq_zero_iff.1 (by omega)
    obtain ⟨n, rfl⟩ := parts_none no_parts
    refine ⟨⟨owner, name, front, between, n + 1, ho, hn⟩, ?_⟩
    simp [text]

theorem two_parts_iff {t : Text} : (parts t).length = 2 ↔ ∃ s : Spelling, s.text = t := by
  constructor
  · exact of_two_parts
  · rintro ⟨s, rfl⟩
    rw [s.parts_text]
    rfl

theorem text_exact_iff (s : Spelling) : s.text = s.owner ++ "/" ++ s.name ↔ s.Exact := by
  constructor
  · intro e
    have size := congrArg List.length e
    have one : ("/".toList : Text).length = 1 := rfl
    simp only [text, slashes, Text.repeated, List.length_append, List.length_cons,
      List.length_replicate, one] at size
    unfold Exact
    omega
  · rintro ⟨front, between, behind⟩
    simp [text, front, between, behind]

/-- A repository is an owner, a slash and a name exactly when no slash is in excess. -/
theorem owner_and_name_iff (s : Spelling) :
    (∃ owner name : Text, IsPart owner ∧ IsPart name ∧ s.text = owner ++ "/" ++ name) ↔ s.Exact := by
  rw [← text_exact_iff]
  constructor
  · rintro ⟨owner, name, ho, hn, e⟩
    have own : parts s.text = [owner, name] := by
      have split : owner ++ "/" ++ name = owner ++ '/' :: name := by simp
      rw [e, split, parts_more ho, parts_part hn]
    rw [s.parts_text] at own
    obtain ⟨rfl, rest⟩ := List.cons.inj own
    obtain ⟨rfl, -⟩ := List.cons.inj rest
    exact e
  · intro e
    exact ⟨s.owner, s.name, s.owner_part, s.name_part, e⟩

end Spelling

end Repository

/-! ## Trackers for a repository -/

namespace Tracker

open Backlog.Path Backlog.Repository

theorem trim_slashes (t : Text) :
    ∃ n : Nat, t = Text.trimEnd (· == '/') t ++ slashes n ∧
      (Text.trimEnd (· == '/') t).getLast? ≠ some '/' := by
  obtain ⟨tail, all, whole⟩ := Text.trimEnd_tail (p := (· == '/')) t
  have run : tail = slashes tail.length := by
    refine List.eq_replicate_of_mem fun c hc => ?_
    exact beq_iff_eq.1 (all c hc)
  refine ⟨tail.length, ?_, ?_⟩
  · rw [← run, whole]
  · intro last
    exact absurd (Text.last_trimEnd last) (by decide)

/-- An address has the slashes of the repository as they are. -/
theorem issues_url_iff (s : Spelling) (base token : Text) :
    issuesUrl ⟨base, s.text, token⟩ = base ++ "/repos/" ++ s.owner ++ "/" ++ s.name ++ "/issues" ↔
      s.Exact := by
  rw [← s.text_exact_iff]
  unfold issuesUrl
  constructor
  · intro e
    have same := List.append_cancel_right e
    rw [List.append_assoc, List.append_assoc] at same
    simpa using same
  · intro e
    simp [e]

theorem refused_unasked {repository : Text} (h : (parts repository).length ≠ 2) (live yes : Bool)
    (p : Project) (w : Command.World) :
    (Command.sync live yes { p with config := { p.config with repository := repository } } w).peer =
      w.peer := by
  obtain alone | ⟨-, -, -, t, made⟩ := Command.sync_cases live yes
    { p with config := { p.config with repository := repository } } w
  · exact congrArg Command.Finish.peer (alone w.peer)
  · exact absurd (of_settings_ok made).2.2 h

/-- A tracker is made for a repository exactly when it is an owner and a name with one slash or more
between them, and perhaps others around. Its address has the slashes of the repository, so it is the
one of the owner's and the name's issues exactly when no slash is in excess, and this is the only case
in which the repository is an owner, a slash and a name. Any other repository is refused, and a run
with it asks nothing of the peer. -/
theorem new_by_spelling (apiUrl repository token : Text) :
    (∃ (s : Spelling) (t : Tracker) (base : Text) (n : Nat),
      s.text = repository ∧ new apiUrl repository token = .ok t ∧
      apiUrl = base ++ slashes n ∧ base.getLast? ≠ some '/' ∧
      t.issuesUrl = base ++ "/repos/" ++ repository ++ "/issues" ∧
      (t.issuesUrl = base ++ "/repos/" ++ s.owner ++ "/" ++ s.name ++ "/issues" ↔ s.Exact) ∧
      ((∃ owner name : Text, IsPart owner ∧ IsPart name ∧ repository = owner ++ "/" ++ name) ↔
        s.Exact)) ∨
    ((∀ s : Spelling, s.text ≠ repository) ∧
      new apiUrl repository token =
        .error (.invalidArgument ("repository must be 'owner/name', got '" ++ repository ++ "'")) ∧
      ∀ (live yes : Bool) (p : Project) (w : Command.World),
        (Command.sync live yes
          { p with config := { p.config with repository := repository } } w).peer = w.peer) := by
  by_cases two : (parts repository).length = 2
  · obtain ⟨s, rfl⟩ := Spelling.of_two_parts two
    obtain ⟨n, whole, last⟩ := trim_slashes apiUrl
    have made : new apiUrl s.text token =
        .ok ⟨Text.trimEnd (· == '/') apiUrl, s.text, token⟩ := if_pos two
    exact .inl ⟨s, _, _, n, rfl, made, whole, last, rfl, issues_url_iff s _ token,
      s.owner_and_name_iff⟩
  · refine .inr ⟨?_, if_neg two, refused_unasked two⟩
    intro s e
    exact two (Spelling.two_parts_iff.2 ⟨s, e⟩)

/-- A tracker is made for an owner and a name with two slashes between them. -/
theorem new_by_spelling_doubled :
    ¬ ∀ apiUrl repository token : Text, (∃ t : Tracker, new apiUrl repository token = .ok t) ↔
      ∃ owner name : Text, IsPart owner ∧ IsPart name ∧ repository = owner ++ "/" ++ name := by
  intro exactly
  have made : ∃ t : Tracker, new "https://api.github.com" "owner//name" "t" = .ok t := ⟨_, rfl⟩
  let s : Spelling := ⟨"owner", "name", 0, 1, 0, by decide, by decide⟩
  have single : s.Exact := s.owner_and_name_iff.1 ((exactly _ _ _).1 made)
  exact absurd single.2.1 (by decide)

end Tracker

end Backlog
