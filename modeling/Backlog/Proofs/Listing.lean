import Mathlib.Data.List.Nodup
import Backlog.Proofs.Bytes
import Backlog.Proofs.PathParts
import Backlog.Storage.Tree
/-!
The entries of a directory as a file system lists them: no two have one name, and no name has a
slash. Trees made step by step list their directories in this way, since what stands at a place is
one node and all names come from paths, those that links lead along too. A tree never fails to list
a directory, which other storages may.

- `IsListing`: what a file system promises of the entries of a directory;
- `Storage.Lists`: a directory that is listed to its end;
- `Tree.IsSound`: one node at a place, and names without slashes;
- `Tree.Made`: trees made by adding and removing;
- `Tree.lists_iff`, `Tree.made_listing`: what a directory of such a tree lists.
-/
namespace Backlog
set_option autoImplicit false

/-! ## Listings -/

/-- What a file system promises of the entries of a directory: no two have one name, and no name has
a slash. -/
structure IsListing (entries : List Entry) : Prop where
  names_differ : (entries.map (·.name)).Nodup
  no_slash : ∀ e ∈ entries, Text.slashByte ∉ e.name

namespace IsListing

variable {entries : List Entry}

theorem entry_unique (h : IsListing entries) {a b : Entry} (ha : a ∈ entries) (hb : b ∈ entries)
    (same : a.name = b.name) : a = b :=
  List.inj_on_of_nodup_map h.names_differ ha hb same

theorem text_no_slash (h : IsListing entries) {name : Text} {kind : EntryKind}
    (he : ⟨Text.utf8 name, kind⟩ ∈ entries) : '/' ∉ name := fun slash =>
  h.no_slash _ he (Text.slash_byte_iff.2 slash)

end IsListing

/-- A directory that is listed to its end, and each of its entries is told to be a file, a directory
or a link. -/
structure Storage.Lists (storage : Storage) (dir : Text) (entries : List Entry) : Prop where
  listed : storage.list dir = .ok entries
  told : ∀ e ∈ entries, ∀ fault : ReadFault, e.kind ≠ .untold fault

namespace Tree

/-! ## Names without slashes -/

def Slashless (along : List Name) : Prop := ∀ name ∈ along, Text.slashByte ∉ name

theorem slashless_nil : Slashless [] := fun _ h => absurd h List.not_mem_nil

theorem slashless_append {along further : List Name} :
    Slashless (along ++ further) ↔ Slashless along ∧ Slashless further := List.forall_mem_append

theorem slashless_cons {name : Name} {along : List Name} :
    Slashless (name :: along) ↔ Text.slashByte ∉ name ∧ Slashless along := List.forall_mem_cons

theorem slashless_single {name : Name} (h : Text.slashByte ∉ name) : Slashless [name] :=
  slashless_cons.2 ⟨h, slashless_nil⟩

theorem Slashless.dropLast {along : List Name} (h : Slashless along) : Slashless along.dropLast :=
  fun name hn => h name (List.dropLast_subset along hn)

/-- A path is cut at its slashes. -/
theorem slashless_names (path : Text) : Slashless (names path) := by
  unfold names
  rw [slashless_append]
  constructor
  · intro name hn
    obtain ⟨part, hp, rfl⟩ := List.mem_map.1 hn
    rw [Text.slash_byte_iff]
    exact (Path.part_of_mem hp).no_slash
  · split
    · exact slashless_single (by decide)
    · exact slashless_nil

theorem slashless_follow {t : Tree} {link : Place → List Name → Except ReadFault Place}
    (linked : ∀ {place next : Place} {along : List Name}, Slashless place → Slashless along →
      link place along = .ok next → Slashless next)
    {place next : Place} {along : List Name} (from_place : Slashless place)
    (by_names : Slashless along) (h : t.follow link place along = .ok next) : Slashless next := by
  fun_induction follow t link place along with
  | case1 => exact Except.ok.inj h ▸ from_place
  | case4 _ _ _ _ ih => exact ih from_place (slashless_cons.1 by_names).2 h
  | case5 _ _ _ _ _ ih => exact ih from_place.dropLast (slashless_cons.1 by_names).2 h
  | case6 =>
    have last := slashless_single (slashless_cons.1 by_names).1
    exact Except.ok.inj h ▸ slashless_append.2 ⟨from_place, last⟩
  | case8 _ _ _ _ _ _ _ target =>
    -- A link leads on from the root or from where it stands, by names cut at slashes.
    refine linked ?_ (slashless_append.2 ⟨slashless_names target, (slashless_cons.1 by_names).2⟩) h
    split
    · exact slashless_nil
    · exact from_place
  | case9 _ _ _ _ _ _ _ _ _ _ ih =>
    obtain ⟨first, rest⟩ := slashless_cons.1 by_names
    exact ih (slashless_append.2 ⟨from_place, slashless_single first⟩) rest h
  | case2 | case3 | case7 => exact absurd h (by simp)

theorem slashless_destination {t : Tree} {links : Nat} {place next : Place} {along : List Name}
    (from_place : Slashless place) (by_names : Slashless along)
    (h : destination t links place along = .ok next) : Slashless next := by
  induction links generalizing place next along with
  | zero => exact slashless_follow (fun _ _ e => absurd e (by simp)) from_place by_names h
  | succ links ih => exact slashless_follow ih from_place by_names h

/-! ## Sound trees -/

/-- What stands at a place is one node, and no name has a slash. -/
structure IsSound (t : Tree) : Prop where
  places_differ : (t.nodes.map (·.1)).Nodup
  slashless : ∀ n ∈ t.nodes, Slashless n.1

theorem sound_empty : empty.IsSound := ⟨List.nodup_nil, fun _ h => absurd h List.not_mem_nil⟩

theorem sound_filter {t : Tree} (h : t.IsSound) (kept : Place × Node → Bool) :
    IsSound ⟨t.nodes.filter kept⟩ where
  places_differ := h.places_differ.sublist (List.filter_sublist.map _)
  slashless := fun n hn => h.slashless n (List.mem_filter.1 hn).1

theorem sound_set {t : Tree} (h : t.IsSound) {place : Place} (hp : Slashless place) (node : Node) :
    (t.set place node).IsSound := by
  have others := sound_filter h fun n => n.1 ≠ place
  constructor
  · have absent : place ∉ (t.nodes.filter fun n => n.1 ≠ place).map (·.1) := by
      intro hm
      obtain ⟨n, hn, e⟩ := List.mem_map.1 hm
      exact absurd e (by simpa using (List.mem_filter.1 hn).2)
    unfold set
    rw [List.map_append, List.map_singleton, List.nodup_append]
    refine ⟨others.places_differ, List.nodup_singleton place, ?_⟩
    rintro a ha b hb rfl
    rw [List.mem_singleton.1 hb] at ha
    exact absent ha
  · intro n hn
    obtain hn | hn := List.mem_append.1 hn
    · exact others.slashless n hn
    · exact (List.mem_singleton.1 hn) ▸ hp

theorem sound_make_directories {t made : Tree} {place last : Place} {along : List Name}
    (h : t.IsSound) (from_place : Slashless place) (by_names : Slashless along)
    (done : t.makeDirectories? place along = some (made, last)) :
    made.IsSound ∧ Slashless last := by
  fun_induction makeDirectories? t place along with
  | case1 =>
    obtain ⟨rfl, rfl⟩ := Prod.mk.inj (Option.some.inj done)
    exact ⟨h, from_place⟩
  | case3 _ _ _ _ _ reached _ ih =>
    obtain ⟨first, rest⟩ := slashless_cons.1 by_names
    exact ih h (slashless_destination from_place (slashless_single first) reached) rest done
  | case5 _ _ _ _ _ _ ih =>
    obtain ⟨first, rest⟩ := slashless_cons.1 by_names
    have next := slashless_append.2 ⟨from_place, slashless_single first⟩
    exact ih (sound_set h next .directory) next rest done
  | case2 | case4 | case6 => exact absurd done (by simp)

theorem sound_make_parents {t made : Tree} {place parent : Place} {along : List Name} {last : Name}
    (h : t.IsSound) (from_place : Slashless place) (by_names : Slashless along)
    (done : t.makeParents? place along = some (made, parent, last)) :
    made.IsSound ∧ Slashless parent ∧ Text.slashByte ∉ last := by
  unfold makeParents? at done
  obtain ⟨name, ends, done⟩ := Option.bind_eq_some_iff.1 done
  obtain ⟨⟨t', parent'⟩, parents, done⟩ := Option.bind_eq_some_iff.1 done
  obtain ⟨rfl, pair⟩ := Prod.mk.inj (Option.some.inj done)
  obtain ⟨rfl, rfl⟩ := Prod.mk.inj pair
  obtain ⟨sound, slashless⟩ := sound_make_directories h from_place by_names.dropLast parents
  exact ⟨sound, slashless, by_names name (List.mem_of_getLast? ends)⟩

theorem sound_add_file {t : Tree} {place : Place} {along : List Name} (h : t.IsSound)
    (from_place : Slashless place) (by_names : Slashless along) (bytes : List UInt8) :
    (t.addFile place along bytes).IsSound := by
  unfold addFile
  split
  next => exact h
  next made parent last parents =>
    obtain ⟨sound, slashless, last_slashless⟩ := sound_make_parents h from_place by_names parents
    split
    next => exact sound
    next next reached =>
      have next_slashless :=
        slashless_destination slashless (slashless_single last_slashless) reached
      split
      · exact sound
      · exact sound_set sound next_slashless _

theorem sound_add_link {t : Tree} {place : Place} {along : List Name} (h : t.IsSound)
    (from_place : Slashless place) (by_names : Slashless along) (target : Text) :
    (t.addLink place along target).IsSound := by
  unfold addLink
  split
  next => exact h
  next made parent last parents =>
    obtain ⟨sound, slashless, last_slashless⟩ := sound_make_parents h from_place by_names parents
    split
    · exact sound
    · exact sound_set sound (slashless_append.2 ⟨slashless, slashless_single last_slashless⟩) _

theorem sound_add_directory {t : Tree} {place : Place} {along : List Name} (h : t.IsSound)
    (from_place : Slashless place) (by_names : Slashless along) :
    (t.addDirectory place along).IsSound := by
  unfold addDirectory
  cases done : t.makeDirectories? place along with
  | none => exact h
  | some made => exact (sound_make_directories h from_place by_names done).1

theorem sound_remove {t left : Tree} {place : Place} {along : List Name} (h : t.IsSound)
    (done : t.remove? place along = some left) : left.IsSound := by
  have kept (target : Place) (found : (t.node? target).bind (fun _ =>
      some (⟨t.nodes.filter fun n => !target.isPrefixOf n.1⟩ : Tree)) = some left) :
      left.IsSound := by
    obtain ⟨-, -, rest⟩ := Option.bind_eq_some_iff.1 found
    rw [← Option.some.inj rest]
    exact sound_filter h _
  unfold remove? at done
  split at done
  · exact kept place done
  · split at done
    · obtain ⟨target, -, found⟩ := Option.bind_eq_some_iff.1 done
      exact kept target found
    · obtain ⟨target, -, found⟩ := Option.bind_eq_some_iff.1 done
      exact kept target found

/-! ## Trees made step by step -/

/-- Trees made by adding and removing, by names without slashes. -/
inductive Made : Tree → Prop
  | empty : Made empty
  | file {t : Tree} {place : Place} {along : List Name} (bytes : List UInt8) :
      Made t → Slashless place → Slashless along → Made (t.addFile place along bytes)
  | link {t : Tree} {place : Place} {along : List Name} (target : Text) :
      Made t → Slashless place → Slashless along → Made (t.addLink place along target)
  | directory {t : Tree} {place : Place} {along : List Name} :
      Made t → Slashless place → Slashless along → Made (t.addDirectory place along)
  | removed {t left : Tree} {place : Place} {along : List Name} :
      Made t → t.remove? place along = some left → Made left

theorem made_sound {t : Tree} (h : Made t) : t.IsSound := by
  induction h with
  | empty => exact sound_empty
  | file bytes _ from_place by_names ih => exact sound_add_file ih from_place by_names bytes
  | link target _ from_place by_names ih => exact sound_add_link ih from_place by_names target
  | directory _ from_place by_names ih => exact sound_add_directory ih from_place by_names
  | removed _ done ih => exact sound_remove ih done

/-! ## Directories of trees -/

theorem entry_name (name : Name) (node : Node) : (entryOf name node).name = name := by
  cases node <;> rfl

/-- The entry that a node gives to a directory, if it stands in it. -/
def entryBelow? (place : Place) (n : Place × Node) : Option Entry :=
  match n.1.getLast? with
  | some name => if n.1.dropLast = place then some (entryOf name n.2) else none
  | none => none

theorem place_of_entry {place : Place} {n : Place × Node} {e : Entry}
    (h : entryBelow? place n = some e) : n.1 = place ++ [e.name] := by
  unfold entryBelow? at h
  split at h
  next name last =>
    split at h
    next below =>
      obtain ⟨front, whole⟩ := List.getLast?_eq_some_iff.1 last
      rw [whole, List.dropLast_concat] at below
      rw [← Option.some.inj h, entry_name, whole, below]
    next => exact absurd h (by simp)
  next => exact absurd h (by simp)

theorem entries_listing {t : Tree} (h : t.IsSound) (place : Place) :
    IsListing (t.entriesAt place) := by
  have entries : t.entriesAt place = t.nodes.filterMap (entryBelow? place) := rfl
  rw [entries]
  constructor
  · rw [List.Nodup, List.pairwise_map]
    refine (List.pairwise_map.1 h.places_differ).filterMap _ ?_
    intro n m differ e he f hf same
    exact differ (by rw [place_of_entry he, place_of_entry hf, same])
  · intro e he
    obtain ⟨n, hn, found⟩ := List.mem_filterMap.1 he
    have slashless := h.slashless n hn
    rw [place_of_entry found, slashless_append] at slashless
    exact (slashless_cons.1 slashless.2).1

theorem list_iff {t : Tree} {cwd : Place} {path : Text} {entries : List Entry} :
    t.list cwd path = .ok entries ↔ ∃ place : Place, t.resolve cwd path = .ok place ∧
      t.node? place = some .directory ∧ entries = t.entriesAt place := by
  unfold list
  constructor
  · intro h
    split at h
    next => exact absurd h (by simp)
    next place reached =>
      split at h
      next here => exact ⟨place, reached, here, (Except.ok.inj h).symm⟩
      next => exact absurd h (by simp)
  · rintro ⟨place, reached, here, rfl⟩
    rw [reached]
    dsimp only
    rw [here]

/-- Each node of a tree is one of the three. -/
theorem entry_told (name : Name) (node : Node) (fault : ReadFault) :
    (entryOf name node).kind ≠ .untold fault := by
  cases node <;> simp [entryOf]

theorem entries_told (t : Tree) (place : Place) :
    ∀ e ∈ t.entriesAt place, ∀ fault : ReadFault, e.kind ≠ .untold fault := by
  intro e inside fault
  obtain ⟨n, -, found⟩ := List.mem_filterMap.1 inside
  split at found
  next =>
    split at found
    next => exact Option.some.inj found ▸ entry_told _ _ fault
    next => exact absurd found (by simp)
  next => exact absurd found (by simp)

/-- In a tree every path that leads to a directory leads to one that is listed to its end. -/
theorem lists_iff {t : Tree} {cwd : Place} {path : Text} {entries : List Entry} :
    (t.storage cwd).Lists path entries ↔ ∃ place : Place, t.resolve cwd path = .ok place ∧
      t.node? place = some .directory ∧ entries = t.entriesAt place := by
  constructor
  · exact fun h => list_iff.1 h.listed
  · intro h
    refine ⟨list_iff.2 h, ?_⟩
    obtain ⟨place, -, -, rfl⟩ := h
    exact t.entries_told place

/-- What a path leads to in a tree made step by step is listed as by a file system. -/
theorem made_listing {t : Tree} (h : Made t) {cwd : Place} {path : Text} {entries : List Entry}
    (listed : (t.storage cwd).Lists path entries) : IsListing entries := by
  obtain ⟨place, -, -, rfl⟩ := lists_iff.1 listed
  exact entries_listing (made_sound h) place

end Tree

end Backlog
