import Backlog.Text
/-!
Finite maps keyed by texts, with their entries in ascending order of keys. The order is the one of
code points, which is also the order of the UTF-8 bytes. Two maps with the same entries are equal.

- `Dict.insert`, `Dict.get?`: a later value for a key replaces the earlier one;
- `Dict.get?_insert`: what a look-up finds after an insertion;
- `Dict.ofList_entries`: a map is made again from its entries.
-/
namespace Backlog
set_option autoImplicit false

structure Dict (α : Type) where
  entries : List (Text × α)
  sorted : entries.Pairwise fun a b => a.1 < b.1

namespace Dict

variable {α : Type}

def empty : Dict α := ⟨[], .nil⟩

def find? (key : Text) : List (Text × α) → Option α
  | [] => none
  | e :: es => if e.1 = key then some e.2 else find? key es

/-- The entries with one more, before the first greater key and in place of an equal one. -/
def place (key : Text) (value : α) : List (Text × α) → List (Text × α)
  | [] => [(key, value)]
  | e :: es =>
    if key < e.1 then (key, value) :: e :: es
    else if e.1 = key then (key, value) :: es
    else e :: place key value es

theorem mem_place {key : Text} {value : α} {e : Text × α} {es : List (Text × α)}
    (h : e ∈ place key value es) : e = (key, value) ∨ e ∈ es := by
  induction es with
  | nil => simpa [place] using h
  | cons d ds ih =>
    simp only [place] at h
    split at h
    · simpa using h
    · split at h
      · rcases List.mem_cons.1 h with rfl | h
        · exact .inl rfl
        · exact .inr (List.mem_cons_of_mem _ h)
      · rcases List.mem_cons.1 h with rfl | h
        · exact .inr (List.mem_cons_self ..)
        · exact (ih h).imp id (List.mem_cons_of_mem _)

theorem place_sorted (key : Text) (value : α) {es : List (Text × α)}
    (h : es.Pairwise fun a b => a.1 < b.1) :
    (place key value es).Pairwise fun a b => a.1 < b.1 := by
  induction es with
  | nil => simp [place]
  | cons e es ih =>
    obtain ⟨first, rest⟩ := List.pairwise_cons.1 h
    simp only [place]
    split
    next lt =>
      refine List.pairwise_cons.2 ⟨fun b hb => ?_, h⟩
      rcases List.mem_cons.1 hb with rfl | hb
      · exact lt
      · exact List.lt_trans lt (first b hb)
    next not_lt =>
      split
      next eq => exact List.pairwise_cons.2 ⟨fun b hb => eq ▸ first b hb, rest⟩
      next ne =>
        refine List.pairwise_cons.2 ⟨fun b hb => ?_, ih rest⟩
        rcases mem_place hb with rfl | hb
        · rcases Std.lt_trichotomy key e.1 with lt | eq | gt
          · exact absurd lt not_lt
          · exact absurd eq.symm ne
          · exact gt
        · exact first b hb

/-- A key beyond all others goes to the end. -/
theorem place_last {key : Text} (value : α) {es : List (Text × α)} (h : ∀ e ∈ es, e.1 < key) :
    place key value es = es ++ [(key, value)] := by
  induction es with
  | nil => rfl
  | cons e es ih =>
    have before : e.1 < key := h e List.mem_cons_self
    have not_lt : ¬ key < e.1 := List.lt_asymm before
    have ne : e.1 ≠ key := by
      intro same
      rw [same] at before
      exact List.lt_irrefl key before
    rw [place, if_neg not_lt, if_neg ne, ih fun e he => h e (List.mem_cons_of_mem _ he)]
    rfl

def insert (d : Dict α) (key : Text) (value : α) : Dict α :=
  ⟨place key value d.entries, place_sorted key value d.sorted⟩

def get? (d : Dict α) (key : Text) : Option α := find? key d.entries

def contains (d : Dict α) (key : Text) : Bool := (d.get? key).isSome

def keys (d : Dict α) : List Text := d.entries.map (·.1)

def size (d : Dict α) : Nat := d.entries.length

/-- The map of a list of pairs; of two values for one key, the later stays. -/
def ofList (pairs : List (Text × α)) : Dict α :=
  pairs.foldl (fun d p => d.insert p.1 p.2) empty

theorem insert_all_entries (d : Dict α) {es : List (Text × α)}
    (h : (d.entries ++ es).Pairwise fun a b => a.1 < b.1) :
    (es.foldl (fun d p => d.insert p.1 p.2) d).entries = d.entries ++ es := by
  induction es generalizing d with
  | nil => simp
  | cons e es ih =>
    have beyond : ∀ a ∈ d.entries, a.1 < e.1 := fun a ha =>
      (List.pairwise_append.1 h).2.2 a ha e List.mem_cons_self
    have grown : (d.insert e.1 e.2).entries = d.entries ++ [e] := place_last e.2 beyond
    have split : d.entries ++ e :: es = (d.insert e.1 e.2).entries ++ es := by simp [grown]
    rw [List.foldl_cons, split]
    rw [split] at h
    exact ih _ h

theorem eq_of_entries {d other : Dict α} (h : d.entries = other.entries) : d = other := by
  cases d
  cases other
  subst h
  rfl

/-- A map is made again from its entries. -/
theorem ofList_entries (d : Dict α) : ofList d.entries = d :=
  eq_of_entries (insert_all_entries empty d.sorted)

/-- A look-up after an insertion finds the new value at its key and the old ones elsewhere. -/
theorem get?_insert (d : Dict α) (key other : Text) (value : α) :
    (d.insert key value).get? other = if key = other then some value else d.get? other := by
  have placed (es : List (Text × α)) :
      find? other (place key value es) = if key = other then some value else find? other es := by
    induction es with
    | nil => simp [place, find?]
    | cons e es ih =>
      rw [place]
      split
      next => rfl
      next =>
        split
        next eq =>
          subst eq
          by_cases h : e.1 = other <;> simp [find?, h]
        next ne =>
          by_cases h : e.1 = other
          · have ne : key ≠ other := fun same => ne (h.trans same.symm)
            simp [find?, h, ne]
          · simp [find?, h, ih]
  exact placed d.entries

end Dict

/-- A finite set of texts: a map that stores no more than its keys. -/
abbrev TextSet := Dict Unit

def TextSet.ofList (ts : List Text) : TextSet := Dict.ofList (ts.map fun t => (t, ()))

theorem TextSet.ofList_keys (s : TextSet) : TextSet.ofList s.keys = s := by
  have pairs : s.keys.map (fun t => (t, ())) = s.entries := by
    rw [Dict.keys, List.map_map]
    exact List.map_id s.entries
  rw [TextSet.ofList, pairs, Dict.ofList_entries]

end Backlog
