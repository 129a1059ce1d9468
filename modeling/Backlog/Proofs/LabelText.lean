import Backlog.Proofs.Lines
import Backlog.Proofs.PlanLabels
/-!
The labels of a plan as they are shown, in one text with commas between them. No label has a comma,
so the text tells what the labels tell.

- `Bucket.IsFirstFor`: the first bucket with words that occur in a category;
- `Text.listed_injective`: texts without commas can be told from their list;
- `Labels.of_plan_shown`: the labels of a plan, and what can be told from the text.
-/
namespace Backlog
set_option autoImplicit false

/-! ## Lists in one text -/

namespace Text

theorem occurs_iff {needle t : Text} : occurs needle t = true ↔ needle <:+: t := by
  induction t with
  | nil =>
    rw [occurs, List.isEmpty_iff]
    exact List.infix_nil.symm
  | cons c t ih =>
    rw [occurs, Bool.or_eq_true, ih, List.isPrefixOf_iff_prefix]
    exact List.infix_cons_iff.symm

/-- A blank behind each comma may as well be in front of the next text. -/
theorem join_listed (l : Text) (ls : List Text) :
    join ", " (l :: ls) = join "," (l :: ls.map fun l => ' ' :: l) := by
  rw [join_led, join_led, List.flatMap_map]
  rfl

theorem listed_injective {ls other : List Text} (ne : ls ≠ []) (other_ne : other ≠ [])
    (h : ∀ l ∈ ls, ',' ∉ l) (other_h : ∀ l ∈ other, ',' ∉ l)
    (same : join ", " ls = join ", " other) : ls = other := by
  have read {ls : List Text} (ne : ls ≠ []) (h : ∀ l ∈ ls, ',' ∉ l) :
      ∃ first rest, ls = first :: rest ∧
        (join ", " ls).splitOn ',' = first :: rest.map fun l => ' ' :: l := by
    obtain ⟨first, rest, rfl⟩ := List.exists_cons_of_ne_nil ne
    obtain ⟨hfirst, hrest⟩ := List.forall_mem_cons.1 h
    have pieces : ∀ l ∈ first :: rest.map (fun l => ' ' :: l), ',' ∉ l := by
      refine List.forall_mem_cons.2 ⟨hfirst, ?_⟩
      intro l m
      obtain ⟨t, ht, rfl⟩ := List.mem_map.1 m
      simpa using hrest t ht
    refine ⟨first, rest, rfl, ?_⟩
    rw [join_listed]
    exact List.splitOn_intercalate ',' pieces (List.cons_ne_nil _ _)
  obtain ⟨first, rest, rfl, pieces⟩ := read ne h
  obtain ⟨first', rest', rfl, pieces'⟩ := read other_ne other_h
  rw [same, pieces'] at pieces
  obtain ⟨e, rests⟩ := List.cons.inj pieces
  have cancel : Function.Injective fun l : Text => ' ' :: l := fun _ _ e => (List.cons.inj e).2
  rw [e, List.map_injective_iff.2 cancel rests]

end Text

/-! ## Buckets of a category -/

namespace Bucket

def all : List Bucket := [.corePackage, .extensionPackage, .testing, .documentation]

def words : Bucket → List Text
  | .corePackage => ["Core Package"]
  | .extensionPackage => ["Extension Package"]
  | .testing => ["Testing", "Samples"]
  | .documentation => ["Documentation"]

def Fits (b : Bucket) (category : Text) : Prop := ∃ w ∈ b.words, w <:+: category

/-- The bucket fits a category, and none in front of it does. -/
def IsFirstFor (b : Bucket) (category : Text) : Prop :=
  b.Fits category ∧ ∃ earlier later : List Bucket, all = earlier ++ b :: later ∧
    ∀ other ∈ earlier, ¬ other.Fits category

theorem fits_iff {b : Bucket} {category : Text} :
    b.words.any (fun w => Text.occurs w category) = true ↔ b.Fits category := by
  simp only [List.any_eq_true, Text.occurs_iff]
  rfl

theorem of_category_find (category : Text) :
    ofCategory? category =
      all.find? fun b => b.words.any fun w => Text.occurs w category := by
  unfold ofCategory?
  simp only [all, words, List.find?_cons, List.find?_nil, List.any_cons, List.any_nil, Bool.or_false]
  generalize Text.occurs "Core Package" category = core
  generalize Text.occurs "Extension Package" category = extension
  generalize Text.occurs "Testing" category = testing
  generalize Text.occurs "Samples" category = samples
  generalize Text.occurs "Documentation" category = documentation
  revert core extension testing samples documentation
  decide

theorem of_category_iff {b : Bucket} {category : Text} :
    ofCategory? category = some b ↔ b.IsFirstFor category := by
  rw [of_category_find, List.find?_eq_some_iff_append, fits_iff]
  refine and_congr_right fun _ => exists_congr fun earlier => exists_congr fun later =>
    and_congr_right fun _ => forall_congr' fun other => forall_congr' fun _ => ?_
  rw [← fits_iff, Bool.not_eq_true']
  exact Bool.eq_false_iff

end Bucket

namespace Labels

/-! ## Rules of a plan -/

theorem positive_iff {o : Option UInt32} {n : UInt32} : positive o = some n ↔ o = some n ∧ 0 < n := by
  unfold positive
  rw [Option.filter_eq_some_iff, decide_eq_true_eq]

/-- A story has one of the first three priorities exactly when its sprint is at most 8. -/
theorem early_iff (sprint : Option UInt32) :
    Priority.ofSprint sprint ≠ .p3 ↔ ∃ n, sprint = some n ∧ n ≤ 8 := by
  cases sprint with
  | none => simp [Priority.ofSprint]
  | some n =>
    simp only [Priority.ofSprint, Option.some.injEq, exists_eq_left']
    by_cases two : n ≤ 2
    · have eight : n ≤ 8 := UInt32.le_trans two (by decide)
      simp [two, eight]
    · by_cases four : n ≤ 4
      · have eight : n ≤ 8 := UInt32.le_trans four (by decide)
        simp [two, four, eight]
      · by_cases eight : n ≤ 8
        · simp [two, four, eight]
        · simp [two, four, eight]

theorem of_plan_list (complete : Bool) (plan : Metadata) :
    (ofPlan complete plan).toList = base :: status complete ::
      (numbered "sp-" (positive plan.storyPoints) ++ numbered "sprint-" (positive plan.sprint) ++
        (plan.category.bind Bucket.ofCategory?).toList.map Bucket.label ++
        [(Priority.ofSprint (positive plan.sprint)).label]) := by
  rw [of_plan_rules]
  simp only [Rule.all, Rule.labels, List.flatMap_cons, List.flatMap_nil, List.append_nil,
    List.singleton_append, List.append_assoc]

theorem no_comma {complete : Bool} {plan : Metadata} :
    ∀ l ∈ (ofPlan complete plan).toList, ',' ∉ l := by
  have digits {lead : Text} (h : ',' ∉ lead) {o : Option UInt32} :
      ∀ l ∈ numbered lead o, ',' ∉ l := by
    intro l m
    obtain ⟨w, -, rfl⟩ := Rule.mem_numbered.1 m
    intro comma
    rcases List.mem_append.1 comma with comma | comma
    · exact h comma
    · exact absurd (Text.decimal_digits _ _ comma) (by decide)
  intro l m
  rw [of_plan_rules] at m
  obtain ⟨r, -, m⟩ := List.mem_flatMap.1 m
  cases r with
  | base =>
    rw [List.mem_singleton.1 m]
    decide
  | status =>
    rw [List.mem_singleton.1 m]
    cases complete <;> decide
  | points => exact digits (by decide) l m
  | sprint => exact digits (by decide) l m
  | bucket =>
    obtain ⟨b, -, rfl⟩ := List.mem_map.1 m
    cases b <;> decide
  | priority =>
    rw [List.mem_singleton.1 m]
    generalize Priority.ofSprint (positive plan.sprint) = p
    cases p <;> decide

theorem joined_eq_iff (complete other_complete : Bool) (plan other : Metadata) :
    (ofPlan complete plan).joined ", " = (ofPlan other_complete other).joined ", " ↔
      ofPlan complete plan = ofPlan other_complete other := by
  have some_label (complete : Bool) (plan : Metadata) : (ofPlan complete plan).toList ≠ [] := by
    rw [of_plan_list]
    exact List.cons_ne_nil _ _
  constructor
  · intro same
    have lists : (ofPlan complete plan).toList = (ofPlan other_complete other).toList :=
      Text.listed_injective (some_label _ _) (some_label _ _) no_comma no_comma same
    rw [Labels.mk.injEq]
    exact lists
  · intro same
    rw [same]

/-- The labels of a plan: which there are, that no two are the same, and what each is there for. In
one text with commas between them they still tell the completion, the points and the sprint that
count, and the bucket. -/
theorem of_plan_shown (complete : Bool) (plan : Metadata) :
    let labels := (ofPlan complete plan).toList
    labels = ("user-story" : Text) :: status complete ::
        (numbered "sp-" (positive plan.storyPoints) ++ numbered "sprint-" (positive plan.sprint) ++
          (plan.category.bind Bucket.ofCategory?).toList.map Bucket.label ++
          [(Priority.ofSprint (positive plan.sprint)).label]) ∧
      labels.Nodup ∧
      (∀ c : Bool, status c ∈ labels ↔ c = complete) ∧
      (∀ n : UInt32, "sp-" ++ Text.decimal n.toNat ∈ labels ↔ plan.storyPoints = some n ∧ 0 < n) ∧
      (∀ n : UInt32, "sprint-" ++ Text.decimal n.toNat ∈ labels ↔ plan.sprint = some n ∧ 0 < n) ∧
      (∀ b : Bucket, b.label ∈ labels ↔
        ∃ category, plan.category = some category ∧ b.IsFirstFor category) ∧
      (∀ p : Priority, p.label ∈ labels ↔ p = Priority.ofSprint (positive plan.sprint)) ∧
      ((∃ p : Priority, p ≠ .p3 ∧ p.label ∈ labels) ↔
        ∃ n : UInt32, n ≤ 8 ∧ "sprint-" ++ Text.decimal n.toNat ∈ labels) ∧
      ∀ (other_complete : Bool) (other : Metadata),
        (ofPlan complete plan).joined ", " = (ofPlan other_complete other).joined ", " ↔
          complete = other_complete ∧ positive plan.storyPoints = positive other.storyPoints ∧
            positive plan.sprint = positive other.sprint ∧
            plan.category.bind Bucket.ofCategory? = other.category.bind Bucket.ofCategory? := by
  intro labels
  refine ⟨?_, ?_, status_label_iff complete plan, fun n => ?_, fun n => ?_, fun b => ?_,
    priority_label_iff complete plan, ?_, fun other_complete other => ?_⟩
  · exact of_plan_list complete plan
  · have rules : labels = Rule.all.flatMap (Rule.labels complete plan) := of_plan_rules complete plan
    rw [rules]
    exact Rule.all_labels_nodup
  · rw [points_label_iff, positive_iff]
  · rw [sprint_label_iff, positive_iff]
  · rw [bucket_label_iff, Option.bind_eq_some_iff]
    simp only [Bucket.of_category_iff]
  · have early := early_iff (positive plan.sprint)
    simp only [labels, priority_label_iff, sprint_label_iff]
    simpa [and_comm] using early
  · rw [joined_eq_iff, of_plan_eq_iff]

end Labels

end Backlog
