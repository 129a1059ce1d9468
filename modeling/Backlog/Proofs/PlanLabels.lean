import Mathlib.Data.List.Nodup
import Backlog.Discrepancy
/-!
What the labels of a plan tell of it, and what a header that disagrees would change in them.

- `Labels.Rule`: the rules that give a plan its labels, and how a label tells its rule;
- `Labels.of_plan_rules`: the labels of a plan, one rule after the other;
- `Labels.of_plan_eq_iff`: what of a plan can be told from its labels;
- `Metadata.asDeclared`: a plan with the header's word in place of the catalog's;
- `Story.silent_iff_labels_alike`: there is no discrepancy exactly when this changes no label.
-/
namespace Backlog
set_option autoImplicit false

/-! ## Texts of labels -/

namespace Text

theorem decimal_injective {m n : Nat} (h : decimal m = decimal n) : m = n := by
  have same := congrArg ofDigits h
  rwa [ofDigits_decimal, ofDigits_decimal] at same

end Text

theorem Bucket.label_injective {b other : Bucket} (h : b.label = other.label) : b = other := by
  revert h
  cases b <;> cases other <;> decide

theorem Priority.label_injective {p other : Priority} (h : p.label = other.label) : p = other := by
  revert h
  cases p <;> cases other <;> decide

namespace Labels

theorem status_injective {complete other : Bool} (h : status complete = status other) :
    complete = other := by
  revert h
  cases complete <;> cases other <;> decide

/-! ## Rules -/

/-- The rules that give a plan its labels, in their order. -/
inductive Rule where
  | base
  | status
  | points
  | sprint
  | bucket
  | priority
  deriving DecidableEq, Repr

namespace Rule

def all : List Rule := [.base, .status, .points, .sprint, .bucket, .priority]

/-- The label that a rule gives a plan, if it gives one. -/
def labels (complete : Bool) (plan : Metadata) : Rule → List Text
  | .base => [Labels.base]
  | .status => [Labels.status complete]
  | .points => numbered "sp-" (positive plan.storyPoints)
  | .sprint => numbered "sprint-" (positive plan.sprint)
  | .bucket => (plan.category.bind Bucket.ofCategory?).toList.map Bucket.label
  | .priority => [(Priority.ofSprint (positive plan.sprint)).label]

/-- The rule that a label comes from, told by how the label starts. -/
def of (label : Text) : Rule :=
  if Text.startsWith "user-" label then .base
  else if Text.startsWith "status:" label then .status
  else if Text.startsWith "sp-" label then .points
  else if Text.startsWith "sprint-" label then .sprint
  else if Text.startsWith "priority:" label then .priority
  else .bucket

theorem mem_all (r : Rule) : r ∈ all := by cases r <;> decide

theorem of_base : of Labels.base = .base := by decide

theorem of_status (complete : Bool) : of (Labels.status complete) = .status := by
  cases complete <;> decide

theorem of_points (t : Text) : of ("sp-" ++ t) = .points := rfl

theorem of_sprint (t : Text) : of ("sprint-" ++ t) = .sprint := rfl

theorem of_bucket (b : Bucket) : of b.label = .bucket := by cases b <;> decide

theorem of_priority (p : Priority) : of p.label = .priority := by cases p <;> decide

theorem mem_numbered {lead l : Text} {n : Option UInt32} :
    l ∈ numbered lead n ↔ ∃ w, n = some w ∧ l = lead ++ Text.decimal w.toNat := by
  unfold numbered
  cases n with
  | none => simp
  | some w => simp

variable {complete : Bool} {plan : Metadata}

/-- A label tells the rule that gave it. -/
theorem of_mem_labels {r : Rule} {l : Text} (h : l ∈ r.labels complete plan) : of l = r := by
  cases r with
  | base => rw [List.mem_singleton.1 h, of_base]
  | status => rw [List.mem_singleton.1 h, of_status]
  | points =>
    obtain ⟨w, -, rfl⟩ := mem_numbered.1 h
    exact of_points _
  | sprint =>
    obtain ⟨w, -, rfl⟩ := mem_numbered.1 h
    exact of_sprint _
  | bucket =>
    obtain ⟨b, -, rfl⟩ := List.mem_map.1 h
    exact of_bucket b
  | priority => rw [List.mem_singleton.1 h, of_priority]

theorem labels_nodup (r : Rule) : (r.labels complete plan).Nodup := by
  have single {α : Type} (o : Option α) (label : α → Text) : (o.toList.map label).Nodup := by
    cases o <;> simp
  cases r with
  | base | status | priority => exact List.nodup_singleton _
  | points | sprint | bucket => exact single _ _

/-- No two rules give the same label. -/
theorem all_labels_nodup : (all.flatMap (labels complete plan)).Nodup := by
  rw [List.nodup_flatMap]
  refine ⟨fun r _ => r.labels_nodup, ?_⟩
  have apart : all.Pairwise (· ≠ ·) := by decide
  refine apart.imp fun ne => ?_
  intro l h h'
  exact ne ((of_mem_labels h).symm.trans (of_mem_labels h'))

end Rule

/-! ## Labels of a plan -/

theorem push_fresh {ls : Labels} {a : Text} (h : a ∉ ls.toList) :
    (ls.push a).toList = ls.toList ++ [a] := by
  unfold push
  rw [if_neg (mt List.contains_iff_mem.1 h)]

/-- Labels that are all new are added as they are. -/
theorem push_all_fresh {ls : Labels} {more : List Text} (h : (ls.toList ++ more).Nodup) :
    (ls.pushAll more).toList = ls.toList ++ more := by
  induction more generalizing ls with
  | nil => exact (List.append_nil ls.toList).symm
  | cons a more ih =>
    have fresh : a ∉ ls.toList := by
      intro m
      exact (List.nodup_append.1 h).2.2 a m a List.mem_cons_self rfl
    have grown := push_fresh fresh
    have rest : ((ls.push a).toList ++ more).Nodup := by
      rwa [grown, List.append_assoc, List.singleton_append]
    have pushed : ls.pushAll (a :: more) = (ls.push a).pushAll more := rfl
    rw [pushed, ih rest, grown, List.append_assoc, List.singleton_append]

/-- The labels of a plan are those that the rules give, one after the other. -/
theorem of_plan_rules (complete : Bool) (plan : Metadata) :
    (ofPlan complete plan).toList = Rule.all.flatMap (Rule.labels complete plan) := by
  have pushed : ofPlan complete plan =
      empty.pushAll (Rule.all.flatMap (Rule.labels complete plan)) := by
    simp [ofPlan, pushAll, Rule.all, Rule.labels]
  rw [pushed]
  exact push_all_fresh Rule.all_labels_nodup

/-- Whether a label is there is settled by its own rule. -/
theorem mem_of_plan {complete : Bool} {plan : Metadata} {l : Text} :
    l ∈ (ofPlan complete plan).toList ↔ l ∈ (Rule.of l).labels complete plan := by
  rw [of_plan_rules, List.mem_flatMap]
  constructor
  · rintro ⟨r, -, h⟩
    rwa [Rule.of_mem_labels h]
  · intro h
    exact ⟨Rule.of l, Rule.mem_all _, h⟩

/-! ## What a label tells of the plan -/

theorem numbered_iff (lead : Text) (n : UInt32) (o : Option UInt32) :
    lead ++ Text.decimal n.toNat ∈ numbered lead o ↔ o = some n := by
  rw [Rule.mem_numbered]
  constructor
  · rintro ⟨w, rfl, e⟩
    have digits := Text.decimal_injective (List.append_cancel_left e)
    rw [UInt32.toNat_inj.1 digits]
  · intro planned
    exact ⟨n, planned, rfl⟩

theorem status_label_iff (complete : Bool) (plan : Metadata) (other : Bool) :
    status other ∈ (ofPlan complete plan).toList ↔ other = complete := by
  rw [mem_of_plan, Rule.of_status, Rule.labels, List.mem_singleton]
  exact ⟨status_injective, congrArg status⟩

theorem points_label_iff (complete : Bool) (plan : Metadata) (n : UInt32) :
    "sp-" ++ Text.decimal n.toNat ∈ (ofPlan complete plan).toList ↔
      positive plan.storyPoints = some n := by
  rw [mem_of_plan, Rule.of_points, Rule.labels, numbered_iff]

theorem sprint_label_iff (complete : Bool) (plan : Metadata) (n : UInt32) :
    "sprint-" ++ Text.decimal n.toNat ∈ (ofPlan complete plan).toList ↔
      positive plan.sprint = some n := by
  rw [mem_of_plan, Rule.of_sprint, Rule.labels, numbered_iff]

theorem bucket_label_iff (complete : Bool) (plan : Metadata) (b : Bucket) :
    b.label ∈ (ofPlan complete plan).toList ↔ plan.category.bind Bucket.ofCategory? = some b := by
  rw [mem_of_plan, Rule.of_bucket, Rule.labels, List.mem_map]
  constructor
  · rintro ⟨other, found, e⟩
    rw [← Bucket.label_injective e]
    exact Option.mem_toList.1 found
  · intro found
    exact ⟨b, Option.mem_toList.2 found, rfl⟩

theorem priority_label_iff (complete : Bool) (plan : Metadata) (p : Priority) :
    p.label ∈ (ofPlan complete plan).toList ↔ p = Priority.ofSprint (positive plan.sprint) := by
  rw [mem_of_plan, Rule.of_priority, Rule.labels, List.mem_singleton]
  exact ⟨Priority.label_injective, congrArg Priority.label⟩

/-- Labels tell exactly the completion, the points and the sprint that count, and the bucket. -/
theorem of_plan_eq_iff (complete other_complete : Bool) (plan other : Metadata) :
    ofPlan complete plan = ofPlan other_complete other ↔
      complete = other_complete ∧ positive plan.storyPoints = positive other.storyPoints ∧
        positive plan.sprint = positive other.sprint ∧
        plan.category.bind Bucket.ofCategory? = other.category.bind Bucket.ofCategory? := by
  constructor
  · intro same
    refine ⟨?_, Option.ext fun n => ?_, Option.ext fun n => ?_, Option.ext fun b => ?_⟩
    · rw [← status_label_iff other_complete other, ← same, status_label_iff]
    · rw [← points_label_iff complete plan n, same, points_label_iff]
    · rw [← sprint_label_iff complete plan n, same, sprint_label_iff]
    · rw [← bucket_label_iff complete plan b, same, bucket_label_iff]
  · rintro ⟨rfl, points, sprint, bucket⟩
    unfold ofPlan
    rw [points, sprint, bucket]

/-- Plans with the same points have the same labels exactly when they agree in the sprint that
counts and in the bucket. -/
theorem of_plan_alike (complete : Bool) (plan other : Metadata)
    (points : plan.storyPoints = other.storyPoints) :
    ofPlan complete plan = ofPlan complete other ↔
      positive plan.sprint = positive other.sprint ∧
        plan.category.bind Bucket.ofCategory? = other.category.bind Bucket.ofCategory? := by
  rw [of_plan_eq_iff]
  simp [points]

theorem positive_some_injective {m n : UInt32} (h : positive (some m) = positive (some n)) :
    m = n := by
  simp only [positive, Option.filter_some, decide_eq_true_eq] at h
  split at h
  next hm =>
    split at h
    next => exact Option.some.inj h
    next => exact absurd h (by simp)
  next hm =>
    split at h
    next => exact absurd h (by simp)
    next hn =>
      -- Neither number counts, so both are zero.
      rw [UInt32.lt_iff_toNat_lt, UInt32.toNat_zero] at hm hn
      refine UInt32.toNat_inj.1 ?_
      omega

end Labels

/-! ## Header and catalog -/

/-- The plan, with the declared sprint in place of a planned one and the declared category in place
of a planned one. What is declared as unknown takes the place of nothing. -/
def Metadata.asDeclared (plan : Metadata) (story : Story) : Metadata where
  sprint := plan.sprint.map fun planned => story.declaredSprint.getD planned
  storyPoints := plan.storyPoints
  category := plan.category.map fun planned =>
    if story.category = Story.unknown then planned else story.category

namespace Discrepancy

theorem of_sprints_nil_iff (declared planned : Option UInt32) :
    ofSprints declared planned = [] ↔
      Labels.positive (planned.map fun p => declared.getD p) = Labels.positive planned := by
  cases planned with
  | none => cases declared <;> simp [ofSprints]
  | some p =>
    cases declared with
    | none => simp [ofSprints]
    | some d =>
      simp only [ofSprints, Option.map_some, Option.getD_some]
      constructor
      · intro silent
        have same : d = p := by simpa using silent
        rw [same]
      · intro alike
        rw [if_pos (Labels.positive_some_injective alike)]

theorem of_categories_nil_iff (declared : Text) (planned : Option Text) :
    ofCategories declared planned = [] ↔
      (planned.map fun p => if declared = Story.unknown then p else declared).bind
          Bucket.ofCategory? = planned.bind Bucket.ofCategory? := by
  cases planned with
  | none => simp [ofCategories]
  | some p =>
    by_cases h : declared = Story.unknown
    · simp [ofCategories, h]
    · simp [ofCategories, h]

end Discrepancy

/-- A header disagrees with the catalog exactly when its word would change the labels. -/
theorem Story.silent_iff_labels_alike (story : Story) (catalog : Catalog) :
    story.discrepancies catalog = [] ↔
      Labels.ofPlan (catalog.isComplete story.id) ((catalog.metadata story.id).asDeclared story) =
        Labels.derive story.id catalog := by
  have sprints :=
    Discrepancy.of_sprints_nil_iff story.declaredSprint (catalog.metadata story.id).sprint
  have categories :=
    Discrepancy.of_categories_nil_iff story.category (catalog.metadata story.id).category
  have alike := Labels.of_plan_alike (catalog.isComplete story.id)
    ((catalog.metadata story.id).asDeclared story) (catalog.metadata story.id) rfl
  unfold Story.discrepancies Labels.derive
  rw [List.append_eq_nil_iff, sprints, categories, alike]
  rfl

end Backlog
