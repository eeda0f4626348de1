namespace SignalBox

/-!
# Ascending lists

Insertion into an ascending list.  Reports and stages visit identifiers and names in
ascending order and visit each one once; `Ascending.ofList` gives that order for a list
with repetitions.  The order of strings is the one of their code points.
-/

namespace Ascending

variable {α : Type} [LT α] [DecidableLT α] [DecidableEq α]

/-- Put a value before the first greater one; a value that is present is not repeated. -/
def insert (value : α) : List α → List α
  | [] => [value]
  | head :: rest =>
    if value < head then value :: head :: rest
    else if value = head then head :: rest
    else head :: insert value rest

/-- The distinct values of a list, in ascending order. -/
def ofList (values : List α) : List α :=
  values.foldr insert []

theorem mem_insert (value other : α) (values : List α) :
    other ∈ insert value values ↔ other = value ∨ other ∈ values := by
  induction values with
  | nil => simp [insert]
  | cons head rest inductionHypothesis =>
    simp only [insert]
    split
    · simp
    · split
      · next same => subst same; simp
      · simp only [List.mem_cons, inductionHypothesis]
        constructor
        · rintro (first | first | later)
          · exact Or.inr (Or.inl first)
          · exact Or.inl first
          · exact Or.inr (Or.inr later)
        · rintro (first | first | later)
          · exact Or.inr (Or.inl first)
          · exact Or.inl first
          · exact Or.inr (Or.inr later)

theorem mem_ofList (value : α) (values : List α) :
    value ∈ ofList values ↔ value ∈ values := by
  induction values with
  | nil => simp [ofList]
  | cons head rest inductionHypothesis =>
    have unfolded : ofList (head :: rest) = insert head (ofList rest) := rfl
    rw [unfolded, mem_insert, inductionHypothesis, List.mem_cons]

section Order

variable [LE α] [Std.IsLinearOrder α] [Std.LawfulOrderLT α]

/-- What is put into an ascending list stands behind all smaller values and before all
greater ones. -/
theorem pairwise_insert (value : α) {values : List α} (ascending : values.Pairwise (· < ·)) :
    (insert value values).Pairwise (· < ·) := by
  induction values with
  | nil => exact List.pairwise_singleton _ value
  | cons head rest inductionHypothesis =>
    have tail := List.pairwise_cons.1 ascending
    rw [insert]
    split
    · next less =>
      refine List.pairwise_cons.2 ⟨fun other member => ?_, ascending⟩
      rcases List.mem_cons.1 member with rfl | later
      · exact less
      · exact Std.lt_trans less (tail.1 other later)
    · next notLess =>
      split
      · exact ascending
      · next different =>
        have greater : head < value := by
          rcases Std.lt_trichotomy value head with less | same | greater
          · exact absurd less notLess
          · exact absurd same different
          · exact greater
        refine List.pairwise_cons.2 ⟨fun other member => ?_, inductionHypothesis tail.2⟩
        rcases (mem_insert value other rest).1 member with rfl | later
        · exact greater
        · exact tail.1 other later

theorem pairwise_ofList (values : List α) : (ofList values).Pairwise (· < ·) := by
  induction values with
  | nil => exact List.Pairwise.nil
  | cons head rest inductionHypothesis => exact pairwise_insert head inductionHypothesis

theorem nodup_ofList (values : List α) : (ofList values).Nodup := by
  refine (pairwise_ofList values).imp ?_
  rintro first second less rfl
  exact Std.lt_irrefl less

/-- An ascending list of distinct values is determined by its members. -/
theorem ofList_congr {first second : List α} (same : ∀ value, value ∈ first ↔ value ∈ second) :
    ofList first = ofList second := by
  refine List.Perm.eq_of_pairwise ?_ (pairwise_ofList first)
    (pairwise_ofList second) ?_
  · intro one other _ _ less greater
    exact absurd (Std.lt_trans less greater) Std.lt_irrefl
  · refine (List.perm_ext_iff_of_nodup (nodup_ofList first) (nodup_ofList second)).2 fun value => ?_
    rw [mem_ofList, mem_ofList, same]

theorem ofList_perm {values : List α} (distinct : values.Nodup) : (ofList values).Perm values :=
  (List.perm_ext_iff_of_nodup (nodup_ofList values) distinct).2 fun value =>
    mem_ofList value values

end Order

end Ascending

end SignalBox
