namespace SignalBox
namespace Lists

/-!
# Lists

Facts about lists that are not in the library and say nothing about interlockings: lists in which
each value stands once, the items of a list that are chosen or grouped by their keys, and the
places at which a list is split.
-/

variable {α β κ : Type}

/-! ## Each value once -/

section Distinct

variable [BEq α] [LawfulBEq α]

theorem nodup_eraseDups : (values : List α) → values.eraseDups.Nodup
  | [] => List.nodup_nil
  | value :: rest => by
    rw [List.eraseDups_cons, List.nodup_cons, List.mem_eraseDups, List.mem_filter]
    refine ⟨fun kept => ?_, nodup_eraseDups (rest.filter fun other => !other == value)⟩
    rw [beq_self_eq_true] at kept
    exact absurd kept.2 Bool.false_ne_true
  termination_by values => values.length
  decreasing_by exact Nat.lt_succ_of_le (List.length_filter_le _ _)

theorem eraseDups_of_nodup {values : List α} (distinct : values.Nodup) :
    values.eraseDups = values := by
  induction values with
  | nil => rfl
  | cons value rest inductionHypothesis =>
    rw [List.nodup_cons] at distinct
    have others : rest.filter (fun other => !other == value) = rest := by
      refine List.filter_eq_self.2 fun other member => ?_
      rw [Bool.not_eq_true', beq_eq_false_iff_ne]
      rintro rfl
      exact distinct.1 member
    rw [List.eraseDups_cons, others, inductionHypothesis distinct.2]

/-- A value at the end is kept if it has not been there before. -/
theorem eraseDups_concat (values : List α) (value : α) :
    (values ++ [value]).eraseDups =
      values.eraseDups ++ if value ∈ values then [] else [value] := by
  rw [List.eraseDups_append, List.removeAll, List.filter_cons, List.filter_nil]
  by_cases known : value ∈ values
  · simp [known]
  · simp [known, List.eraseDups_cons]

/-- An item whose key no other item has leaves the keys distinct. -/
theorem nodup_map_concat {key : β → α} {items : List β} {item : β}
    (distinct : (items.map key).Nodup)
    (new : items.find? (fun other => key other == key item) = none) :
    ((items ++ [item]).map key).Nodup := by
  rw [List.map_append, List.nodup_append]
  refine ⟨distinct, List.pairwise_singleton _ _, ?_⟩
  intro value member last single same
  rcases List.mem_map.1 member with ⟨other, listed, rfl⟩
  rw [List.map_singleton, List.mem_singleton] at single
  exact List.find?_eq_none.1 new other listed (beq_iff_eq.2 (same.trans single))

end Distinct

/-! ## Chosen items -/

/-- What is collected from chosen items is collected from all of them, where the others give
nothing. -/
theorem flatMap_filter (keep : α → Bool) (collect : α → List β) (items : List α) :
    (items.filter keep).flatMap collect =
      items.flatMap fun item => if keep item then collect item else [] := by
  induction items with
  | nil => rfl
  | cons item rest inductionHypothesis =>
    rw [List.flatMap_cons, ← inductionHypothesis, List.filter_cons]
    split
    · rw [List.flatMap_cons]
    · rw [List.nil_append]

theorem flatMap_ite (keep : α → Prop) [DecidablePred keep] (items : List α) :
    (items.flatMap fun item => if keep item then [item] else []) = items.filter keep := by
  calc
    _ = items.flatMap fun item => if decide (keep item) then [item] else [] := by
      simp only [decide_eq_true_eq]
    _ = (items.filter keep).flatMap fun item => [item] := (flatMap_filter _ _ items).symm
    _ = items.filter keep := List.flatMap_singleton' _

theorem mapM_eq_some_map {step : α → Option β} {result : α → β} {items : List α}
    (reads : ∀ item, item ∈ items → step item = some (result item)) :
    items.mapM step = some (items.map result) := by
  induction items with
  | nil => rfl
  | cons item rest inductionHypothesis =>
    rw [List.forall_mem_cons] at reads
    rw [List.mapM_cons, reads.1, inductionHypothesis reads.2]
    rfl

section Keyed

variable [BEq κ] [LawfulBEq κ]

/-- Where each item has one key, the items of several keys are collected key by key. -/
theorem flatMap_filter_perm (key : α → κ) (items : List α) {keys : List κ} (nodup : keys.Nodup) :
    (keys.flatMap fun own => items.filter fun item => key item == own).Perm
      (items.filter fun item => keys.contains (key item)) := by
  induction keys with
  | nil => exact List.Perm.of_eq (List.filter_eq_nil_iff.2 fun item _ => Bool.false_ne_true).symm
  | cons first rest inductionHypothesis =>
    rcases List.nodup_cons.1 nodup with ⟨new, distinct⟩
    have own : ((items.filter fun item => (first :: rest).contains (key item)).filter
        fun item => key item == first) = items.filter fun item => key item == first := by
      rw [List.filter_filter]
      refine List.filter_congr fun item _ => ?_
      cases same : key item == first with
      | false => rfl
      | true => rw [List.contains_cons, same, Bool.true_or, Bool.true_and]
    have others : ((items.filter fun item => (first :: rest).contains (key item)).filter
        fun item => !(key item == first)) = items.filter fun item => rest.contains (key item) := by
      rw [List.filter_filter]
      refine List.filter_congr fun item _ => ?_
      cases same : key item == first with
      | false => rw [List.contains_cons, same, Bool.false_or, Bool.not_false, Bool.true_and]
      | true =>
        rw [Bool.not_true, Bool.false_and, eq_of_beq same, eq_comm, List.contains_eq_mem]
        exact decide_eq_false new
    have parted := List.filter_append_perm (fun item => key item == first)
      (items.filter fun item => (first :: rest).contains (key item))
    rw [own, others] at parted
    exact ((inductionHypothesis distinct).append_left _).trans parted

/-- Of distinct keys, one item at most has a given one, so no order of the items is left. -/
theorem filter_eq_of_perm {key : α → κ} {first second : List α}
    (perm : first.Perm second) (distinct : (first.map key).Nodup) (wanted : κ) :
    first.filter (fun item => key item == wanted) =
      second.filter fun item => key item == wanted := by
  have filtered := perm.filter fun item => key item == wanted
  cases found : first.filter fun item => key item == wanted with
  | nil =>
    rw [found] at filtered
    exact filtered.nil_eq
  | cons item rest =>
    cases rest with
    | nil =>
      rw [found] at filtered
      exact (List.perm_singleton.1 filtered.symm).symm
    | cons other rest =>
      have apart : (((item :: other :: rest).map key)).Nodup :=
        found ▸ (distinct.sublist (List.filter_sublist.map key))
      have kept : ∀ one, one ∈ item :: other :: rest → key one = wanted := by
        intro one member
        rw [← found] at member
        exact beq_iff_eq.1 (List.mem_filter.1 member).2
      rw [List.map_cons, List.map_cons, kept item List.mem_cons_self,
        kept other (List.mem_cons_of_mem item List.mem_cons_self)] at apart
      exact absurd List.mem_cons_self (List.nodup_cons.1 apart).1

end Keyed

/-! ## Places in a list -/

/-- Two ways to split a list at an element are the same, or one is in front of the other. -/
theorem split_cases {first second other others : List α} {element another : α}
    (same : first ++ element :: second = other ++ another :: others) :
    (first = other ∧ element = another ∧ second = others) ∨
      (∃ between, other = first ++ element :: between ∧ second = between ++ another :: others) ∨
      ∃ between, first = other ++ another :: between ∧ others = between ++ element :: second := by
  rcases List.append_eq_append_iff.1 same with ⟨between, rfl, rest⟩ | ⟨between, rfl, rest⟩
  · cases between with
    | nil =>
      cases rest
      exact .inl ⟨(List.append_nil _).symm, rfl, rfl⟩
    | cons head tail =>
      cases rest
      exact .inr (.inl ⟨tail, rfl, rfl⟩)
  · cases between with
    | nil =>
      cases rest
      exact .inl ⟨List.append_nil _, rfl, rfl⟩
    | cons head tail =>
      cases rest
      exact .inr (.inr ⟨tail, rfl, rfl⟩)

/-- From the end of a list the last choice is found, behind which nothing is chosen. -/
theorem findSome?_reverse_eq_some_iff {choose : α → Option β}
    {items : List α} {value : β} :
    items.reverse.findSome? choose = some value ↔
      ∃ before item after, items = before ++ item :: after ∧ choose item = some value ∧
        ∀ later, later ∈ after → choose later = none := by
  rw [List.findSome?_eq_some_iff]
  constructor
  · rintro ⟨after, item, before, split, chosen, none⟩
    refine ⟨before.reverse, item, after.reverse, ?_, chosen, fun later listed =>
      none later (List.mem_reverse.1 listed)⟩
    rw [List.reverse_eq_append_iff] at split
    simpa using split
  · rintro ⟨before, item, after, rfl, chosen, none⟩
    refine ⟨after.reverse, item, before.reverse, by simp, chosen, fun later listed =>
      none later (List.mem_reverse.1 listed)⟩

/-- A run ends where another item comes. -/
theorem takeWhile_replicate_append [BEq α] [LawfulBEq α] {letter : α} {text : List α} (count : Nat)
    (apart : ∀ head ∈ text.head?, head ≠ letter) :
    (List.replicate count letter ++ text).takeWhile (· == letter) = List.replicate count letter ∧
      (List.replicate count letter ++ text).dropWhile (· == letter) = text := by
  have run : ∀ other ∈ List.replicate count letter, (other == letter) = true := by
    intro other member
    exact beq_iff_eq.2 (List.eq_of_mem_replicate member)
  rw [List.takeWhile_append_of_pos run, List.dropWhile_append_of_pos run]
  cases text with
  | nil => simp
  | cons head tail => simp [apart head rfl]

end Lists
end SignalBox
