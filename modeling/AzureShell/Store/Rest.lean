import AzureShell.Store.Keyed

/-!
# The rest of a keyed collection

A set of keys splits a collection into the elements under these keys and the
rest.  A write under one of the keys leaves the rest, in its order.  So two
collections without elements under these keys that differ by such writes only
are equal.
-/

namespace AzureShell.Store

universe u v

variable {κ : Type u} {α : Type v}

open Classical in
/-- The elements whose keys are not in the set, in their order. -/
noncomputable def rest (key : α → κ) (own : κ → Prop) (items : List α) : List α :=
  items.filter fun item => decide (¬ own (key item))

variable {key : α → κ} {own : κ → Prop} {items : List α}

theorem mem_rest_iff {item : α} : item ∈ rest key own items ↔ item ∈ items ∧ ¬ own (key item) := by
  simp [rest]

theorem rest_cons_of_own {item : α} (isOwn : own (key item)) (items : List α) :
    rest key own (item :: items) = rest key own items := by
  simp [rest, isOwn]

theorem rest_cons_of_not_own {item : α} (notOwn : ¬ own (key item)) (items : List α) :
    rest key own (item :: items) = item :: rest key own items := by
  simp [rest, notOwn]

theorem rest_eq_self (absent : ∀ item ∈ items, ¬ own (key item)) : rest key own items = items := by
  rw [rest, List.filter_eq_self]
  intro item member
  simp [absent item member]

variable [DecidableEq κ] {k : κ}

theorem rest_erase (own : κ → Prop) (isOwn : own k) (items : List α) :
    rest key own (erase key k items) = rest key own items := by
  rw [rest, erase, List.filter_filter]
  apply List.filter_congr
  intro item _
  by_cases ownItem : own (key item)
  · simp [ownItem]
  · have different : key item ≠ k := fun same => ownItem (same ▸ isOwn)
    simp [different]

theorem rest_upsert (own : κ → Prop) {item : α} (isOwn : own (key item)) (items : List α) :
    rest key own (upsert key item items) = rest key own items := by
  have added : rest key own [item] = [] := by simp [rest, isOwn]
  calc
    rest key own (upsert key item items) =
        rest key own (erase key (key item) items) ++ rest key own [item] := List.filter_append ..
    _ = rest key own items := by rw [rest_erase own isOwn, added, List.append_nil]

/-- A change in place that does not show in the rest under a view of the elements. -/
theorem map_rest_modify {β : Type*} {view : α → β} {change : α → α}
    (sameKey : ∀ item, key (change item) = key item)
    (sameView : ¬ own k → ∀ item, key item = k → view (change item) = view item) (items : List α) :
    (rest key own (modify key k change items)).map view = (rest key own items).map view := by
  induction items with
  | nil => rfl
  | cons item later ih =>
      have changed : key (if key item = k then change item else item) = key item := by
        split
        · exact sameKey item
        · rfl
      rw [modify, List.map_cons]
      by_cases isOwn : own (key item)
      · rw [rest_cons_of_own (changed.symm ▸ isOwn), rest_cons_of_own isOwn]
        exact ih
      · rw [rest_cons_of_not_own (changed.symm ▸ isOwn), rest_cons_of_not_own isOwn, List.map_cons,
          List.map_cons]
        have sameItem : view (if key item = k then change item else item) = view item := by
          split
          · rename_i same
            exact sameView (same ▸ isOwn) item same
          · rfl
        rw [sameItem]
        exact congrArg (view item :: ·) ih

end AzureShell.Store
