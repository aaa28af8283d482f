import Mathlib.Data.List.Sort

/-!
# Stable sorting by a key

A list is stably sorted by a key when the keys ascend along it and the elements
of each key stand in their old order.  Sorting by insertion is stable.
-/

namespace AzureShell.Store

universe u v

variable {α : Type u} {κ : Type v} [DecidableEq κ]

/-- `sorted` holds the elements of `items` in the order of their keys, those of
one key in the order of `items`. -/
structure StablySorted (le : κ → κ → Prop) (key : α → κ) (items sorted : List α) : Prop where
  ascending : sorted.Pairwise fun first second => le (key first) (key second)
  stable : ∀ k, sorted.filter (key · = k) = items.filter (key · = k)

variable {le : κ → κ → Prop} {key : α → κ} {items sorted : List α}

/-- A stably sorted list has the elements of the old one. -/
theorem StablySorted.mem_iff (stably : StablySorted le key items sorted) {item : α} :
    item ∈ sorted ↔ item ∈ items := by
  have sameKey := congrArg (item ∈ ·) (stably.stable (key item))
  simpa using sameKey

/-- Sorting by insertion is stable. -/
theorem stablySorted_insertionSort [DecidableRel le] (total : ∀ k l, le k l ∨ le l k)
    (trans : ∀ k l m, le k l → le l m → le k m) (items : List α) :
    StablySorted le key items
      (items.insertionSort fun first second => le (key first) (key second)) where
  ascending := by
    have : Std.Total fun first second : α => le (key first) (key second) :=
      ⟨fun first second => total (key first) (key second)⟩
    have : IsTrans α fun first second => le (key first) (key second) :=
      ⟨fun first second third => trans (key first) (key second) (key third)⟩
    exact List.pairwise_insertionSort _ items
  stable := by
    intro k
    let r := fun first second : α => le (key first) (key second)
    have oneKey : (items.filter (key · = k)).Pairwise r := by
      rw [List.pairwise_filter, List.pairwise_iff_forall_sublist]
      intro first second _ firstKey secondKey
      simp only [decide_eq_true_eq] at firstKey secondKey
      simp only [r, firstKey, secondKey]
      exact (total k k).elim id id
    have inOrder : (items.filter (key · = k)).Sublist
        ((items.insertionSort r).filter (key · = k)) := by
      have kept := (List.sublist_insertionSort oneKey List.filter_sublist).filter (key · = k)
      simpa [List.filter_filter] using kept
    have sameLength := ((List.perm_insertionSort r items).filter (key · = k)).length_eq
    exact (inOrder.eq_of_length sameLength.symm).symm

end AzureShell.Store
