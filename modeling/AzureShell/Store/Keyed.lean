import Mathlib.Data.List.Induction
import Mathlib.Data.List.Nodup

/-!
# Keyed collections

A service that stores resources under names offers three writes: create or
replace the resource of a name, delete it, and change it in place.  Here they
act on a list whose elements carry their own key, in the order the service
reports them; a written element is reported last.
-/

namespace AzureShell.Store

universe u v

variable {κ : Type u} {α : Type v} [DecidableEq κ] (key : α → κ)

/-- The element stored under a key. -/
def lookup (k : κ) (items : List α) : Option α :=
  items.find? fun item => key item = k

/-- Remove whatever is stored under a key. -/
def erase (k : κ) (items : List α) : List α :=
  items.filter fun item => key item ≠ k

/-- Create the element of a key, or replace it. -/
def upsert (item : α) (items : List α) : List α :=
  erase key (key item) items ++ [item]

/-- Change the element of a key in place. -/
def modify (k : κ) (change : α → α) (items : List α) : List α :=
  items.map fun item => if key item = k then change item else item

/-- No two stored elements share a key. -/
def Keyed (items : List α) : Prop :=
  (items.map key).Nodup

variable {key}

@[simp]
theorem mem_erase_iff {k : κ} {items : List α} {item : α} :
    item ∈ erase key k items ↔ item ∈ items ∧ key item ≠ k := by
  simp [erase]

@[simp]
theorem mem_upsert_iff {items : List α} {item other : α} :
    other ∈ upsert key item items ↔
      other = item ∨ (other ∈ items ∧ key other ≠ key item) := by
  simp [upsert, or_comm]

theorem mem_upsert_self (item : α) (items : List α) : item ∈ upsert key item items :=
  mem_upsert_iff.mpr (Or.inl rfl)

theorem erase_sublist (k : κ) (items : List α) : (erase key k items).Sublist items :=
  List.filter_sublist

theorem erase_eq_self {k : κ} {items : List α} (absent : ∀ item ∈ items, key item ≠ k) :
    erase key k items = items :=
  List.filter_eq_self.mpr fun item member => by simpa using absent item member

theorem upsert_of_absent {item : α} {items : List α}
    (absent : ∀ other ∈ items, key other ≠ key item) :
    upsert key item items = items ++ [item] := by
  rw [upsert, erase_eq_self absent]

/-- Erasing elements that a selection leaves out does not change it. -/
theorem filter_erase {selected : α → Bool} {k : κ}
    (leftOut : ∀ item, key item = k → selected item = false) (items : List α) :
    (erase key k items).filter selected = items.filter selected := by
  rw [erase, List.filter_filter]
  apply List.filter_congr
  intro item _
  by_cases same : key item = k
  · rw [leftOut item same, Bool.false_and]
  · simp [same]

/-- Writing an element does not change a selection that leaves its key out. -/
theorem filter_upsert {selected : α → Bool} {item : α}
    (leftOut : ∀ other, key other = key item → selected other = false) (items : List α) :
    (upsert key item items).filter selected = items.filter selected := by
  rw [upsert, List.filter_append, filter_erase leftOut, List.filter_singleton, leftOut item rfl]
  exact List.append_nil _

theorem Keyed.erase {items : List α} (keyed : Keyed key items) (k : κ) :
    Keyed key (Store.erase key k items) :=
  keyed.sublist ((erase_sublist k items).map key)

theorem Keyed.upsert {items : List α} (keyed : Keyed key items) (item : α) :
    Keyed key (Store.upsert key item items) := by
  rw [Keyed, Store.upsert, List.map_append, List.nodup_append]
  refine ⟨keyed.erase (key item), List.nodup_singleton _, ?_⟩
  intro k fromOld l fromNew equal
  rcases List.mem_map.mp fromOld with ⟨other, member, rfl⟩
  simp only [List.map_cons, List.map_nil, List.mem_singleton] at fromNew
  exact (mem_erase_iff.mp member).2 (equal.trans fromNew)

theorem lookup_eq_some {k : κ} {items : List α} {item : α}
    (found : lookup key k items = some item) : item ∈ items ∧ key item = k := by
  have property := List.find?_some found
  exact ⟨List.mem_of_find?_eq_some found, by simpa using property⟩

theorem lookup_eq_none_iff {k : κ} {items : List α} :
    lookup key k items = none ↔ ∀ item ∈ items, key item ≠ k := by
  simp [lookup, List.find?_eq_none]

/-- Where no two elements share a key, a lookup finds the element of the key. -/
theorem Keyed.lookup_eq_some_iff {items : List α} (keyed : Keyed key items) {k : κ} {item : α} :
    lookup key k items = some item ↔ item ∈ items ∧ key item = k := by
  constructor
  · exact lookup_eq_some
  · rintro ⟨member, rfl⟩
    cases found : lookup key (key item) items with
    | none => exact absurd rfl (lookup_eq_none_iff.mp found item member)
    | some other =>
        rcases lookup_eq_some found with ⟨otherMem, same⟩
        rw [List.inj_on_of_nodup_map keyed otherMem member same]

/-- A lookup does not depend on the order of the elements. -/
theorem Keyed.lookup_perm {items others : List α} (keyed : Keyed key items)
    (perm : others.Perm items) (k : κ) : lookup key k others = lookup key k items := by
  have keyedOthers : Keyed key others := (perm.map key).nodup_iff.mpr keyed
  apply Option.ext
  intro item
  rw [keyedOthers.lookup_eq_some_iff, keyed.lookup_eq_some_iff, perm.mem_iff]

/-- Where elements of one key are equal, a lookup depends on the set of elements
alone. -/
theorem lookup_congr {items others : List α} (same : ∀ item, item ∈ others ↔ item ∈ items)
    (consistent : ∀ item ∈ items, ∀ other ∈ items, key item = key other → item = other) (k : κ) :
    lookup key k others = lookup key k items := by
  cases found : lookup key k items with
  | none =>
      rw [lookup_eq_none_iff] at found ⊢
      exact fun item member => found item ((same item).mp member)
  | some item =>
      rcases lookup_eq_some found with ⟨itemMem, itemKey⟩
      cases foundOther : lookup key k others with
      | none => exact absurd itemKey (lookup_eq_none_iff.mp foundOther item ((same item).mpr itemMem))
      | some other =>
          rcases lookup_eq_some foundOther with ⟨otherMem, otherKey⟩
          rw [consistent item itemMem other ((same other).mp otherMem) (itemKey.trans otherKey.symm)]

theorem lookup_append (k : κ) (items others : List α) :
    lookup key k (items ++ others) = (lookup key k items).or (lookup key k others) :=
  List.find?_append

theorem lookup_isSome_iff {k : κ} {items : List α} :
    (lookup key k items).isSome ↔ ∃ item ∈ items, key item = k := by
  simp [lookup, List.find?_isSome]

@[simp]
theorem lookup_erase_self (k : κ) (items : List α) :
    lookup key k (erase key k items) = none := by
  simp [lookup_eq_none_iff]

theorem lookup_erase_of_ne {k l : κ} (different : l ≠ k) (items : List α) :
    lookup key l (erase key k items) = lookup key l items := by
  rw [lookup, lookup, erase, List.find?_filter]
  congr 1
  funext item
  by_cases found : key item = l
  · simp [found, different]
  · simp [found]

@[simp]
theorem lookup_upsert_self (item : α) (items : List α) :
    lookup key (key item) (upsert key item items) = some item := by
  have absent : (erase key (key item) items).find? (fun other => key other = key item) = none :=
    lookup_erase_self _ _
  simp [lookup, upsert, List.find?_append, absent]

theorem lookup_upsert_of_ne {k : κ} {item : α} (different : k ≠ key item) (items : List α) :
    lookup key k (upsert key item items) = lookup key k items := by
  have kept : lookup key k (erase key (key item) items) = lookup key k items :=
    lookup_erase_of_ne different items
  simp only [lookup] at kept
  simp [lookup, upsert, List.find?_append, kept, Ne.symm different]

theorem lookup_cons (k : κ) (item : α) (items : List α) :
    lookup key k (item :: items) = if key item = k then some item else lookup key k items := by
  by_cases found : key item = k <;> simp [lookup, found]

/-- After a series of writes an element is the last one written under its key,
or an old one under a key that was not written. -/
theorem mem_foldl_upsert_iff {added items : List α} {item : α} :
    item ∈ added.foldl (fun items other => upsert key other items) items ↔
      lookup key (key item) added.reverse = some item ∨
        (item ∈ items ∧ ∀ other ∈ added, key other ≠ key item) := by
  induction added using List.reverseRecOn with
  | nil => simp [lookup]
  | append_singleton added last ih =>
      rw [List.foldl_append, List.foldl_cons, List.foldl_nil, mem_upsert_iff, ih,
        List.reverse_append, List.reverse_singleton, List.singleton_append, lookup_cons]
      by_cases same : key last = key item
      · simp only [same, if_true, List.mem_append, Option.some.injEq]
        constructor
        · rintro (equal | ⟨_, different⟩)
          · exact Or.inl equal.symm
          · exact absurd rfl different
        · rintro (equal | ⟨_, different⟩)
          · exact Or.inl equal.symm
          · exact absurd same (different last (Or.inr List.mem_cons_self))
      · simp only [if_neg same, List.forall_mem_append, List.forall_mem_singleton]
        constructor
        · rintro (rfl | ⟨written | ⟨old, different⟩, _⟩)
          · exact absurd rfl same
          · exact Or.inl written
          · exact Or.inr ⟨old, different, same⟩
        · rintro (written | ⟨old, different, _⟩)
          · exact Or.inr ⟨Or.inl written, Ne.symm same⟩
          · exact Or.inr ⟨Or.inr ⟨old, different⟩, Ne.symm same⟩

theorem Keyed.foldl_upsert {items : List α} (keyed : Keyed key items) (added : List α) :
    Keyed key (added.foldl (fun items item => Store.upsert key item items) items) := by
  induction added generalizing items with
  | nil => exact keyed
  | cons item added ih => exact ih (keyed.upsert item)

/-- Writing an element again changes nothing. -/
theorem upsert_upsert_self (item : α) (items : List α) :
    upsert key item (upsert key item items) = upsert key item items := by
  simp [upsert, erase]

/-- Writing elements under pairwise different keys replaces what is stored under
them by the written elements, which come last. -/
theorem foldl_upsert_of_nodup {added : List α} (keyed : Keyed key added) (items : List α) :
    added.foldl (fun items item => upsert key item items) items =
      (items.filter fun item => added.all fun other => key item ≠ key other) ++ added := by
  induction added generalizing items with
  | nil => simp
  | cons item added ih =>
      rcases List.nodup_cons.mp keyed with ⟨fresh, keyedRest⟩
      have isFresh : (added.all fun other => key item ≠ key other) = true := by
        rw [List.all_eq_true]
        intro other member
        rw [decide_eq_true_eq]
        exact fun same => fresh (same ▸ List.mem_map_of_mem member)
      have kept : ((upsert key item items).filter fun other =>
            added.all fun later => key other ≠ key later) =
          (items.filter fun other => (item :: added).all fun later => key other ≠ key later) ++
            [item] := by
        rw [upsert, erase, List.filter_append, List.filter_filter]
        simp only [List.filter_cons, isFresh, List.filter_nil, if_true, List.all_cons,
          Bool.and_comm]
      rw [List.foldl_cons, ih keyedRest, kept, List.append_assoc]
      rfl

/-- Writing elements under new and pairwise different keys appends them. -/
theorem foldl_upsert_of_keyed {added items : List α} (keyed : Keyed key (items ++ added)) :
    added.foldl (fun items item => upsert key item items) items = items ++ added := by
  rw [Keyed, List.map_append, List.nodup_append] at keyed
  rw [foldl_upsert_of_nodup keyed.2.1, List.filter_eq_self.mpr]
  intro other member
  rw [List.all_eq_true]
  intro written writtenMem
  rw [decide_eq_true_eq]
  exact keyed.2.2 _ (List.mem_map_of_mem member) _ (List.mem_map_of_mem writtenMem)

theorem lookup_modify_self {k : κ} {change : α → α} {items : List α}
    (keeps : ∀ item, key (change item) = key item) :
    lookup key k (modify key k change items) = (lookup key k items).map change := by
  induction items with
  | nil => rfl
  | cons item items ih =>
      rw [modify, List.map_cons, lookup_cons, lookup_cons]
      by_cases found : key item = k
      · simp [found, keeps]
      · simp only [if_neg found]
        exact ih

theorem lookup_modify_of_ne {k l : κ} (different : l ≠ k) {change : α → α} {items : List α}
    (keeps : ∀ item, key (change item) = key item) :
    lookup key l (modify key k change items) = lookup key l items := by
  induction items with
  | nil => rfl
  | cons item items ih =>
      rw [modify, List.map_cons, lookup_cons, lookup_cons]
      by_cases found : key item = k
      · rw [if_pos found, keeps, found, if_neg (Ne.symm different), if_neg (Ne.symm different)]
        exact ih
      · rw [if_neg found]
        exact congrArg (fun rest => if key item = l then some item else rest) ih

/-- Erasing the elements with selected keys one after the other leaves the other
elements. -/
theorem foldl_erase_selected (selected : κ → Bool) (items : List α) :
    (items.filter fun item => selected (key item)).foldl
        (fun left item => erase key (key item) left) items =
      items.filter fun item => !selected (key item) := by
  have erased : ∀ keys left : List α,
      keys.foldl (fun left item => erase key (key item) left) left =
        left.filter fun other => keys.all fun item => key other ≠ key item := by
    intro keys
    induction keys with
    | nil => simp
    | cons item rest ih =>
        intro left
        rw [List.foldl_cons, ih, erase, List.filter_filter]
        simp [Bool.and_comm]
  rw [erased]
  apply List.filter_congr
  intro other member
  rw [Bool.eq_iff_iff, List.all_eq_true]
  simp only [decide_eq_true_eq, List.mem_filter, Bool.not_eq_true']
  constructor
  · intro kept
    rw [Bool.eq_false_iff]
    intro isSelected
    exact kept other ⟨member, isSelected⟩ rfl
  · rintro notSelected item ⟨_, isSelected⟩ same
    rw [same, isSelected] at notSelected
    contradiction

end AzureShell.Store
