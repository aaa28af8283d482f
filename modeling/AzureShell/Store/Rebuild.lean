import Mathlib.Logic.Function.Basic

/-!
# Rebuilding entries from what is permanent in them

A request names entries of a store one after the other.  For each it reports a
result and rebuilds the entry; a missing entry stays missing.  If every rebuild
keeps the permanent part of its entry and depends on nothing else, the last
request for an entry decides what it holds, and the whole list of requests is
idempotent.
-/

namespace AzureShell.Store

universe u v w x

variable {κ : Type u} {ρ : Type v} {τ : Type w} {π : Type x}

/-- A request for one entry: its key, the result where the entry is missing,
and otherwise the result and the rebuilt entry. -/
structure Rebuild (κ : Type u) (ρ : Type v) (τ : Type w) where
  key : κ
  missing : τ
  effect : ρ → τ × ρ

namespace Rebuild

/-- The rebuild keeps the permanent part of its entry and depends on it only. -/
structure KeepsPermanent (permanent : ρ → π) (rebuild : Rebuild κ ρ τ) : Prop where
  keeps : ∀ entry, permanent (rebuild.effect entry).2 = permanent entry
  depends : ∀ entry other, permanent entry = permanent other →
    rebuild.effect entry = rebuild.effect other

variable [DecidableEq κ]

/-- Carry out one request. -/
def apply (rebuild : Rebuild κ ρ τ) (entries : κ → Option ρ) : τ × (κ → Option ρ) :=
  match entries rebuild.key with
  | none => (rebuild.missing, entries)
  | some entry =>
      ((rebuild.effect entry).1,
        Function.update entries rebuild.key (some (rebuild.effect entry).2))

/-- Carry out a list of requests. -/
def applyAll : List (Rebuild κ ρ τ) → (κ → Option ρ) → List τ × (κ → Option ρ)
  | [], entries => ([], entries)
  | rebuild :: rest, entries =>
      let first := rebuild.apply entries
      let later := applyAll rest first.2
      (first.1 :: later.1, later.2)

variable {rebuild : Rebuild κ ρ τ} {rebuilds : List (Rebuild κ ρ τ)}
  {entries others : κ → Option ρ} {key : κ}

theorem apply_of_missing (missing : entries rebuild.key = none) :
    rebuild.apply entries = (rebuild.missing, entries) := by
  rw [apply, missing]

theorem apply_of_present {entry : ρ} (present : entries rebuild.key = some entry) :
    rebuild.apply entries = ((rebuild.effect entry).1,
      Function.update entries rebuild.key (some (rebuild.effect entry).2)) := by
  rw [apply, present]

theorem apply_of_ne (different : key ≠ rebuild.key) :
    (rebuild.apply entries).2 key = entries key := by
  cases present : entries rebuild.key with
  | none => rw [apply_of_missing present]
  | some entry =>
      rw [apply_of_present present]
      exact Function.update_of_ne different _ _

theorem apply_key {entry : ρ} (present : entries rebuild.key = some entry) :
    (rebuild.apply entries).2 rebuild.key = some (rebuild.effect entry).2 := by
  rw [apply_of_present present]
  exact Function.update_self _ _ _

/-- Entries no request names are left alone. -/
theorem applyAll_of_unnamed (unnamed : ∀ rebuild ∈ rebuilds, key ≠ rebuild.key) :
    (applyAll rebuilds entries).2 key = entries key := by
  induction rebuilds generalizing entries with
  | nil => rfl
  | cons rebuild rest ih =>
      have later : (applyAll rest (rebuild.apply entries).2).2 key =
          (rebuild.apply entries).2 key :=
        ih fun other member => unnamed other (List.mem_cons_of_mem rebuild member)
      exact later.trans (apply_of_ne (unnamed rebuild List.mem_cons_self))

/-! ## The permanent parts -/

variable {permanent : ρ → π}

/-- Two stores have the same entries, up to what is not permanent. -/
def SamePermanent (permanent : ρ → π) (entries others : κ → Option ρ) : Prop :=
  ∀ key, (entries key).map permanent = (others key).map permanent

theorem apply_samePermanent (keeps : rebuild.KeepsPermanent permanent)
    (entries : κ → Option ρ) : SamePermanent permanent (rebuild.apply entries).2 entries := by
  intro key
  cases present : entries rebuild.key with
  | none => rw [apply_of_missing present]
  | some entry =>
      by_cases same : key = rebuild.key
      · subst same
        rw [apply_key present, present, Option.map_some, Option.map_some, keeps.keeps]
      · rw [apply_of_ne same]

/-- No request changes a permanent part. -/
theorem applyAll_samePermanent
    (keeps : ∀ rebuild ∈ rebuilds, rebuild.KeepsPermanent permanent) (entries : κ → Option ρ) :
    SamePermanent permanent (applyAll rebuilds entries).2 entries := by
  induction rebuilds generalizing entries with
  | nil => exact fun _ => rfl
  | cons rebuild rest ih =>
      intro key
      have later := ih (fun other member => keeps other (List.mem_cons_of_mem rebuild member))
        (rebuild.apply entries).2 key
      exact later.trans (apply_samePermanent (keeps rebuild List.mem_cons_self) entries key)

/-- On stores with the same permanent parts a request has the same result and
leaves the same entry. -/
theorem apply_congr (keeps : rebuild.KeepsPermanent permanent)
    (same : SamePermanent permanent entries others) :
    (rebuild.apply entries).1 = (rebuild.apply others).1 ∧
      (rebuild.apply entries).2 rebuild.key = (rebuild.apply others).2 rebuild.key := by
  have atKey := same rebuild.key
  cases present : entries rebuild.key with
  | none =>
      have absent : others rebuild.key = none := by simpa [present] using atKey.symm
      rw [apply_of_missing present, apply_of_missing absent]
      exact ⟨rfl, present.trans absent.symm⟩
  | some entry =>
      obtain ⟨other, otherPresent, equal⟩ : ∃ other, others rebuild.key = some other ∧
          permanent other = permanent entry := by simpa [present] using atKey.symm
      have sameEffect := keeps.depends entry other equal.symm
      constructor
      · rw [apply_of_present present, apply_of_present otherPresent, sameEffect]
      · rw [apply_key present, apply_key otherPresent, sameEffect]

/-- What a request leaves can be computed from any entry with the same permanent
part. -/
theorem apply_key_of_same (keeps : rebuild.KeepsPermanent permanent)
    (same : (entries rebuild.key).map permanent = (others rebuild.key).map permanent) :
    (rebuild.apply entries).2 rebuild.key =
      (others rebuild.key).map fun entry => (rebuild.effect entry).2 := by
  cases present : entries rebuild.key with
  | none =>
      rw [present] at same
      rw [apply_of_missing present, Option.map_eq_none_iff.mp same.symm]
      exact present
  | some entry =>
      rw [present] at same
      rcases Option.map_eq_some_iff.mp same.symm with ⟨other, otherPresent, equal⟩
      rw [apply_key present, otherPresent, Option.map_some, keeps.depends other entry equal]

/-- On stores with the same permanent parts the requests have the same results
and leave the same entries under the keys they name. -/
theorem applyAll_congr (keeps : ∀ rebuild ∈ rebuilds, rebuild.KeepsPermanent permanent)
    (same : SamePermanent permanent entries others) :
    (applyAll rebuilds entries).1 = (applyAll rebuilds others).1 ∧
      ∀ rebuild ∈ rebuilds,
        (applyAll rebuilds entries).2 rebuild.key = (applyAll rebuilds others).2 rebuild.key := by
  induction rebuilds generalizing entries others with
  | nil => simp [applyAll]
  | cons rebuild rest ih =>
      have keepsFirst := keeps rebuild List.mem_cons_self
      have keepsRest : ∀ other ∈ rest, other.KeepsPermanent permanent := fun other member =>
        keeps other (List.mem_cons_of_mem rebuild member)
      have between : SamePermanent permanent (rebuild.apply entries).2 (rebuild.apply others).2 :=
        fun key => (apply_samePermanent keepsFirst entries key).trans <|
          (same key).trans (apply_samePermanent keepsFirst others key).symm
      rcases apply_congr keepsFirst same with ⟨firstResult, firstEntry⟩
      rcases ih keepsRest between with ⟨laterResults, laterEntries⟩
      refine ⟨by rw [applyAll, applyAll, firstResult, laterResults], ?_⟩
      intro named member
      rcases List.mem_cons.mp member with rfl | inRest
      · -- the entry of the first request is decided by a later request or by this one
        by_cases again : ∃ other ∈ rest, other.key = named.key
        · rcases again with ⟨other, otherMem, sameKey⟩
          have decided := laterEntries other otherMem
          rwa [sameKey] at decided
        · have unnamed : ∀ other ∈ rest, named.key ≠ other.key := by
            intro other otherMem sameKey
            exact again ⟨other, otherMem, sameKey.symm⟩
          change (applyAll rest _).2 named.key = (applyAll rest _).2 named.key
          rw [applyAll_of_unnamed unnamed, applyAll_of_unnamed unnamed, firstEntry]
      · exact laterEntries named inRest

/-- Repeating a list of requests changes nothing and has the same results. -/
theorem applyAll_idempotent (keeps : ∀ rebuild ∈ rebuilds, rebuild.KeepsPermanent permanent)
    (entries : κ → Option ρ) :
    applyAll rebuilds (applyAll rebuilds entries).2 = applyAll rebuilds entries := by
  rcases applyAll_congr keeps (applyAll_samePermanent keeps entries) with ⟨results, named⟩
  apply Prod.ext
  · exact results
  · funext key
    by_cases isNamed : ∃ rebuild ∈ rebuilds, rebuild.key = key
    · rcases isNamed with ⟨rebuild, member, rfl⟩
      exact named rebuild member
    · have unnamed : ∀ rebuild ∈ rebuilds, key ≠ rebuild.key := by
        intro rebuild member same
        exact isNamed ⟨rebuild, member, same.symm⟩
      exact applyAll_of_unnamed unnamed

end Rebuild

end AzureShell.Store
