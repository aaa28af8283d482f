import Mathlib.Data.List.Sort
import Mathlib.Tactic.Linarith

/-!
# Allocating from the gaps of a sorted list

A number is allocated by walking up a sorted list of used numbers in strides of
a fixed length: from the current number one stride is taken if it stays below
the next used number, and otherwise the walk continues from that used number.
The allocated number becomes the current one.

The walk is described by what is left of the list.  Its results are fresh and
strictly increasing; on numbers that are all multiples of the stride the walk
finds the least free multiple.
-/

namespace AzureShell.Alloc

/-- One allocation, from a current number and the used numbers above it. -/
def firstGap (stride : Int) : Int → List Int → Int × List Int
  | current, [] => (current + stride, [])
  | current, used :: rest =>
      if current + stride < used then (current + stride, used :: rest)
      else firstGap stride used rest

variable {stride current : Int} {rest : List Int}

/-- The current number together with the used numbers above it, in order. -/
def Ascending (current : Int) (rest : List Int) : Prop :=
  (current :: rest).Pairwise (· ≤ ·)

theorem Ascending.tail {used : Int} (ascending : Ascending current (used :: rest)) :
    Ascending used rest :=
  (List.pairwise_cons.mp ascending).2

theorem Ascending.head_le {used : Int} (ascending : Ascending current rest)
    (member : used ∈ rest) : current ≤ used :=
  (List.pairwise_cons.mp ascending).1 used member

/-- Every allocation takes at least one stride. -/
theorem firstGap_ge (ascending : Ascending current rest) :
    current + stride ≤ (firstGap stride current rest).1 := by
  induction rest generalizing current with
  | nil => exact le_refl _
  | cons used rest ih =>
      rw [firstGap]
      split
      · exact le_refl _
      · have step := ih ascending.tail
        have below := ascending.head_le List.mem_cons_self
        linarith

/-- What is left of the list lies above the allocated number. -/
theorem firstGap_lt_of_mem (ascending : Ascending current rest) {used : Int}
    (member : used ∈ (firstGap stride current rest).2) :
    (firstGap stride current rest).1 < used := by
  induction rest generalizing current with
  | nil => simp [firstGap] at member
  | cons first rest ih =>
      rw [firstGap] at member ⊢
      split at member
      · rename_i gap
        rw [if_pos gap]
        rcases List.mem_cons.mp member with rfl | later
        · exact gap
        · exact lt_of_lt_of_le gap (ascending.tail.head_le later)
      · rename_i noGap
        rw [if_neg noGap]
        exact ih ascending.tail member

/-- A used number is passed by the walk or left above it. -/
theorem firstGap_passed_or_left (positive : 0 < stride) (ascending : Ascending current rest)
    {used : Int} (member : used ∈ rest) :
    used < (firstGap stride current rest).1 ∨ used ∈ (firstGap stride current rest).2 := by
  induction rest generalizing current with
  | nil => simp at member
  | cons first rest ih =>
      rw [firstGap]
      split
      · exact Or.inr member
      · rcases List.mem_cons.mp member with rfl | later
        · have step : used + stride ≤ _ := firstGap_ge ascending.tail
          exact Or.inl (by linarith)
        · exact ih ascending.tail later

/-- An allocated number is not in use. -/
theorem firstGap_not_mem (positive : 0 < stride) (ascending : Ascending current rest) :
    (firstGap stride current rest).1 ∉ rest := by
  intro member
  rcases firstGap_passed_or_left positive ascending member with passed | left
  · exact lt_irrefl _ passed
  · exact lt_irrefl _ (firstGap_lt_of_mem ascending left)

/-- The walk continues from the allocated number in order. -/
theorem firstGap_ascending (ascending : Ascending current rest) :
    Ascending (firstGap stride current rest).1 (firstGap stride current rest).2 := by
  refine List.pairwise_cons.mpr ⟨fun used member => (firstGap_lt_of_mem ascending member).le, ?_⟩
  induction rest generalizing current with
  | nil => exact List.Pairwise.nil
  | cons first rest ih =>
      rw [firstGap]
      split
      · exact ascending.tail
      · exact ih ascending.tail

/-- On multiples of the stride the walk passes no free multiple. -/
theorem firstGap_least {number : Int} (current_dvd : stride ∣ current)
    (rest_dvd : ∀ used ∈ rest, stride ∣ used) (number_dvd : stride ∣ number)
    (above : current < number) (below : number < (firstGap stride current rest).1) :
    number ∈ rest := by
  induction rest generalizing current with
  | nil =>
      have stride_le := Int.le_of_dvd (by linarith) (Int.dvd_sub number_dvd current_dvd)
      simp only [firstGap] at below
      linarith
  | cons first rest ih =>
      rw [firstGap] at below
      split at below
      · have stride_le := Int.le_of_dvd (by linarith) (Int.dvd_sub number_dvd current_dvd)
        linarith
      · rename_i noGap
        rcases lt_trichotomy number first with less | rfl | greater
        · have stride_le := Int.le_of_dvd (by linarith) (Int.dvd_sub number_dvd current_dvd)
          have first_dvd := rest_dvd first List.mem_cons_self
          have gap_le := Int.le_of_dvd (by linarith) (Int.dvd_sub first_dvd number_dvd)
          have : stride ≤ 0 := by linarith
          linarith
        · exact List.mem_cons_self
        · exact List.mem_cons_of_mem first <|
            ih (rest_dvd first List.mem_cons_self)
              (fun used member => rest_dvd used (List.mem_cons_of_mem first member)) greater below

/-- An allocation on multiples of the stride is a multiple of the stride. -/
theorem firstGap_dvd (current_dvd : stride ∣ current) (rest_dvd : ∀ used ∈ rest, stride ∣ used) :
    stride ∣ (firstGap stride current rest).1 := by
  induction rest generalizing current with
  | nil => exact Int.dvd_add current_dvd (Int.dvd_refl stride)
  | cons first rest ih =>
      rw [firstGap]
      split
      · exact Int.dvd_add current_dvd (Int.dvd_refl stride)
      · exact ih (rest_dvd first List.mem_cons_self)
          fun used member => rest_dvd used (List.mem_cons_of_mem first member)

/-- An allocated number is one stride above the current number or a used one. -/
theorem firstGap_eq_add (stride current : Int) (rest : List Int) :
    (firstGap stride current rest).1 = current + stride ∨
      ∃ used ∈ rest, (firstGap stride current rest).1 = used + stride := by
  induction rest generalizing current with
  | nil => exact Or.inl rfl
  | cons first rest ih =>
      rw [firstGap]
      split
      · exact Or.inl rfl
      · rcases ih first with above | ⟨used, member, above⟩
        · exact Or.inr ⟨first, List.mem_cons_self, above⟩
        · exact Or.inr ⟨used, List.mem_cons_of_mem first member, above⟩

/-- What is left of the list was in it before. -/
theorem firstGap_subset (stride current : Int) (rest : List Int) :
    (firstGap stride current rest).2 ⊆ rest := by
  induction rest generalizing current with
  | nil => simp [firstGap]
  | cons first rest ih =>
      rw [firstGap]
      split
      · exact List.Subset.refl _
      · exact List.subset_cons_of_subset first (ih first)

/-! ## One allocation after the other -/

/-- The current number and what is left of the list after some allocations. -/
def gaps (stride current : Int) (rest : List Int) : Nat → Int × List Int
  | 0 => (current, rest)
  | count + 1 => firstGap stride (gaps stride current rest count).1
      (gaps stride current rest count).2

theorem gaps_ascending (ascending : Ascending current rest) (count : Nat) :
    Ascending (gaps stride current rest count).1 (gaps stride current rest count).2 := by
  induction count with
  | zero => exact ascending
  | succ count ih => exact firstGap_ascending ih

theorem gaps_subset (stride current : Int) (rest : List Int) (count : Nat) :
    (gaps stride current rest count).2 ⊆ rest := by
  induction count with
  | zero => exact List.Subset.refl _
  | succ count ih => exact List.Subset.trans (firstGap_subset _ _ _) ih

/-- Allocated numbers are at least one stride apart. -/
theorem gaps_add_le (stride : Int) (ascending : Ascending current rest) (count : Nat) :
    (gaps stride current rest count).1 + stride ≤ (gaps stride current rest (count + 1)).1 :=
  firstGap_ge (gaps_ascending ascending count)

theorem gaps_ge (positive : 0 < stride) (ascending : Ascending current rest) (count : Nat) :
    current ≤ (gaps stride current rest count).1 := by
  induction count with
  | zero => exact le_refl current
  | succ count ih =>
      have step := gaps_add_le stride ascending count
      linarith

/-- A used number has been passed by the allocations or is still ahead. -/
theorem gaps_passed_or_left (positive : 0 < stride) (ascending : Ascending current rest)
    {used : Int} (member : used ∈ rest) (count : Nat) :
    used < (gaps stride current rest count).1 ∨ used ∈ (gaps stride current rest count).2 := by
  induction count with
  | zero => exact Or.inr member
  | succ count ih =>
      rcases ih with passed | left
      · have step := gaps_add_le stride ascending count
        exact Or.inl (by linarith)
      · exact firstGap_passed_or_left positive (gaps_ascending ascending count) left

/-- No allocated number was in use at the beginning. -/
theorem gaps_not_mem (positive : 0 < stride) (ascending : Ascending current rest) (count : Nat) :
    (gaps stride current rest (count + 1)).1 ∉ rest := by
  intro member
  rcases gaps_passed_or_left positive ascending member (count + 1) with passed | left
  · exact lt_irrefl _ passed
  · exact lt_irrefl _ (firstGap_lt_of_mem (gaps_ascending ascending count) left)

/-- Every allocated number is one stride above the one before it or above a
number that was in use at the beginning. -/
theorem gaps_eq_add (stride current : Int) (rest : List Int) (count : Nat) :
    (gaps stride current rest (count + 1)).1 = (gaps stride current rest count).1 + stride ∨
      ∃ used ∈ rest, (gaps stride current rest (count + 1)).1 = used + stride := by
  rcases firstGap_eq_add stride (gaps stride current rest count).1
    (gaps stride current rest count).2 with above | ⟨used, member, above⟩
  · exact Or.inl above
  · exact Or.inr ⟨used, gaps_subset stride current rest count member, above⟩

end AzureShell.Alloc
