import Mathlib.Order.Lattice

/-!
# Holes below the used slots

Slots are handed out by taking the least free one from a start on.  A slot that
is given back leaves a hole: a free slot below a used one.  Where there is at
most one hole, the next slot taken closes it, and where there is none the next
slot lies above all used ones.
-/

namespace AzureShell.Alloc

universe u

variable {α : Type u} [LinearOrder α]

/-- The slot is free, and every slot from the start up to it is used. -/
structure IsLeastFree (slot : α → Prop) (start : α) (used : α → Prop) (least : α) : Prop where
  isSlot : slot least
  ge : start ≤ least
  free : ¬ used least
  filled : ∀ other, slot other → start ≤ other → other < least → used other

/-- Every free slot from the start on lies above all used ones. -/
def NoHole (slot : α → Prop) (start : α) (used : α → Prop) : Prop :=
  ∀ ⦃x z⦄, slot x → start ≤ x → ¬ used x → used z → z < x

/-- Of two free slots from the start on, the second lies above all used ones. -/
def AtMostOneHole (slot : α → Prop) (start : α) (used : α → Prop) : Prop :=
  ∀ ⦃x y z⦄, slot x → slot y → start ≤ x → x < y → ¬ used x → ¬ used y → used z → z < y

variable {slot : α → Prop} {start : α} {used : α → Prop} {least : α}

theorem NoHole.atMostOneHole (noHole : NoHole slot start used) :
    AtMostOneHole slot start used := by
  intro x y z _ ySlot above below _ yFree zUsed
  exact noHole ySlot (above.trans below.le) yFree zUsed

/-- From a later start there are no more holes. -/
theorem NoHole.later (noHole : NoHole slot start used) {next : α} (le : start ≤ next) :
    NoHole slot next used :=
  fun _ _ xSlot above xFree zUsed => noHole xSlot (le.trans above) xFree zUsed

theorem AtMostOneHole.later (oneHole : AtMostOneHole slot start used) {next : α}
    (le : start ≤ next) : AtMostOneHole slot next used :=
  fun _ _ _ xSlot ySlot above below xFree yFree zUsed =>
    oneHole xSlot ySlot (le.trans above) below xFree yFree zUsed

/-- Without holes the least free slot lies above all used ones. -/
theorem NoHole.lt_of_isLeastFree (noHole : NoHole slot start used)
    (isLeast : IsLeastFree slot start used least) {z : α} (zUsed : used z) : z < least :=
  noHole isLeast.isSlot isLeast.ge isLeast.free zUsed

/-- Taking the least free slot closes the only hole. -/
theorem AtMostOneHole.fill (oneHole : AtMostOneHole slot start used)
    (isLeast : IsLeastFree slot start used least) :
    NoHole slot start fun x => x = least ∨ used x := by
  intro x z xSlot above xFree zUsed
  rw [not_or] at xFree
  have leastBelow : least < x := by
    rcases lt_trichotomy x least with below | same | above'
    · exact absurd (isLeast.filled x xSlot above below) xFree.2
    · exact absurd same xFree.1
    · exact above'
  rcases zUsed with rfl | zUsed
  · exact leastBelow
  · exact oneHole isLeast.isSlot xSlot isLeast.ge leastBelow isLeast.free xFree.2 zUsed

/-- Giving one slot back opens at most one hole. -/
theorem NoHole.giveBack (noHole : NoHole slot start used) {left : α → Prop} (old : α)
    (fewer : ∀ {x}, left x → used x) (kept : ∀ {x}, used x → x ≠ old → left x) :
    AtMostOneHole slot start left := by
  intro x y z xSlot ySlot above below xFree yFree zUsed
  have aboveY : start ≤ y := above.trans below.le
  by_cases yUsed : used y
  · -- The given back slot is `y`, so `x` was free below it before.
    have yOld : y = old := by
      by_contra different
      exact yFree (kept yUsed different)
    have xUnused : ¬ used x := fun xUsed => xFree (kept xUsed (below.trans_eq yOld).ne)
    exact absurd (noHole xSlot above xUnused yUsed) below.le.not_gt
  · exact noHole ySlot aboveY yUsed (fewer zUsed)

end AzureShell.Alloc
