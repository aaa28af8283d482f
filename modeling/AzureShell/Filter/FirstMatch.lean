import Mathlib.Data.List.Sort

/-!
# Filters by priority

A filter is a list of entries with priorities; the verdict on a packet is that
of the matching entry with the smallest priority.  What decides a verdict is
therefore only which entries match and how the priorities of entries with
different actions compare.
-/

namespace AzureShell.Filter

universe u v w

variable {ε : Type u} {π : Type v} {δ : Type w}
variable (priority : ε → Int) (covers : ε → π → Bool) (action : ε → δ)

/-- The action of the first entry, by ascending priority, that covers a packet. -/
def verdict (entries : List ε) (packet : π) : Option δ :=
  ((entries.insertionSort fun a b => priority a ≤ priority b).find? (covers · packet)).map action

variable {priority covers action} {entries : List ε} {packet : π} {d : δ}

private theorem find_sorted {first : ε} {sorted : List ε}
    (ascending : sorted.Pairwise fun a b => priority a ≤ priority b)
    (found : sorted.find? (covers · packet) = some first) :
    ∀ entry ∈ sorted, covers entry packet = true → priority first ≤ priority entry := by
  induction sorted with
  | nil => simp at found
  | cons head rest ih =>
      rcases List.pairwise_cons.mp ascending with ⟨headLe, restAscending⟩
      cases headCovers : covers head packet with
      | true =>
          have firstIsHead : head = first := by simpa [headCovers] using found
          subst firstIsHead
          intro entry member _
          rcases List.mem_cons.mp member with rfl | later
          · exact le_rfl
          · exact headLe entry later
      | false =>
          have foundLater : rest.find? (covers · packet) = some first := by
            simpa [headCovers] using found
          intro entry member entryCovers
          rcases List.mem_cons.mp member with rfl | later
          · rw [headCovers] at entryCovers
            contradiction
          · exact ih restAscending foundLater entry later entryCovers

/-- If some entry covers the packet, and every covering entry with an action
other than `d` comes after some covering entry, then the verdict is `d`. -/
theorem verdict_eq_some {witness : ε} (member : witness ∈ entries)
    (witnessCovers : covers witness packet = true)
    (others : ∀ entry ∈ entries, covers entry packet = true → action entry ≠ d →
      ∃ earlier ∈ entries, covers earlier packet = true ∧ priority earlier < priority entry) :
    verdict priority covers action entries packet = some d := by
  let sorted := entries.insertionSort fun a b => priority a ≤ priority b
  have ascending : sorted.Pairwise fun a b => priority a ≤ priority b := by
    apply List.pairwise_insertionSort
  have mem_sorted : ∀ entry, entry ∈ sorted ↔ entry ∈ entries := fun entry =>
    List.mem_insertionSort _
  change (sorted.find? (covers · packet)).map action = some d
  cases found : sorted.find? (covers · packet) with
  | none =>
      have notCovered := List.find?_eq_none.mp found witness ((mem_sorted witness).mpr member)
      exact absurd witnessCovers notCovered
  | some first =>
      have firstMember := (mem_sorted first).mp (List.mem_of_find?_eq_some found)
      have firstCovers : covers first packet = true := by
        simpa using List.find?_some found
      by_cases firstAction : action first = d
      · exact congrArg some firstAction
      · obtain ⟨earlier, earlierMember, earlierCovers, less⟩ :=
          others first firstMember firstCovers firstAction
        have least := find_sorted ascending found earlier
          ((mem_sorted earlier).mpr earlierMember) earlierCovers
        exact absurd less (not_lt.mpr least)

/-- If some entry covers the packet and all entries that do have action `d`,
then the verdict is `d`, whatever the priorities. -/
theorem verdict_eq_some_of_forall {witness : ε} (member : witness ∈ entries)
    (witnessCovers : covers witness packet = true)
    (agree : ∀ entry ∈ entries, covers entry packet = true → action entry = d) :
    verdict priority covers action entries packet = some d := by
  apply verdict_eq_some member witnessCovers
  intro entry entryMember entryCovers different
  exact absurd (agree entry entryMember entryCovers) different

end AzureShell.Filter
