import AzureShell.Alloc.Holes
import AzureShell.Nsg.Batch

/-!
# The priorities of a group as slots

The multiples of the priority step are the slots of a group.  A rule that is
added takes the least free slot from its start on; a rule of the same name gives
its slot back.  So a group with at most one hole never gets a second one, and a
rule under a new name leaves none.
-/

namespace AzureShell.SecurityGroupService

open Alloc

/-- Some rule has the priority. -/
def PriorityUsed (rules : List SecurityRule) (priority : Int) : Prop :=
  ∃ rule ∈ rules, rule.priority = priority

/-- The multiples of the priority step. -/
def IsSlot (priority : Int) : Prop :=
  rulePriorityIncreaseStep ∣ priority

/-- Rules with names of their own, at slots. -/
structure Slotted (rules : List SecurityRule) : Prop where
  keyed : Store.Keyed SecurityRule.name rules
  isSlot : ∀ rule ∈ rules, IsSlot rule.priority

variable {rules : List SecurityRule} {ruleData : InboundRule} {destinationAddr : Text}
  {start : Int} {sourceAddress : Text} {rule : SecurityRule}

theorem Slotted.upsert (slotted : Slotted rules) (isSlot : IsSlot rule.priority) :
    Slotted (Store.upsert SecurityRule.name rule rules) where
  keyed := slotted.keyed.upsert rule
  isSlot := by
    intro other member
    rcases Store.mem_upsert_iff.mp member with rfl | ⟨old, _⟩
    · exact isSlot
    · exact slotted.isSlot other old

theorem priorityUsed_upsert_iff {priority : Int} :
    PriorityUsed (Store.upsert SecurityRule.name rule rules) priority ↔
      priority = rule.priority ∨
        ∃ other ∈ rules, other.name ≠ rule.name ∧ other.priority = priority := by
  simp only [PriorityUsed, Store.mem_upsert_iff]
  constructor
  · rintro ⟨other, rfl | ⟨old, different⟩, rfl⟩
    · exact Or.inl rfl
    · exact Or.inr ⟨other, old, different, rfl⟩
  · rintro (rfl | ⟨other, old, different, rfl⟩)
    · exact ⟨rule, Or.inl rfl, rfl⟩
    · exact ⟨other, Or.inr ⟨old, different⟩, rfl⟩

/-- A batch of one rule takes the least free slot. -/
theorem addRules_singleton_isLeastFree (ruleData : InboundRule) (destinationAddr : Text)
    (start_isSlot : IsSlot start) (sourceAddress : Text) (slotted : Slotted rules) :
    ∃ priority, IsLeastFree IsSlot start (PriorityUsed rules) priority ∧
      addRules [ruleData] destinationAddr (some start) sourceAddress rules =
        Store.upsert SecurityRule.name
          (prepareSecurityGroupRule ruleData destinationAddr priority sourceAddress) rules := by
  obtain ⟨priority, after, yielded, unused, added⟩ :=
    addRules_singleton ruleData destinationAddr (some start) sourceAddress rules
  have existing_dvd : ∀ other ∈ rules.map SecurityRule.priority,
      rulePriorityIncreaseStep ∣ other := by
    intro other member
    rcases List.mem_map.mp member with ⟨rule, ruleMem, rfl⟩
    exact slotted.isSlot rule ruleMem
  obtain ⟨least, after', yielded', isSlot, above, taken⟩ :=
    nextPriority_least start_isSlot existing_dvd
  have same : some (priority, after) = some (least, after') := yielded.symm.trans yielded'
  cases same
  refine ⟨priority, ⟨isSlot, above, ?_, ?_⟩, added⟩
  · rintro ⟨rule, member, equal⟩
    exact unused rule member equal
  · intro other other_isSlot other_above below
    exact List.mem_map.mp (taken other other_isSlot other_above below)

/-- The rule that is replaced gives back its slot, and no other one is lost. -/
theorem exists_givenBack (slotted : Slotted rules) (name : Text) :
    ∃ old, ∀ {priority}, PriorityUsed rules priority → priority ≠ old →
      ∃ other ∈ rules, other.name ≠ name ∧ other.priority = priority := by
  cases found : Store.lookup SecurityRule.name name rules with
  | none =>
      refine ⟨0, ?_⟩
      rintro _ ⟨rule, member, rfl⟩ _
      exact ⟨rule, member, Store.lookup_eq_none_iff.mp found rule member, rfl⟩
  | some replaced =>
      refine ⟨replaced.priority, ?_⟩
      rintro _ ⟨rule, member, rfl⟩ different
      refine ⟨rule, member, fun same => ?_, rfl⟩
      have isReplaced := slotted.keyed.lookup_eq_some_iff.mpr ⟨member, same⟩
      rw [found, Option.some.injEq] at isReplaced
      rw [isReplaced] at different
      exact different rfl

/-- What a batch of one rule does to a group with at most one hole: at most one
is left, and none if the name is new. -/
theorem addRules_singleton_holes (ruleData : InboundRule) (destinationAddr : Text)
    (start_isSlot : IsSlot start) (sourceAddress : Text) (slotted : Slotted rules)
    (oneHole : AtMostOneHole IsSlot start (PriorityUsed rules)) :
    ∃ priority,
      addRules [ruleData] destinationAddr (some start) sourceAddress rules =
        Store.upsert SecurityRule.name
          (prepareSecurityGroupRule ruleData destinationAddr priority sourceAddress) rules ∧
      Slotted (addRules [ruleData] destinationAddr (some start) sourceAddress rules) ∧
      AtMostOneHole IsSlot start
        (PriorityUsed (addRules [ruleData] destinationAddr (some start) sourceAddress rules)) ∧
      ((∀ other ∈ rules, other.name ≠ nameAt ruleData priority) →
        NoHole IsSlot start
          (PriorityUsed (addRules [ruleData] destinationAddr (some start) sourceAddress rules))) := by
  obtain ⟨priority, isLeast, added⟩ :=
    addRules_singleton_isLeastFree ruleData destinationAddr start_isSlot sourceAddress slotted
  have filled := oneHole.fill isLeast
  let rule := prepareSecurityGroupRule ruleData destinationAddr priority sourceAddress
  rw [added]
  refine ⟨priority, rfl, slotted.upsert isLeast.isSlot, ?_, ?_⟩
  · rcases exists_givenBack slotted rule.name with ⟨old, kept⟩
    refine filled.giveBack old ?_ ?_
    · intro x left
      rcases priorityUsed_upsert_iff.mp left with new | ⟨other, member, _, same⟩
      · exact Or.inl new
      · exact Or.inr ⟨other, member, same⟩
    · rintro x (new | isUsed) different
      · exact priorityUsed_upsert_iff.mpr (Or.inl new)
      · exact priorityUsed_upsert_iff.mpr (Or.inr (kept isUsed different))
  · intro fresh x z xSlot above xFree zUsed
    refine filled xSlot above (fun xUsed => xFree ?_) ?_
    · rcases xUsed with new | ⟨other, member, same⟩
      · exact priorityUsed_upsert_iff.mpr (Or.inl new)
      · exact priorityUsed_upsert_iff.mpr (Or.inr ⟨other, member, fresh other member, same⟩)
    · rcases priorityUsed_upsert_iff.mp zUsed with new | ⟨other, member, _, same⟩
      · exact Or.inl new
      · exact Or.inr ⟨other, member, same⟩

/-! ## A batch into an empty group -/

/-- Nothing ahead, a batch takes the slots one after the other. -/
theorem priorityUsed_plannedRules_iff (inboundRules : List InboundRule) {current priority : Int} :
    PriorityUsed (plannedRules destinationAddr sourceAddress inboundRules (walking current []))
        priority ↔
      5 ∣ priority - current ∧ current < priority ∧
        priority ≤ current + 5 * inboundRules.length := by
  induction inboundRules generalizing current with
  | nil =>
      simp only [plannedRules, PriorityUsed, List.not_mem_nil, false_and, exists_false,
        List.length_nil, false_iff]
      omega
  | cons ruleData rest ih =>
      have step : rulePriorityIncreaseStep = 5 := rfl
      have first : PriorityUsed (plannedRules destinationAddr sourceAddress (ruleData :: rest)
          (walking current [])) priority ↔
          current + 5 = priority ∨ PriorityUsed (plannedRules destinationAddr sourceAddress rest
            (walking (current + 5) [])) priority := by
        simp [PriorityUsed, plannedRules, nextPriority_walking_nil, step, prepareSecurityGroupRule]
      rw [first, ih, List.length_cons, Nat.cast_succ]
      omega

/-- A batch of rules without names of their own leaves no hole in an empty
group. -/
theorem noHole_addRules_nil {inboundRules : List InboundRule} (destinationAddr : Text)
    (start_isSlot : IsSlot start) (sourceAddress : Text)
    (unnamed : ∀ ruleData ∈ inboundRules, truthy ruleData.name = none) :
    Slotted (addRules inboundRules destinationAddr (some start) sourceAddress []) ∧
      NoHole IsSlot start
        (PriorityUsed (addRules inboundRules destinationAddr (some start) sourceAddress [])) := by
  have used_iff : ∀ priority,
      PriorityUsed (addRules inboundRules destinationAddr (some start) sourceAddress []) priority ↔
        5 ∣ priority - (start - 5) ∧ start - 5 < priority ∧
          priority ≤ start - 5 + 5 * inboundRules.length := by
    intro priority
    rw [addRules_nil_of_unnamed unnamed, rulesToCreate, List.map_nil, Option.getD_some,
      rulePriorityGenerator_nil]
    exact priorityUsed_plannedRules_iff inboundRules
  have start_dvd : 5 ∣ start := start_isSlot
  refine ⟨⟨?_, ?_⟩, ?_⟩
  · have noRules : Store.Keyed SecurityRule.name [] := List.nodup_nil
    exact noRules.foldl_upsert _
  · intro rule member
    have isUsed := (used_iff rule.priority).mp ⟨rule, member, rfl⟩
    change 5 ∣ rule.priority
    omega
  · intro x z xSlot above xFree zUsed
    have x_dvd : 5 ∣ x := xSlot
    rw [used_iff] at xFree zUsed
    omega

end AzureShell.SecurityGroupService
