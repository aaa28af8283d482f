import AzureShell.Nsg.Service

/-!
# Programs that rewrite the rules of a group

A sequence of rule creations turns the rules of its group into a function of
the rules it found.  The rules below follow such sequences: each writer has an
effect on the list of rules, effects compose, and no writer touches anything
besides the rules of its group.
-/

namespace AzureShell

open Prog SecurityGroupService

variable {strict : Bool} {nsg : Text}

/-- Two states differ at most in the rules of one group and in the log of
creations. -/
structure OnlyRules (nsg : Text) (before after : Azure) : Prop where
  rest : after = { before with
    networkSecurityGroups := after.networkSecurityGroups
    created := after.created }
  others : ∀ other, other ≠ nsg → after.rulesOf other = before.rulesOf other

theorem OnlyRules.refl (azure : Azure) : OnlyRules nsg azure azure where
  rest := rfl
  others := fun _ _ => rfl

theorem OnlyRules.trans {first second third : Azure} (before : OnlyRules nsg first second)
    (after : OnlyRules nsg second third) : OnlyRules nsg first third where
  rest := by
    rw [after.rest, before.rest]
  others := fun other different =>
    (after.others other different).trans (before.others other different)

/-- On a state in which the group exists the program ends well, applies
`change` to the rules of the group, and leaves everything else alone. -/
def Rewrites (strict : Bool) (nsg : Text) (program : Shell Unit)
    (change : List SecurityRule → List SecurityRule) : Prop :=
  ∀ azure rules, azure.rulesOf nsg = some rules →
    ∃ after, run (Azure.handle strict) program azure = (.ok (), after) ∧
      after.rulesOf nsg = some (change rules) ∧ OnlyRules nsg azure after

namespace Rewrites

theorem pure : Rewrites strict nsg (pure ()) id := by
  intro azure rules present
  exact ⟨azure, rfl, present, OnlyRules.refl azure⟩

/-- What follows a writer runs on the rewritten rules. -/
theorem run_bind {β : Type} {program : Shell Unit}
    {change : List SecurityRule → List SecurityRule} (rewrites : Rewrites strict nsg program change)
    {azure : Azure} {rules : List SecurityRule} (present : azure.rulesOf nsg = some rules)
    (rest : Shell β) :
    ∃ after, run (Azure.handle strict) (program >>= fun _ => rest) azure =
        run (Azure.handle strict) rest after ∧
      after.rulesOf nsg = some (change rules) ∧ OnlyRules nsg azure after := by
  rcases rewrites azure rules present with ⟨after, programRun, rewritten, frame⟩
  exact ⟨after, run_bind_of_ok programRun, rewritten, frame⟩

/-- One writer after another. -/
theorem bind {first second : Shell Unit}
    {change changeAfter : List SecurityRule → List SecurityRule}
    (firstRewrites : Rewrites strict nsg first change)
    (secondRewrites : Rewrites strict nsg second changeAfter) :
    Rewrites strict nsg (first >>= fun _ => second) (changeAfter ∘ change) := by
  intro azure rules present
  rcases firstRewrites.run_bind present second with ⟨between, firstRun, firstRules, firstFrame⟩
  rcases secondRewrites between _ firstRules with ⟨after, secondRun, secondRules, secondFrame⟩
  exact ⟨after, firstRun.trans secondRun, secondRules, firstFrame.trans secondFrame⟩

/-- A loop of writers folds their effects. -/
theorem forEach {β : Type} {items : List β} {body : β → Shell Unit}
    {change : β → List SecurityRule → List SecurityRule}
    (round : ∀ item ∈ items, Rewrites strict nsg (body item) (change item)) :
    Rewrites strict nsg (forEach items body)
      fun rules => items.foldl (fun rules item => change item rules) rules := by
  induction items with
  | nil => exact pure
  | cons item rest ih =>
      have first := round item List.mem_cons_self
      have later := ih fun other member => round other (List.mem_cons_of_mem item member)
      exact first.bind later

/-- A writer that only acts under a condition. -/
theorem when {condition : Prop} [Decidable condition] {program : Shell Unit}
    {change : List SecurityRule → List SecurityRule}
    (rewrites : Rewrites strict nsg program change) :
    Rewrites strict nsg (when condition program) (if condition then change else id) := by
  unfold Prog.when
  split
  · exact rewrites
  · exact pure

end Rewrites

namespace SecurityGroupService

open Alloc

/-- The rules a group holds after `create_network_security_group_rules`. -/
def addRules (inboundRules : List InboundRule) (destinationAddr : Text)
    (startFrom : Option Int) (sourceAddress : Text) (rules : List SecurityRule) :
    List SecurityRule :=
  Azure.upsertAll (rulesToCreate rules inboundRules destinationAddr startFrom sourceAddress) rules

theorem onlyRules_putRules (azure : Azure) (added : List SecurityRule) :
    OnlyRules nsg azure (azure.putRules nsg added) where
  rest := by
    induction added generalizing azure with
    | nil => rfl
    | cons rule added ih => exact ih (azure.putRule nsg rule)
  others := fun _ different => azure.rulesOf_putRules_of_ne different added

/-- Rule creation is a writer of its group. -/
theorem createNetworkSecurityGroupRules_rewrites (inboundRules : List InboundRule)
    (destinationAddr : Text) (lock : LockName) (startFrom : Option Int) (sourceAddress : Text) :
    Rewrites strict nsg
      (createNetworkSecurityGroupRules nsg inboundRules destinationAddr lock startFrom
        sourceAddress)
      (addRules inboundRules destinationAddr startFrom sourceAddress) := by
  intro azure rules present
  let added := rulesToCreate rules inboundRules destinationAddr startFrom sourceAddress
  refine ⟨azure.putRules nsg added, ?_, ?_, onlyRules_putRules azure added⟩
  · exact run_createNetworkSecurityGroupRules present inboundRules lock startFrom
  · rw [Azure.rulesOf_putRules_self, present]
    rfl

/-! ## The rules in a batch -/

variable {inboundRules : List InboundRule} {destinationAddr sourceAddress : Text}
  {startFrom : Option Int} {rules : List SecurityRule} {rule : SecurityRule}

theorem mem_plannedRules {generator : PriorityGenerator}
    (member : rule ∈ plannedRules destinationAddr sourceAddress inboundRules generator) :
    ∃ ruleData ∈ inboundRules, ∃ priority,
      rule = prepareSecurityGroupRule ruleData destinationAddr priority sourceAddress := by
  induction inboundRules generalizing generator with
  | nil => simp [plannedRules] at member
  | cons ruleData rest ih =>
      cases yielded : nextPriority generator with
      | none => simp [plannedRules, yielded] at member
      | some next =>
          simp only [plannedRules, yielded, List.mem_cons] at member
          rcases member with equal | later
          · exact ⟨ruleData, List.mem_cons_self, next.1, equal⟩
          · rcases ih later with ⟨other, otherMem, made⟩
            exact ⟨other, List.mem_cons_of_mem ruleData otherMem, made⟩

/-- A batch plans one security rule for each requested rule, in their order. -/
theorem forall₂_plannedRules {generator : PriorityGenerator} {used : Int → Prop}
    (tracks : Tracks generator used) (inboundRules : List InboundRule) :
    List.Forall₂ (fun ruleData rule => ∃ priority,
        rule = prepareSecurityGroupRule ruleData destinationAddr priority sourceAddress)
      inboundRules (plannedRules destinationAddr sourceAddress inboundRules generator) := by
  induction inboundRules generalizing generator used with
  | nil => exact List.Forall₂.nil
  | cons ruleData rest ih =>
      rcases tracks.next with ⟨priority, after, yielded, _, tracksAfter⟩
      simp only [plannedRules, yielded]
      exact List.Forall₂.cons ⟨priority, rfl⟩ (ih tracksAfter)

/-- The planned priorities increase along the batch. -/
theorem plannedRules_increasing {current : Int} {rest : List Int}
    (ascending : Ascending current rest) (inboundRules : List InboundRule) :
    (plannedRules destinationAddr sourceAddress inboundRules (walking current rest)).Pairwise
        (fun rule later => rule.priority < later.priority) ∧
      ∀ rule ∈ plannedRules destinationAddr sourceAddress inboundRules (walking current rest),
        current < rule.priority := by
  induction inboundRules generalizing current rest with
  | nil => simp [plannedRules]
  | cons ruleData inboundRules ih =>
      simp only [plannedRules, nextPriority_walking]
      rcases ih (firstGap_ascending ascending) with ⟨increasing, above⟩
      have positive : 0 < rulePriorityIncreaseStep := by decide
      have step : current + rulePriorityIncreaseStep ≤ _ := firstGap_ge ascending
      constructor
      · exact List.pairwise_cons.mpr ⟨above, increasing⟩
      · intro rule member
        rcases List.mem_cons.mp member with rfl | later
        · change current < (firstGap rulePriorityIncreaseStep current rest).1
          linarith
        · have := above rule later
          linarith

/-- A rule of the group after a batch was made of a requested rule or was there
before. -/
theorem mem_addRules
    (member : rule ∈ addRules inboundRules destinationAddr startFrom sourceAddress rules) :
    (∃ ruleData ∈ inboundRules, ∃ priority,
      rule = prepareSecurityGroupRule ruleData destinationAddr priority sourceAddress) ∨
      rule ∈ rules := by
  rcases Azure.mem_upsertAll member with made | old
  · exact Or.inl (mem_plannedRules made)
  · exact Or.inr old

/-- A batch of one rule is one insertion, at a priority no rule of the group
has. -/
theorem addRules_singleton (ruleData : InboundRule) (destinationAddr : Text)
    (startFrom : Option Int) (sourceAddress : Text) (rules : List SecurityRule) :
    ∃ priority after,
      nextPriority (rulePriorityGenerator (rules.map SecurityRule.priority)
        (startFrom.getD ruleDefaultPriority)) = some (priority, after) ∧
      (∀ other ∈ rules, other.priority ≠ priority) ∧
      addRules [ruleData] destinationAddr startFrom sourceAddress rules =
        Store.upsert SecurityRule.name
          (prepareSecurityGroupRule ruleData destinationAddr priority sourceAddress) rules := by
  obtain ⟨priority, after, yielded, fresh, _⟩ :=
    (tracks_rulePriorityGenerator (rules.map SecurityRule.priority)
      (startFrom.getD ruleDefaultPriority)).next
  refine ⟨priority, after, yielded, ?_, ?_⟩
  · intro other member equal
    exact fresh (equal ▸ List.mem_map_of_mem member)
  · simp [addRules, rulesToCreate, plannedRules, yielded, Azure.upsertAll]

theorem rulesToCreate_increasing (rules : List SecurityRule) (inboundRules : List InboundRule)
    (destinationAddr : Text) (startFrom : Option Int) (sourceAddress : Text) :
    (rulesToCreate rules inboundRules destinationAddr startFrom sourceAddress).Pairwise
      fun rule later => rule.priority < later.priority := by
  obtain ⟨rest, generator_eq, ascending, _⟩ := rulePriorityGenerator_eq_walking
    (rules.map SecurityRule.priority) (startFrom.getD ruleDefaultPriority)
  rw [rulesToCreate, generator_eq]
  exact (plannedRules_increasing ascending inboundRules).1

/-- A batch of rules without names of their own makes an empty group hold just
the planned rules. -/
theorem addRules_nil_of_unnamed
    (unnamed : ∀ ruleData ∈ inboundRules, truthy ruleData.name = none) :
    addRules inboundRules destinationAddr startFrom sourceAddress [] =
      rulesToCreate [] inboundRules destinationAddr startFrom sourceAddress := by
  let planned := rulesToCreate [] inboundRules destinationAddr startFrom sourceAddress
  have increasing : planned.Pairwise fun rule later => rule.priority < later.priority :=
    rulesToCreate_increasing [] inboundRules destinationAddr startFrom sourceAddress
  have named : ∀ rule ∈ planned, rule.name = ruleName rule.priority := by
    intro rule member
    rcases mem_plannedRules member with ⟨ruleData, requested, priority, rfl⟩
    simp [prepareSecurityGroupRule, nameAt, unnamed ruleData requested]
  have keyed : Store.Keyed SecurityRule.name ([] ++ planned) := by
    rw [List.nil_append, Store.Keyed, List.map_congr_left named, List.Nodup, List.pairwise_map]
    exact increasing.imp fun below same => below.ne (ruleName_injective same)
  exact Store.foldl_upsert_of_keyed keyed

/-- Every multiple of the step from `startFrom` up to a priority is taken. -/
def FilledBelow (rules : List SecurityRule) (startFrom priority : Int) : Prop :=
  ∀ other, rulePriorityIncreaseStep ∣ other → startFrom ≤ other → other < priority →
    ∃ rule ∈ rules, rule.priority = other

theorem FilledBelow.append {rules : List SecurityRule} {startFrom priority : Int}
    (filled : FilledBelow rules startFrom priority) (added : List SecurityRule) :
    FilledBelow (rules ++ added) startFrom priority := by
  intro other dvd above below
  rcases filled other dvd above below with ⟨rule, member, equal⟩
  exact ⟨rule, List.mem_append_left added member, equal⟩

/-- In a group whose priorities are multiples of the step, a rule under a new
name is appended at the least free multiple from its start on. -/
theorem addRules_anyTrafficRule_of_fresh (access : SecurityRuleAccess) {name : Text}
    (nonempty : name ≠ []) (destinationAddr : Text) {start : Int} (sourceAddress : Text)
    (fresh : ∀ other ∈ rules, other.name ≠ name)
    (start_dvd : rulePriorityIncreaseStep ∣ start)
    (rules_dvd : ∀ other ∈ rules, rulePriorityIncreaseStep ∣ other.priority) :
    ∃ priority,
      addRules [anyTrafficRule access name] destinationAddr (some start) sourceAddress rules =
        rules ++ [prepareSecurityGroupRule (anyTrafficRule access name) destinationAddr priority
          sourceAddress] ∧
      rulePriorityIncreaseStep ∣ priority ∧ start ≤ priority ∧
      (∀ other ∈ rules, other.priority ≠ priority) ∧ FilledBelow rules start priority := by
  obtain ⟨priority, after, yielded, unused, added⟩ := addRules_singleton
    (anyTrafficRule access name) destinationAddr (some start) sourceAddress rules
  have existing_dvd : ∀ other ∈ rules.map SecurityRule.priority,
      rulePriorityIncreaseStep ∣ other := by
    intro other member
    rcases List.mem_map.mp member with ⟨rule, ruleMem, rfl⟩
    exact rules_dvd rule ruleMem
  rcases nextPriority_least start_dvd existing_dvd with ⟨least, after', yielded', dvd, above, taken⟩
  have same : some (priority, after) = some (least, after') := yielded.symm.trans yielded'
  cases same
  refine ⟨priority, ?_, dvd, above, unused, ?_⟩
  · rw [added]
    apply Store.upsert_of_absent
    intro other member
    rw [anyTrafficRule_name access destinationAddr sourceAddress priority nonempty]
    exact fresh other member
  · intro other other_dvd other_above below
    rcases List.mem_map.mp (taken other other_dvd other_above below) with ⟨rule, member, equal⟩
    exact ⟨rule, member, equal⟩

end SecurityGroupService

end AzureShell
