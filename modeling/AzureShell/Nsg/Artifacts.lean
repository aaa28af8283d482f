import AzureShell.Azure.Clearing
import AzureShell.Nsg.Effect

/-!
# What the deletion of a machine's artifacts leaves

The deletion goes through the listed groups.  Seen from one group, a round for
another group does nothing, and the group's own round deletes it, or some of
its rules, or nothing, depending on where the machine's name occurs.
-/

namespace AzureShell

open Prog SecurityGroupService

/-- The program ends well, changes one group, whether present or not, as given,
and no other group. -/
def ActsOn (nsg : Text) (program : Shell Unit)
    (change : Option (List SecurityRule) → Option (List SecurityRule)) : Prop :=
  ∀ azure, ∃ after, run (Azure.handle false) program azure = (.ok (), after) ∧
    after.rulesOf nsg = change (azure.rulesOf nsg) ∧
    ∀ other, other ≠ nsg → after.rulesOf other = azure.rulesOf other

namespace ActsOn

variable {nsg : Text} {change changeAfter : Option (List SecurityRule) → Option (List SecurityRule)}

theorem pure : ActsOn nsg (pure ()) id :=
  fun azure => ⟨azure, rfl, rfl, fun _ _ => rfl⟩

theorem bind {first second : Shell Unit} (firstActs : ActsOn nsg first change)
    (secondActs : ActsOn nsg second changeAfter) :
    ActsOn nsg (first >>= fun _ => second) (changeAfter ∘ change) := by
  intro azure
  rcases firstActs azure with ⟨between, firstRun, firstSelf, firstOthers⟩
  rcases secondActs between with ⟨after, secondRun, secondSelf, secondOthers⟩
  refine ⟨after, (run_bind_of_ok firstRun).trans secondRun, ?_, ?_⟩
  · rw [secondSelf, firstSelf]
    rfl
  · intro other different
    rw [secondOthers other different, firstOthers other different]

theorem when {condition : Prop} [Decidable condition] {program : Shell Unit}
    (acts : ActsOn nsg program change) :
    ActsOn nsg (when condition program) fun rules => if condition then change rules else rules := by
  unfold Prog.when
  by_cases holds : condition
  · simp only [if_pos holds]
    exact acts
  · simp only [if_neg holds]
    exact pure

theorem forEach {β : Type} {items : List β} {body : β → Shell Unit}
    {change : β → Option (List SecurityRule) → Option (List SecurityRule)}
    (round : ∀ item ∈ items, ActsOn nsg (body item) (change item)) :
    ActsOn nsg (forEach items body)
      fun rules => items.foldl (fun rules item => change item rules) rules := by
  induction items with
  | nil => exact pure
  | cons item rest ih =>
      have first := round item List.mem_cons_self
      have later := ih fun other member => round other (List.mem_cons_of_mem item member)
      exact first.bind later

/-- Deletions of groups and rules end well, also where there is nothing to
delete. -/
theorem deleteNetworkSecurityGroup :
    ActsOn nsg (send (.deleteNetworkSecurityGroup nsg)) fun _ => none := by
  intro azure
  refine ⟨_, rfl, ?_, ?_⟩
  · rw [Azure.rulesOf_handle, Request.onRules, if_pos rfl]
  · intro other different
    rw [Azure.rulesOf_handle, Request.onRules, if_neg (Ne.symm different)]

theorem deleteSecurityRule (rule : Text) :
    ActsOn nsg (send (.deleteSecurityRule nsg rule))
      (Option.map (Store.erase SecurityRule.name rule)) := by
  intro azure
  refine ⟨_, rfl, ?_, ?_⟩
  · rw [Azure.rulesOf_handle, Request.onRules, if_pos rfl]
  · intro other different
    rw [Azure.rulesOf_handle, Request.onRules, if_neg (Ne.symm different)]

end ActsOn

namespace NetworkService

/-- The rules left of a group that was listed with these rules. -/
def withoutArtifacts (vmName nsg : Text) (rules : List SecurityRule) :
    Option (List SecurityRule) :=
  if vmName <:+: nsg then none
  else if sandboxNsgName <:+: nsg then some (rules.filter fun rule => ¬ vmName <:+: rule.name)
  else some rules

/-- Deleting the rules of a list that carry the machine's name. -/
theorem deleteRules_actsOn (vmName nsg : Text) (rules : List SecurityRule) :
    ActsOn nsg
      (forEach rules fun rule => when (vmName <:+: rule.name) <|
        send (.deleteSecurityRule nsg rule.name))
      (Option.map fun left => (rules.filter fun rule => vmName <:+: rule.name).foldl
        (fun left rule => Store.erase SecurityRule.name rule.name left) left) := by
  have round : ∀ rule ∈ rules, ActsOn nsg
      (when (vmName <:+: rule.name) (send (.deleteSecurityRule nsg rule.name)))
      fun left => if vmName <:+: rule.name then left.map (Store.erase SecurityRule.name rule.name)
        else left :=
    fun rule _ => (ActsOn.deleteSecurityRule rule.name).when
  have folded : ∀ left : Option (List SecurityRule),
      rules.foldl (fun left rule => if vmName <:+: rule.name then
        left.map (Store.erase SecurityRule.name rule.name) else left) left =
      left.map fun left => (rules.filter fun rule => vmName <:+: rule.name).foldl
        (fun left rule => Store.erase SecurityRule.name rule.name left) left := by
    clear round
    induction rules with
    | nil => simp
    | cons rule rest ih =>
        intro left
        rw [List.foldl_cons, ih, List.filter_cons]
        by_cases carries : vmName <:+: rule.name
        · simp [carries, Function.comp_def]
        · simp [carries]
  intro azure
  rcases ActsOn.forEach round azure with ⟨after, loopRun, self, others⟩
  exact ⟨after, loopRun, self.trans (folded _), others⟩

/-- The round of the deletion for one listed group. -/
theorem deleteArtifacts_round (vmName : Text) (nsg : NetworkSecurityGroup) :
    ActsOn nsg.name
      (do when (vmName <:+: nsg.name) <| send (.deleteNetworkSecurityGroup nsg.name)
          when (sandboxNsgName <:+: nsg.name) <| forEach nsg.securityRules fun rule =>
            when (vmName <:+: rule.name) <| send (.deleteSecurityRule nsg.name rule.name))
      ((fun rules => if sandboxNsgName <:+: nsg.name then
          rules.map fun left => (nsg.securityRules.filter fun rule => vmName <:+: rule.name).foldl
            (fun left rule => Store.erase SecurityRule.name rule.name left) left
        else rules) ∘ fun rules => if vmName <:+: nsg.name then none else rules) :=
  ActsOn.deleteNetworkSecurityGroup.when.bind (deleteRules_actsOn _ _ _).when

/-- The deletion of a machine's artifacts ends well; every group loses what
carries the machine's name, and no group appears. -/
theorem run_deleteNsgArtifactsAssociatedWithVm (vmName : Text) {azure : Azure}
    (keyed : Store.Keyed NetworkSecurityGroup.name azure.networkSecurityGroups) :
    ∃ after, run (Azure.handle false) (deleteNsgArtifactsAssociatedWithVm vmName) azure =
        (.ok (), after) ∧
      ∀ nsg, after.rulesOf nsg = (azure.rulesOf nsg).bind (withoutArtifacts vmName nsg) := by
  obtain ⟨after, loopRun, listed, unlisted⟩ := run_forEach_keyed Azure.rulesOf keyed
    (fun nsg _ => deleteArtifacts_round vmName nsg) azure
  refine ⟨after, ?_, ?_⟩
  · apply run_retry_of_ok
    exact (run_bind_of_ok (run_send _ _ _)).trans loopRun
  · intro nsg
    by_cases present : ∃ group ∈ azure.networkSecurityGroups, group.name = nsg
    · rcases present with ⟨group, member, rfl⟩
      have rules : azure.rulesOf group.name = some group.securityRules := by
        rw [Azure.rulesOf, keyed.lookup_eq_some_iff.mpr ⟨member, rfl⟩]
        rfl
      rw [listed group member, rules, Option.bind_some, withoutArtifacts]
      by_cases carries : vmName <:+: group.name
      · simp [carries]
      · by_cases isSandbox : sandboxNsgName <:+: group.name
        · have left : (group.securityRules.filter fun rule => vmName <:+: rule.name).foldl
              (fun left rule => Store.erase SecurityRule.name rule.name left)
                group.securityRules =
              group.securityRules.filter fun rule => !decide (vmName <:+: rule.name) :=
            Store.foldl_erase_selected (fun name => decide (vmName <:+: name)) _
          simp [carries, isSandbox, left]
        · simp [carries, isSandbox]
    · have absent : azure.rulesOf nsg = none := by
        rw [Azure.rulesOf, Store.lookup_eq_none_iff.mpr]
        · rfl
        · intro group member same
          exact present ⟨group, member, same⟩
      rw [unlisted nsg, absent]
      · rfl
      · rintro group member rfl
        exact present ⟨group, member, rfl⟩

/-- The resources that carry the machine's name in a way the deletion looks for. -/
def CarriesName (vmName : Text) : Resource → Prop
  | .networkSecurityGroup name => vmName <:+: name
  | .securityRule nsg name => sandboxNsgName <:+: nsg ∧ vmName <:+: name
  | _ => False

theorem deleteArtifacts_round_clears (vmName : Text) (nsg : NetworkSecurityGroup) :
    Clears
      (do when (vmName <:+: nsg.name) <| send (.deleteNetworkSecurityGroup nsg.name)
          when (sandboxNsgName <:+: nsg.name) <| forEach nsg.securityRules fun rule =>
            when (vmName <:+: rule.name) <| send (.deleteSecurityRule nsg.name rule.name))
      fun resource => (vmName <:+: nsg.name ∧ resource = .networkSecurityGroup nsg.name) ∨
        sandboxNsgName <:+: nsg.name ∧ ∃ rule ∈ nsg.securityRules,
          vmName <:+: rule.name ∧ resource = .securityRule nsg.name rule.name := by
  have rules : Clears
      (forEach nsg.securityRules fun rule =>
        when (vmName <:+: rule.name) <| send (.deleteSecurityRule nsg.name rule.name))
      fun resource => ∃ rule ∈ nsg.securityRules,
        vmName <:+: rule.name ∧ resource = .securityRule nsg.name rule.name :=
    Clears.forEach fun rule _ => (Clears.deleteSecurityRule nsg.name rule.name).when
  exact (Clears.deleteNetworkSecurityGroup nsg.name).when.bind fun _ => rules.when

/-- The deletion leaves no group and no rule of the subnets that carries the
machine's name. -/
theorem deleteNsgArtifactsAssociatedWithVm_clears (vmName : Text) :
    Clears (deleteNsgArtifactsAssociatedWithVm vmName) (CarriesName vmName) := by
  apply Clears.retryConnection
  intro azure
  have loop := Clears.forEach fun nsg (_ : nsg ∈ azure.networkSecurityGroups) =>
    deleteArtifacts_round_clears vmName nsg
  rcases loop azure with ⟨a, after, ran, cleared, shrinks, log⟩
  refine ⟨a, after, (run_bind_of_ok (run_send _ _ _)).trans ran, ?_, shrinks, log⟩
  -- what remains was listed, and its round deleted it
  intro resource carries remains
  cases resource with
  | networkSecurityGroup name =>
      rcases shrinks _ remains with ⟨group, member, rfl⟩
      exact cleared _ ⟨group, member, Or.inl ⟨carries, rfl⟩⟩ remains
  | securityRule nsg name =>
      rcases shrinks _ remains with ⟨group, member, rfl, rule, ruleMem, rfl⟩
      exact cleared _ ⟨group, member, Or.inr ⟨carries.1, rule, ruleMem, carries.2, rfl⟩⟩ remains
  | _ => exact carries.elim

end NetworkService

end AzureShell
