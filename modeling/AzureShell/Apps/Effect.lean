import AzureShell.Apps.SecurityGroups
import AzureShell.Store.Rebuild

/-!
# The effect of a request for custom rules

Run alone, the work on one app rebuilds the rules of the app's security group
from the permanent ones, which are those without the custom mark.  A request is
then a list of rebuilds on the security groups, and the operation refines it.
-/

namespace AzureShell

open Prog SecurityGroupService

namespace SetAppSecurityGroupsOperation

/-! ## Permanent rules -/

/-- `'custom_rule' in rule.name`. -/
def isCustom (rule : SecurityRule) : Bool :=
  customRule <:+: rule.name

/-- The rules of a group that are not custom rules. -/
def permanentRules (rules : List SecurityRule) : List SecurityRule :=
  rules.filter fun rule => !isCustom rule

theorem customRule_infix_customRuleName (vmName destinationIp : Text) (i : Nat) :
    customRule <:+: customRuleName vmName destinationIp i :=
  ((List.prefix_append customRule ['_']).trans (List.prefix_append _ _)).isInfix

theorem customRuleName_ne_nil (vmName destinationIp : Text) (i : Nat) :
    customRuleName vmName destinationIp i ≠ [] :=
  List.cons_ne_nil _ _

theorem name_of_mem_namedRules {vmName destinationIp : Text} {start : Nat}
    {rules : List PortData} {rule : InboundRule}
    (member : rule ∈ namedRules vmName destinationIp start rules) :
    ∃ i, rule.name = some (customRuleName vmName destinationIp i) := by
  simp only [namedRules, List.mem_map] at member
  rcases member with ⟨⟨portData, i⟩, _, rfl⟩
  exact ⟨i, rfl⟩

/-- Every rule written for a configuration is a custom rule. -/
theorem isCustom_of_mem_plannedRules {vmName destinationIp destinationAddr sourceAddress : Text}
    {start : Nat} {rules : List PortData} {generator : PriorityGenerator} {rule : SecurityRule}
    (member : rule ∈ plannedRules destinationAddr sourceAddress
      (namedRules vmName destinationIp start rules) generator) : isCustom rule = true := by
  rcases mem_plannedRules member with ⟨ruleData, ruleMem, priority, rfl⟩
  rcases name_of_mem_namedRules ruleMem with ⟨i, named⟩
  simp only [isCustom, prepareSecurityGroupRule, nameAt, named,
    truthy_some (customRuleName_ne_nil _ _ _), Option.getD_some, decide_eq_true_eq]
  exact customRule_infix_customRuleName _ _ _

theorem permanentRules_erase {name : Text} (custom : customRule <:+: name)
    (rules : List SecurityRule) :
    permanentRules (Store.erase SecurityRule.name name rules) = permanentRules rules := by
  apply Store.filter_erase
  rintro rule rfl
  simp [isCustom, custom]

theorem permanentRules_upsert {rule : SecurityRule} (custom : isCustom rule = true)
    (rules : List SecurityRule) :
    permanentRules (Store.upsert SecurityRule.name rule rules) = permanentRules rules := by
  apply Store.filter_upsert
  intro other same
  rw [isCustom, same]
  exact congrArg Bool.not custom

theorem permanentRules_upsertAll {added : List SecurityRule}
    (custom : ∀ rule ∈ added, isCustom rule = true) (rules : List SecurityRule) :
    permanentRules (Azure.upsertAll added rules) = permanentRules rules := by
  induction added generalizing rules with
  | nil => rfl
  | cons rule rest ih =>
      have later := ih (fun other member => custom other (List.mem_cons_of_mem rule member))
        (Store.upsert SecurityRule.name rule rules)
      exact later.trans (permanentRules_upsert (custom rule List.mem_cons_self) rules)

theorem permanentRules_permanentRules (rules : List SecurityRule) :
    permanentRules (permanentRules rules) = permanentRules rules := by
  simp [permanentRules, List.filter_filter]

/-! ## The effect on one group -/

/-- What `_create_nic_to_subnet_name_map` finds for the machine of a name. -/
def interfacesOf (azure : Azure) (vmName : Text) :
    Except PyException (List (NetworkInterface × Text)) := do
  let vm ← Azure.find VirtualMachine.name vmName azure.virtualMachines
  vm.networkInterfaces.mapM fun nicRef => do
    let nic ← Azure.find NetworkInterface.name
      (AzureResourceIdParser.getNameFromResourceId nicRef.id) azure.networkInterfaces
    subnetNameOf nic

/-- Create the rules of a list of configurations until one of them fails. -/
def createConfigured (environment : Environment) (groupName vmName : Text)
    (nicToSubnetMap : List (NetworkInterface × Text)) :
    List SecurityGroupConfiguration → List SecurityRule → Except PyException Unit × List SecurityRule
  | [], rules => (.ok (), rules)
  | configuration :: rest, rules =>
      match resolve environment groupName nicToSubnetMap configuration with
      | .ok (destinationIp, wanted) =>
          createConfigured environment groupName vmName nicToSubnetMap rest
            (addRules (namedRules vmName destinationIp 0 wanted) destinationIp none internet rules)
      | .error e => (.error e, rules)

/-- The outcome of the work on an app and the rules it leaves in the group. -/
def appEffect (environment : Environment) (groupName : Text)
    (interfaces : Text → Except PyException (List (NetworkInterface × Text)))
    (model : AppSecurityGroupModel) (rules : List SecurityRule) :
    Except PyException Unit × List SecurityRule :=
  let prepared := do
    let nicToSubnetMap ← interfaces model.appName
    let configurations ← configurationsOf model
    return (nicToSubnetMap, configurations)
  match prepared with
  | .ok (nicToSubnetMap, configurations) =>
      createConfigured environment groupName model.appName nicToSubnetMap configurations
        (permanentRules rules)
  | .error e => (.error e, permanentRules rules)

/-- The work on an app as a rebuild of its security group. -/
def rebuildOf (environment : Environment) (groupName : Text)
    (interfaces : Text → Except PyException (List (NetworkInterface × Text)))
    (model : AppSecurityGroupModel) :
    Store.Rebuild Text (List SecurityRule) SetAppSecurityGroupActionResult where
  key := vmNsgName model.appName
  missing := actionResult model (.error .notFound)
  effect := fun rules =>
    let left := appEffect environment groupName interfaces model rules
    (actionResult model left.1, left.2)

section Permanent

variable (environment : Environment) (groupName : Text)

theorem permanentRules_createConfigured (vmName : Text)
    (nicToSubnetMap : List (NetworkInterface × Text))
    (configurations : List SecurityGroupConfiguration) (rules : List SecurityRule) :
    permanentRules (createConfigured environment groupName vmName nicToSubnetMap configurations
      rules).2 = permanentRules rules := by
  induction configurations generalizing rules with
  | nil => rfl
  | cons configuration rest ih =>
      rw [createConfigured]
      split
      · rw [ih]
        apply permanentRules_upsertAll
        intro rule member
        exact isCustom_of_mem_plannedRules member
      · rfl

/-- The work on an app keeps the permanent rules and depends on nothing else in
the group. -/
theorem rebuildOf_keepsPermanent
    (interfaces : Text → Except PyException (List (NetworkInterface × Text)))
    (model : AppSecurityGroupModel) :
    (rebuildOf environment groupName interfaces model).KeepsPermanent permanentRules where
  keeps := by
    intro rules
    change permanentRules (appEffect environment groupName interfaces model rules).2 = _
    rw [appEffect]
    split
    · rw [permanentRules_createConfigured, permanentRules_permanentRules]
    · exact permanentRules_permanentRules rules
  depends := by
    intro rules others same
    simp only [rebuildOf, appEffect, same]

end Permanent

/-! ## The operation carries out the rebuilds -/

section Refinement

variable (environment : Environment) (groupName : Text) {azure : Azure} {nsg : Text}

/-- Reading the interfaces of a machine changes nothing. -/
theorem run_createNicToSubnetNameMap (vm : VirtualMachine) :
    run (Azure.handle false) (createNicToSubnetNameMap vm) azure =
      (vm.networkInterfaces.mapM (fun nicRef => do
        let nic ← Azure.find NetworkInterface.name
          (AzureResourceIdParser.getNameFromResourceId nicRef.id) azure.networkInterfaces
        subnetNameOf nic), azure) := by
  apply run_collect_of_reads
  intro nicRef
  apply run_bind_of_reads (run_send _ _ _)
  intro nic
  rfl

/-- The machine of an app and its interfaces, as the operation reads them. -/
theorem run_readInterfaces (azure : Azure) (vmName : Text) :
    run (Azure.handle false)
        (retryConnection (send (.getVirtualMachine vmName)) >>= createNicToSubnetNameMap) azure =
      (interfacesOf azure vmName, azure) := by
  apply run_bind_of_reads
  · cases found : Azure.find VirtualMachine.name vmName azure.virtualMachines with
    | ok vm =>
        apply run_retry_of_ok
        rw [run_send, Azure.handle, found]
    | error e =>
        apply run_retry_of_error
        · rw [run_send, Azure.handle, found]
        · rw [Azure.find_eq_error found, retryIfConnectionError_notFound]
  · exact run_createNicToSubnetNameMap

theorem interfacesOf_of_onlyRules {after : Azure} (frame : OnlyRules nsg azure after) :
    interfacesOf after = interfacesOf azure := by
  rw [frame.rest]
  rfl

/-- Deleting one rule is a writer of its group. -/
theorem deleteSecurityRule_rewrites (name : Text) :
    Rewrites false nsg (send (.deleteSecurityRule nsg name))
      (Store.erase SecurityRule.name name) := by
  intro azure rules present
  refine ⟨_, rfl, ?_, ?_⟩
  · rw [Azure.rulesOf_handle, Request.onRules, if_pos rfl, present, Option.map_some]
  · constructor
    · rfl
    · intro other different
      rw [Azure.rulesOf_handle, Request.onRules, if_neg (Ne.symm different)]

/-- Deleting the custom rules is a writer of its group. -/
theorem deleteCustomSecurityRulesFromNsg_rewrites (lock : LockName) :
    Rewrites false nsg (deleteCustomSecurityRulesFromNsg nsg lock) permanentRules := by
  intro azure rules present
  have listed : run (Azure.handle false) (send (.listSecurityRules nsg)) azure =
      (.ok rules, azure) := by
    rw [run_send, Azure.handle, present]
  let customRules := rules.filter fun rule => customRule <:+: rule.name
  have loop : Rewrites false nsg
      (forEach customRules fun rule => send (.deleteSecurityRule nsg rule.name))
      fun rules => customRules.foldl (fun left rule => Store.erase SecurityRule.name rule.name left)
        rules :=
    Rewrites.forEach fun rule _ => deleteSecurityRule_rewrites rule.name
  rcases loop azure rules present with ⟨after, loopRun, left, frame⟩
  have permanent : customRules.foldl
      (fun left rule => Store.erase SecurityRule.name rule.name left) rules =
        permanentRules rules :=
    Store.foldl_erase_selected (fun name => decide (customRule <:+: name)) rules
  refine ⟨after, ?_, permanent ▸ left, frame⟩
  apply run_retry_of_ok
  rw [run_bind_of_ok listed, run_withLock]
  exact loopRun

theorem run_deleteCustomSecurityRulesFromNsg_of_absent (absent : azure.rulesOf nsg = none)
    (lock : LockName) :
    run (Azure.handle false) (deleteCustomSecurityRulesFromNsg nsg lock) azure =
      (.error .notFound, azure) := by
  apply run_retry_of_error _ retryIfConnectionError_notFound
  apply run_bind_of_error
  rw [run_send, Azure.handle, absent]

/-- The loop over the configurations of a model. -/
theorem run_createConfigured (vmName : Text) (lock : LockName)
    (nicToSubnetMap : List (NetworkInterface × Text))
    (configurations : List SecurityGroupConfiguration) {rules : List SecurityRule}
    (present : azure.rulesOf nsg = some rules) :
    ∃ after, run (Azure.handle false)
        (forEach configurations fun configuration => do
          let resolved ← ofExcept (resolve environment groupName nicToSubnetMap configuration)
          createNetworkSecurityGroupRules nsg (namedRules vmName resolved.1 0 resolved.2)
            resolved.1 lock) azure =
        ((createConfigured environment groupName vmName nicToSubnetMap configurations rules).1,
          after) ∧
      after.rulesOf nsg = some
        (createConfigured environment groupName vmName nicToSubnetMap configurations rules).2 ∧
      OnlyRules nsg azure after := by
  induction configurations generalizing azure rules with
  | nil => exact ⟨azure, rfl, present, OnlyRules.refl azure⟩
  | cons configuration rest ih =>
      rw [createConfigured]
      cases resolved : resolve environment groupName nicToSubnetMap configuration with
      | error e =>
          refine ⟨azure, ?_, present, OnlyRules.refl azure⟩
          rw [run_forEach_cons, run_ofExcept_bind, resolved]
      | ok found =>
          have creation : Rewrites false nsg
              (createNetworkSecurityGroupRules nsg (namedRules vmName found.1 0 found.2) found.1 lock)
              (addRules (namedRules vmName found.1 0 found.2) found.1 none internet) :=
            createNetworkSecurityGroupRules_rewrites _ _ _ _ _
          rcases creation azure rules present with ⟨between, created, betweenRules, betweenFrame⟩
          rcases ih betweenRules with ⟨after, later, afterRules, afterFrame⟩
          refine ⟨after, ?_, afterRules, betweenFrame.trans afterFrame⟩
          rw [run_forEach_cons, run_ofExcept_bind, resolved]
          simp only [created]
          exact later

/-- The work on an app whose group exists. -/
theorem run_setAppSecurityGroups {model : AppSecurityGroupModel} {rules : List SecurityRule}
    (present : azure.rulesOf (vmNsgName model.appName) = some rules) :
    ∃ after, run (Azure.handle false) (setAppSecurityGroups environment groupName model) azure =
        ((appEffect environment groupName (interfacesOf azure) model rules).1, after) ∧
      after.rulesOf (vmNsgName model.appName) =
        some (appEffect environment groupName (interfacesOf azure) model rules).2 ∧
      OnlyRules (vmNsgName model.appName) azure after := by
  obtain ⟨between, deleted, betweenRules, betweenFrame⟩ :=
    deleteCustomSecurityRulesFromNsg_rewrites (.resource (vmNsgName model.appName)) azure rules
      present
  have read := run_readInterfaces between model.appName
  rw [interfacesOf_of_onlyRules betweenFrame] at read
  have start : run (Azure.handle false)
      (setAppSecurityGroups environment groupName model) azure = _ :=
    (run_bind_of_ok (run_getResourceLock false _ azure)).trans <|
      (run_bind_of_ok deleted).trans (run_bind_assoc _ _ _ _ between)
  rw [start, appEffect]
  cases interfaces : interfacesOf azure model.appName with
  | error e =>
      rw [interfaces] at read
      exact ⟨between, run_bind_of_error read, betweenRules, betweenFrame⟩
  | ok nicToSubnetMap =>
      rw [interfaces] at read
      rw [run_bind_of_ok read, run_ofExcept_bind]
      cases configured : configurationsOf model with
      | error e => exact ⟨between, rfl, betweenRules, betweenFrame⟩
      | ok configurations =>
          obtain ⟨after, created, afterRules, afterFrame⟩ :=
            run_createConfigured environment groupName model.appName
              (.resource (vmNsgName model.appName)) nicToSubnetMap configurations betweenRules
          exact ⟨after, created, afterRules, betweenFrame.trans afterFrame⟩

theorem run_setAppSecurityGroups_of_absent {model : AppSecurityGroupModel}
    (absent : azure.rulesOf (vmNsgName model.appName) = none) :
    run (Azure.handle false) (setAppSecurityGroups environment groupName model) azure =
      (.error .notFound, azure) :=
  (run_bind_of_ok (run_getResourceLock false _ azure)).trans
    (run_bind_of_error (run_deleteCustomSecurityRulesFromNsg_of_absent absent _))

/-- A round reports the outcome of the work on its app. -/
theorem run_setApp_of_work {model : AppSecurityGroupModel} {outcome : Except PyException Unit}
    {after : Azure}
    (work : run (Azure.handle false) (setAppSecurityGroups environment groupName model) azure =
      (outcome, after)) :
    run (Azure.handle false) (setApp environment groupName model) azure =
      (.ok (actionResult model outcome), after) := by
  cases outcome with
  | ok a => exact run_catching_of_ok (run_bind_of_ok work)
  | error e => exact run_catching_of_error (run_bind_of_error work)

/-- A later state has the machines and interfaces of an earlier one, and the
given rules in each group. -/
structure Leaves (before after : Azure) (groups : Text → Option (List SecurityRule)) : Prop where
  interfaces : interfacesOf after = interfacesOf before
  rules : after.rulesOf = groups

/-- One round of the operation carries out the rebuild of its model. -/
theorem run_setApp (azure : Azure) (model : AppSecurityGroupModel) :
    let rebuilt := (rebuildOf environment groupName (interfacesOf azure) model).apply azure.rulesOf
    ∃ after, run (Azure.handle false) (setApp environment groupName model) azure =
        (.ok rebuilt.1, after) ∧ Leaves azure after rebuilt.2 := by
  cases present : azure.rulesOf (vmNsgName model.appName) with
  | none =>
      rw [Store.Rebuild.apply_of_missing present]
      have work := run_setAppSecurityGroups_of_absent environment groupName present
      exact ⟨azure, run_setApp_of_work environment groupName work, rfl, rfl⟩
  | some rules =>
      let rebuild := rebuildOf environment groupName (interfacesOf azure) model
      have atKey : azure.rulesOf rebuild.key = some rules := present
      obtain ⟨after, work, left, frame⟩ :=
        run_setAppSecurityGroups environment groupName present
      refine ⟨after, ?_, interfacesOf_of_onlyRules frame, ?_⟩
      · rw [Store.Rebuild.apply_of_present present]
        exact run_setApp_of_work environment groupName work
      · funext other
        by_cases same : other = rebuild.key
        · subst same
          exact left.trans (Store.Rebuild.apply_key atKey).symm
        · exact (frame.others other same).trans (Store.Rebuild.apply_of_ne same).symm

/-- The operation carries out the rebuilds of its models. -/
theorem run_setAppsSecurityGroups (models : List AppSecurityGroupModel) (azure : Azure) :
    let rebuilt := Store.Rebuild.applyAll
      (models.map (rebuildOf environment groupName (interfacesOf azure))) azure.rulesOf
    ∃ after, run (Azure.handle false) (setAppsSecurityGroups environment groupName models) azure =
        (.ok rebuilt.1, after) ∧ Leaves azure after rebuilt.2 := by
  induction models generalizing azure with
  | nil => exact ⟨azure, rfl, rfl, rfl⟩
  | cons model rest ih =>
      rcases run_setApp environment groupName azure model with ⟨between, first, firstLeaves⟩
      rcases ih between with ⟨after, later, laterLeaves⟩
      rw [firstLeaves.interfaces, firstLeaves.rules] at later laterLeaves
      refine ⟨after, ?_, laterLeaves.interfaces.trans firstLeaves.interfaces, laterLeaves.rules⟩
      exact (run_bind_of_ok first).trans (run_bind_of_ok later)

end Refinement

end SetAppSecurityGroupsOperation

end AzureShell
