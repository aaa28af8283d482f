import AzureShell.Apps.Content
import AzureShell.Deploy.Faults

/-!
# Custom rules with failing calls

Calls of `set_apps_security_groups` that break are repeated, and a repeated call
finds what the attempts before it left.  Where the work on an app ends well, the
rules are those of one undisturbed round, priorities aside: the deletion leaves the
permanent rules, and every configuration replaces the rules of the names it writes.
-/

namespace AzureShell

open Prog SecurityGroupService

/-! ## Requests about one group -/

section Changes

variable {α : Type} {program : Shell α} {nsg : Text}

/-- The request changes at most the rules of a group. -/
def ChangesOnly (nsg : Text) (sent : Request) : Prop :=
  ∀ azure, OnlyRules nsg azure (Azure.handle false sent azure).2

theorem changesOnly_putSecurityRule (rule : SecurityRule) :
    ChangesOnly nsg (.putSecurityRule nsg rule) := by
  intro azure
  constructor
  · simp only [Azure.handle]
    split <;> rfl
  · intro other different
    rw [Azure.rulesOf_handle, Request.onRules, if_neg (Ne.symm different)]

theorem changesOnly_deleteSecurityRule (name : Text) :
    ChangesOnly nsg (.deleteSecurityRule nsg name) := by
  intro azure
  constructor
  · rfl
  · intro other different
    rw [Azure.rulesOf_handle, Request.onRules, if_neg (Ne.symm different)]

theorem changesOnly_of_createsRules {inboundRules : List InboundRule}
    {destinationAddr sourceAddress : Text} {sent : Request}
    (creates : CreatesRules nsg inboundRules destinationAddr sourceAddress sent) :
    ChangesOnly nsg sent := by
  rcases creates with rfl | ⟨ruleData, _, priority, rfl⟩
  · exact OnlyRules.refl
  · exact changesOnly_putSecurityRule _

theorem changesOnly_of_deletesCustomRules {sent : Request} (deletes : DeletesCustomRules nsg sent) :
    ChangesOnly nsg sent := by
  rcases deletes with rfl | ⟨name, _, rfl⟩
  · exact OnlyRules.refl
  · exact changesOnly_deleteSecurityRule name

/-- Such a program changes at most the rules of the group. -/
theorem onlyRules_run (changes : Within (ChangesOnly nsg) program) (state : FaultyAzure) :
    OnlyRules nsg state.2 (run services program state).2.2 := by
  apply changes.run_faulty_preserves (OnlyRules nsg state.2)
  · exact fun sent azure changesOnly before => before.trans (changesOnly azure)
  · exact OnlyRules.refl state.2

/-- Where no attempt changes what is seen of the rules of the group, the last one
starts from rules that look as those of the beginning. -/
theorem exists_last_attempt {β : Type} (seen : List SecurityRule → β)
    {allowed : Request → Prop} (sends : Within allowed program)
    (keeps : ∀ sent rules, allowed sent → (sent.onRules nsg rules).map seen = rules.map seen)
    {state after : FaultyAzure} {a : α}
    (success : run services (retryConnection program) state = (.ok a, after)) :
    ∃ start, (start.2.rulesOf nsg).map seen = (state.2.rulesOf nsg).map seen ∧
      run services program start = (.ok a, after) := by
  let looksSame : Azure → Prop := fun azure =>
    (azure.rulesOf nsg).map seen = (state.2.rulesOf nsg).map seen
  have step : ∀ sent azure, allowed sent → looksSame azure →
      looksSame (Azure.handle false sent azure).2 := by
    intro sent azure isAllowed same
    simp only [looksSame]
    rw [Azure.rulesOf_handle, keeps sent _ isAllowed]
    exact same
  let invariant : FaultyAzure → Prop := fun later => looksSame later.2
  have attempt : ∀ later, invariant later → invariant (run services program later).2 :=
    fun later same => sends.run_faulty_preserves looksSame step same
  have started : invariant state := rfl
  exact run_retry_eq_ok_of_preserved attempt started success

end Changes

namespace SetAppSecurityGroupsOperation

variable {environment : Environment} {groupName nsg vmName : Text} {lock : LockName}
  {state after : FaultyAzure} {rules : List SecurityRule}

/-! ## The deletion -/

/-- Custom rules that were deleted in several attempts are all gone, and no other
rule is. -/
theorem rulesOf_deleteCustomSecurityRules
    (success : run services (deleteCustomSecurityRulesFromNsg nsg lock) state = (.ok (), after)) :
    ∃ rules, state.2.rulesOf nsg = some rules ∧
      after.2.rulesOf nsg = some (permanentRules rules) := by
  let once : Shell Unit := do
    let rulesInNsg ← send (.listSecurityRules nsg)
    let customRules := rulesInNsg.filter fun rule => customRule <:+: rule.name
    withLock lock <| forEach customRules fun rule => send (.deleteSecurityRule nsg rule.name)
  have deletes : Within (DeletesCustomRules nsg) once := by
    apply Within.bind (within_perform (Or.inl rfl))
    intro rulesInNsg
    apply Within.withLock
    apply Within.forEach
    intro rule member
    apply within_perform
    exact Or.inr ⟨rule.name, by simpa using (List.mem_filter.mp member).2, rfl⟩
  have keeps : ∀ sent rules, DeletesCustomRules nsg sent →
      (sent.onRules nsg rules).map permanentRules = rules.map permanentRules := by
    rintro sent rules (rfl | ⟨name, custom, rfl⟩)
    · rfl
    · rw [Request.onRules, if_pos rfl, Option.map_map]
      congr 1
      funext rules
      exact permanentRules_erase custom rules
  obtain ⟨start, stillPermanent, last⟩ :=
    exists_last_attempt permanentRules deletes keeps success
  have truthful : Truthful Request.mayFail ServiceError.toException (Azure.handle false) once :=
    (truthful_perform _).bind fun _ =>
      Truthful.withLock (Truthful.forEach fun _ => truthful_perform _)
  -- the last attempt runs as an undisturbed deletion
  have plain : run (Azure.handle false) (deleteCustomSecurityRulesFromNsg nsg lock) start.2 =
      (.ok (), after.2) := run_retry_of_ok (truthful start () after last)
  cases present : start.2.rulesOf nsg with
  | none =>
      rw [run_deleteCustomSecurityRulesFromNsg_of_absent present] at plain
      cases plain
  | some found =>
      obtain ⟨left, ran, permanent, _⟩ :=
        deleteCustomSecurityRulesFromNsg_rewrites lock start.2 found present
      rw [plain] at ran
      cases ran
      rw [present] at stillPermanent
      rcases Option.map_eq_some_iff.mp stillPermanent.symm with ⟨rules, isFound, samePermanents⟩
      exact ⟨rules, isFound, samePermanents ▸ permanent⟩

/-! ## The creation of rules -/

variable {destinationAddr sourceAddress : Text}

/-- Rules that were listed are those of the group. -/
theorem rulesOf_listed {listed : List SecurityRule}
    (success : run services (send (.listSecurityRules nsg)) state = (.ok listed, after)) :
    after.2 = state.2 ∧ after.2.rulesOf nsg = some listed := by
  have answered := run_services_of_ok success
  simp only [Azure.handle] at answered
  split at answered
  · rename_i rules found
    rcases Prod.mk.inj answered with ⟨isListed, same⟩
    rw [← same, found, Except.ok.inj isListed]
    exact ⟨rfl, rfl⟩
  · cases answered

/-- A rule that several attempts wrote is there once. -/
theorem rulesOf_createNetworkSecurityGroupRule {ruleData : InboundRule} {priority : Int}
    (present : state.2.rulesOf nsg = some rules)
    (success : run services (createNetworkSecurityGroupRule nsg ruleData destinationAddr priority
      sourceAddress) state = (.ok (), after)) :
    after.2.rulesOf nsg = some (Store.upsert SecurityRule.name
      (prepareSecurityGroupRule ruleData destinationAddr priority sourceAddress) rules) := by
  let rule := prepareSecurityGroupRule ruleData destinationAddr priority sourceAddress
  let put : Request := .putSecurityRule nsg rule
  have sends : Within (fun sent => sent = put) (send put) := within_perform rfl
  have keeps : ∀ sent rules, sent = put →
      (sent.onRules nsg rules).map (Store.upsert SecurityRule.name rule) =
        rules.map (Store.upsert SecurityRule.name rule) := by
    rintro sent rules rfl
    rw [Request.onRules, if_pos rfl, Option.map_map]
    congr 1
    funext rules
    exact Store.upsert_upsert_self rule rules
  obtain ⟨start, same, last⟩ := exists_last_attempt _ sends keeps success
  rw [← congrArg Prod.snd (run_services_of_ok last), Azure.rulesOf_handle, Request.onRules,
    if_pos rfl, same, present]
  rfl

theorem rulesOf_createRules {wanted : List InboundRule} {generator : PriorityGenerator}
    (present : state.2.rulesOf nsg = some rules)
    (success : run services (createRules nsg destinationAddr sourceAddress wanted generator)
      state = (.ok (), after)) :
    after.2.rulesOf nsg = some (Azure.upsertAll
      (plannedRules destinationAddr sourceAddress wanted generator) rules) := by
  induction wanted generalizing generator state rules with
  | nil =>
      cases success
      exact present
  | cons ruleData rest ih =>
      rw [createRules] at success
      rw [plannedRules]
      split at success
      · rename_i priority later yielded
        rcases run_bind_eq_ok success with ⟨_, between, first, others⟩
        exact ih (rulesOf_createNetworkSecurityGroupRule present first) others
      · cases success

/-- The rules that no written one replaces, priorities aside. -/
def besides (written rules : List SecurityRule) : List SecurityRule :=
  (rules.filter fun rule => written.all fun other => rule.name ≠ other.name).map
    SecurityRule.unprioritized

theorem besides_upsert {written : List SecurityRule} {rule other : SecurityRule}
    (member : other ∈ written) (named : rule.name = other.name) (rules : List SecurityRule) :
    besides written (Store.upsert SecurityRule.name rule rules) = besides written rules := by
  rw [besides, besides, Store.filter_upsert]
  intro kept same
  rw [List.all_eq_false]
  exact ⟨other, member, by simpa using same.trans named⟩

/-- The rules of a configuration replace those of their names. -/
theorem upsertAll_customRulesFrom (vmName destinationIp : Text) (wanted : List PortData)
    (rules : List SecurityRule) :
    Azure.upsertAll (customRulesFrom vmName destinationIp 0 wanted)
        (rules.map SecurityRule.unprioritized) =
      besides (customRulesFrom vmName destinationIp 0 wanted) rules ++
        customRulesFrom vmName destinationIp 0 wanted := by
  have replaced := Store.foldl_upsert_of_nodup (keyed_customRulesFrom vmName destinationIp wanted)
    (rules.map SecurityRule.unprioritized)
  rwa [List.filter_map] at replaced

/-- A rule of a configuration is written under the name of one of its rules. -/
theorem exists_mem_customRulesFrom {destinationIp : Text} {wanted : List PortData}
    {ruleData : InboundRule} (member : ruleData ∈ namedRules vmName destinationIp 0 wanted)
    (priority : Int) :
    ∃ other ∈ customRulesFrom vmName destinationIp 0 wanted,
      (prepareSecurityGroupRule ruleData destinationIp priority internet).name = other.name := by
  rcases List.mem_map.mp member with ⟨⟨portData, i⟩, isNumbered, isData⟩
  have named : ruleData.name = some (customRuleName vmName destinationIp i) := by rw [← isData]; rfl
  refine ⟨_, List.mem_map_of_mem isNumbered, ?_⟩
  rw [customRuleOf_name]
  exact nameAt_of_named named priority

/-- The rules of a configuration, which several attempts may have written in part,
replace those of their names. -/
theorem rulesOf_createConfiguration {destinationIp : Text} {wanted : List PortData}
    (present : state.2.rulesOf nsg = some rules)
    (success : run services (createNetworkSecurityGroupRules nsg
      (namedRules vmName destinationIp 0 wanted) destinationIp lock) state = (.ok (), after)) :
    ∃ left, after.2.rulesOf nsg = some left ∧ left.map SecurityRule.unprioritized =
      Azure.upsertAll (customRulesFrom vmName destinationIp 0 wanted)
        (rules.map SecurityRule.unprioritized) := by
  let named := namedRules vmName destinationIp 0 wanted
  let written := customRulesFrom vmName destinationIp 0 wanted
  let once : Shell Unit := withLock lock do
    let securityRules ← send (.listSecurityRules nsg)
    createRules nsg destinationIp internet named
      (rulePriorityGenerator (securityRules.map SecurityRule.priority) ruleDefaultPriority)
  have creates : Within (CreatesRules nsg named destinationIp internet) once := by
    apply Within.withLock
    apply Within.bind (within_perform (Or.inl rfl))
    intro securityRules
    exact createRules_within fun _ member => member
  have keeps : ∀ sent rules, CreatesRules nsg named destinationIp internet sent →
      (sent.onRules nsg rules).map (besides written) = rules.map (besides written) := by
    rintro sent rules (rfl | ⟨ruleData, member, priority, rfl⟩)
    · rfl
    · rcases exists_mem_customRulesFrom member priority with ⟨other, isWritten, isNamed⟩
      rw [Request.onRules, if_pos rfl, Option.map_map]
      congr 1
      funext rules
      exact besides_upsert isWritten isNamed rules
  obtain ⟨start, sameOthers, last⟩ :=
    exists_last_attempt (besides written) creates keeps success
  -- the last attempt lists the rules and writes all of its own
  rw [run_withLock] at last
  rcases run_bind_eq_ok last with ⟨listed, between, isListed, creation⟩
  rcases rulesOf_listed isListed with ⟨sameState, isFound⟩
  rw [present, ← sameState, isFound, Option.map_some, Option.map_some, Option.some.injEq]
    at sameOthers
  refine ⟨_, rulesOf_createRules isFound creation, ?_⟩
  calc
    _ = Azure.upsertAll written (listed.map SecurityRule.unprioritized) :=
      map_addRules vmName destinationIp wanted listed
    _ = besides written listed ++ written := upsertAll_customRulesFrom _ _ _ _
    _ = besides written rules ++ written := by rw [sameOthers]
    _ = _ := (upsertAll_customRulesFrom _ _ _ _).symm

/-- The loop over configurations, all of which resolve if it ends well. -/
theorem rulesOf_createConfigurations {nicToSubnetMap : List (NetworkInterface × Text)}
    {configurations : List SecurityGroupConfiguration} (present : state.2.rulesOf nsg = some rules)
    (success : run services (forEach configurations fun configuration => do
      let resolved ← ofExcept (resolve environment groupName nicToSubnetMap configuration)
      createNetworkSecurityGroupRules nsg (namedRules vmName resolved.1 0 resolved.2) resolved.1
        lock) state = (.ok (), after)) :
    ∃ resolved left,
      configurations.mapM (resolve environment groupName nicToSubnetMap) = .ok resolved ∧
      after.2.rulesOf nsg = some left ∧ left.map SecurityRule.unprioritized =
        Azure.upsertAll (customRulesOf vmName resolved)
          (rules.map SecurityRule.unprioritized) := by
  induction configurations generalizing state rules with
  | nil =>
      cases success
      exact ⟨[], rules, rfl, present, rfl⟩
  | cons configuration rest ih =>
      rcases run_bind_eq_ok success with ⟨_, between, round, success⟩
      rcases run_bind_eq_ok round with ⟨found, _, resolution, creation⟩
      have isResolved : resolve environment groupName nicToSubnetMap configuration = .ok found :=
        congrArg Prod.fst resolution
      cases congrArg Prod.snd resolution
      rcases rulesOf_createConfiguration present creation with ⟨written, isWritten, first⟩
      rcases ih isWritten success with ⟨others, left, areResolved, isLeft, later⟩
      refine ⟨found :: others, left, ?_, isLeft, ?_⟩
      · rw [List.mapM_cons, isResolved, areResolved]
        rfl
      · rw [later, first, ← upsertAll_append]
        rfl

/-! ## The work on an app -/

/-- The destinations and rules of the configurations of a model, if all of them
resolve. -/
def resolveAll (environment : Environment) (groupName : Text)
    (interfaces : Text → Except PyException (List (NetworkInterface × Text)))
    (model : AppSecurityGroupModel) : Except PyException (List (Text × List PortData)) := do
  let nicToSubnetMap ← interfaces model.appName
  let configurations ← configurationsOf model
  configurations.mapM (resolve environment groupName nicToSubnetMap)

theorem readInterfaces_truthful (vmName : Text) :
    Truthful Request.mayFail ServiceError.toException (Azure.handle false)
      (retryConnection (send (.getVirtualMachine vmName)) >>= createNicToSubnetNameMap) := by
  apply Truthful.bind
  · exact (Faithful.retry (faithful_perform fun _ => rfl)).truthful
  intro vm
  apply Truthful.collect
  intro nicRef
  exact (truthful_perform _).bind fun _ => truthful_ofExcept _

variable {model : AppSecurityGroupModel}

/-- What the work on an app leaves in its group where it ends well. -/
theorem rulesOf_setAppSecurityGroups
    (success : run services (setAppSecurityGroups environment groupName model) state =
      (.ok (), after)) :
    ∃ rules resolved left, state.2.rulesOf (vmNsgName model.appName) = some rules ∧
      resolveAll environment groupName (interfacesOf state.2) model = .ok resolved ∧
      after.2.rulesOf (vmNsgName model.appName) = some left ∧
      left.map SecurityRule.unprioritized = Azure.upsertAll (customRulesOf model.appName resolved)
        ((permanentRules rules).map SecurityRule.unprioritized) := by
  rcases run_bind_eq_ok success with ⟨_, locked, lockRun, success⟩
  have sameAzure : locked.2 = state.2 :=
    (congrArg Prod.snd (run_services_of_ok lockRun)).symm
  rcases run_bind_eq_ok success with ⟨_, deleted, deletion, success⟩
  rcases rulesOf_deleteCustomSecurityRules deletion with ⟨rules, present, permanent⟩
  have changes : Within (ChangesOnly (vmNsgName model.appName)) (deleteCustomSecurityRulesFromNsg
      (vmNsgName model.appName) (.resource (vmNsgName model.appName))) :=
    (deleteCustomSecurityRulesFromNsg_within _).mono fun _ => changesOnly_of_deletesCustomRules
  have frame := onlyRules_run changes locked
  rw [deletion] at frame
  rw [← bind_assoc] at success
  rcases run_bind_eq_ok success with ⟨nicToSubnetMap, found, reading, success⟩
  have read := readInterfaces_truthful _ _ _ _ reading
  rw [run_readInterfaces, interfacesOf_of_onlyRules frame, sameAzure] at read
  rcases Prod.mk.inj read with ⟨interfaces, stillDeleted⟩
  rcases run_bind_eq_ok success with ⟨configurations, _, isConfigured, loop⟩
  have configured : configurationsOf model = .ok configurations := congrArg Prod.fst isConfigured
  cases congrArg Prod.snd isConfigured
  rw [stillDeleted] at permanent
  rcases rulesOf_createConfigurations permanent loop with
    ⟨resolved, left, areResolved, isLeft, content⟩
  refine ⟨rules, resolved, left, sameAzure ▸ present, ?_, isLeft, content⟩
  rw [resolveAll, interfaces, configured]
  exact areResolved

/-- A round reports the outcome of the work on its app. -/
theorem run_setApp_eq_ok {result : SetAppSecurityGroupActionResult}
    (ran : run services (setApp environment groupName model) state = (.ok result, after))
    (success : result.success = true) :
    run services (setAppSecurityGroups environment groupName model) state = (.ok (), after) := by
  rw [setApp, run_catching] at ran
  cases work : run services (setAppSecurityGroups environment groupName model) state with
  | mk outcome left =>
      cases outcome with
      | ok a =>
          rw [run_bind_of_ok work] at ran
          cases ran
          rfl
      | error e =>
          rw [run_bind_of_error work] at ran
          cases ran
          cases success

/-- A round changes at most the group of its app. -/
theorem setApp_changesOnly (environment : Environment) (groupName : Text)
    (model : AppSecurityGroupModel) :
    Within (ChangesOnly (vmNsgName model.appName)) (setApp environment groupName model) := by
  have reads : ∀ {sent : Request}, (∀ azure, (Azure.handle false sent azure).2 = azure) →
      ChangesOnly (vmNsgName model.appName) sent := by
    intro sent reads azure
    rw [reads azure]
    exact OnlyRules.refl azure
  apply Within.catching
  · apply Within.bind
    · apply Within.bind (within_perform (reads fun _ => rfl))
      intro _
      apply Within.bind
      · exact Within.mono (deleteCustomSecurityRulesFromNsg_within _) fun _ =>
          changesOnly_of_deletesCustomRules
      intro _
      apply Within.bind (Within.retry (within_perform (reads fun _ => rfl)) 4)
      intro vm
      apply Within.bind
      · apply Within.collect
        intro nicRef _
        exact Within.bind (within_perform (reads fun _ => rfl)) fun _ => within_ofExcept _
      intro nicToSubnetNameMap
      apply Within.bind (within_ofExcept _)
      intro configurations
      apply Within.forEach
      intro configuration _
      apply Within.bind (within_ofExcept _)
      intro resolved
      exact Within.mono (createNetworkSecurityGroupRules_within _ none) fun _ =>
        changesOnly_of_createsRules
    · intro _
      trivial
  · intro e
    trivial

/-- Rounds leave the machines and interfaces as they are. -/
theorem interfacesOf_rounds (environment : Environment) (groupName : Text)
    (models : List AppSecurityGroupModel) (state : FaultyAzure) :
    interfacesOf (run services (collect models (setApp environment groupName)) state).2.2 =
      interfacesOf state.2 := by
  have within : Within (fun sent => ∃ nsg, ChangesOnly nsg sent)
      (collect models (setApp environment groupName)) :=
    Within.collect fun model _ =>
      (setApp_changesOnly environment groupName model).mono fun _ changes => ⟨_, changes⟩
  apply within.run_faulty_preserves fun azure : Azure => interfacesOf azure = interfacesOf state.2
  · rintro sent azure ⟨nsg, changes⟩ same
    exact (interfacesOf_of_onlyRules (changes azure)).trans same
  · rfl

/-- Rounds for other apps leave the group of an app. -/
theorem rulesOf_rounds (environment : Environment) (groupName : Text)
    {models : List AppSecurityGroupModel}
    (others : ∀ other ∈ models, other.appName ≠ model.appName) (state : FaultyAzure) :
    (run services (collect models (setApp environment groupName)) state).2.2.rulesOf
        (vmNsgName model.appName) = state.2.rulesOf (vmNsgName model.appName) := by
  have within : Within (fun sent => ∃ nsg ≠ vmNsgName model.appName, ChangesOnly nsg sent)
      (collect models (setApp environment groupName)) := by
    apply Within.collect
    intro other member
    apply (setApp_changesOnly environment groupName other).mono
    exact fun _ changes => ⟨_, fun same => others other member (vmNsgName_injective same), changes⟩
  apply within.run_faulty_preserves fun azure : Azure =>
    azure.rulesOf (vmNsgName model.appName) = state.2.rulesOf (vmNsgName model.appName)
  · rintro sent azure ⟨nsg, different, changes⟩ same
    exact ((changes azure).others _ (Ne.symm different)).trans same
  · rfl

end SetAppSecurityGroupsOperation

end AzureShell
