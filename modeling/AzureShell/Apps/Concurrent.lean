import AzureShell.Apps.Content
import AzureShell.Nsg.Effect
import AzureShell.Prog.Sections
import Mathlib.Data.Finset.Dedup

/-!
# Concurrent requests for custom rules

An update of an app lists the custom rules of its group without the lock, and
deletes them and creates the new ones under the lock, with other requests to
Azure in between.  The lock keeps the calls apart, not the updates: two updates
of one app serialize if none of them lists the rules while the other is between
its own listing and its last call.
-/

namespace AzureShell

open Prog SecurityGroupService

namespace SetAppSecurityGroupsOperation

/-! ## Concurrent calls -/

/-- The custom rules among some rules, priorities aside. -/
def customContent (rules : List SecurityRule) : Finset SecurityRule :=
  ((rules.filter fun rule => isCustom rule).map SecurityRule.unprioritized).toFinset

/-- The custom rules of a group, priorities aside. -/
def customRulesIn (nsg : Text) (azure : Azure) : Finset SecurityRule :=
  customContent (azure.rulesIn nsg)

/-- The requests about the rules of a group. -/
def ConcernsRules (nsg : Text) : Request → Prop
  | .listSecurityRules group => group = nsg
  | .putSecurityRule group _ => group = nsg
  | .deleteSecurityRule group _ => group = nsg
  | _ => False

/-- The rules of a group, with its lock; an update opens with a listing. -/
def rulesCell (nsg : Text) : Cell AzureServices where
  lock := .resource nsg
  opening := .listSecurityRules nsg
  Concerns := ConcernsRules nsg
  opening_concerns := rfl

section Calls

variable (environment : Bool → Environment) (groupName : Text)
  (requests : Bool → List AppSecurityGroupModel) (azure : Azure)

/-- Two calls of `set_apps_security_groups` at the same time. -/
def concurrently : Config AzureServices Azure Bool (List SetAppSecurityGroupActionResult) :=
  Config.initial (fun i => setAppsSecurityGroups (environment i) groupName (requests i)) azure

/-- What the two calls leave one after the other. -/
def oneAfterTheOther (first : Bool) : Azure :=
  let between := (run (Azure.handle false)
    (setAppsSecurityGroups (environment first) groupName (requests first)) azure).2
  (run (Azure.handle false)
    (setAppsSecurityGroups (environment !first) groupName (requests !first)) between).2

/-- If both calls have ended and report success for all their apps, the custom
rules of the machine's group are those left by the calls one after the other, in
one of the two orders. -/
def Serialized (vmName : Text)
    (config : Config AzureServices Azure Bool (List SetAppSecurityGroupActionResult)) : Prop :=
  ∀ results : Bool → List SetAppSecurityGroupActionResult,
    (∀ i, config.threads i = .done (.ok (results i))) →
    (∀ i, ∀ result ∈ results i, result.success = true) →
    ∃ first, customRulesIn (vmNsgName vmName) config.shared =
      customRulesIn (vmNsgName vmName)
        (oneAfterTheOther environment groupName requests azure first)

end Calls

/-! ## What an update sees and leaves -/

/-- What an update sees: the rules of its group, machines and interfaces. -/
structure GroupView where
  rules : Option (List SecurityRule)
  virtualMachines : List VirtualMachine
  networkInterfaces : List NetworkInterface

/-- Updates change the custom rules of the group only. -/
def watchGroup (nsg : Text) (azure : Azure) :
    Cell.Watch Azure GroupView (Finset SecurityRule) where
  view := fun s => ⟨s.rulesOf nsg, s.virtualMachines, s.networkInterfaces⟩
  invariant := fun view =>
    view.rules.map permanentRules = (azure.rulesOf nsg).map permanentRules ∧
      view.virtualMachines = azure.virtualMachines ∧
      view.networkInterfaces = azure.networkInterfaces
  content := fun view => customContent (view.rules.getD [])

section Updates

variable (environment : Environment) (groupName : Text) (azure : Azure) (vmName : Text)

/-- The custom rules an update leaves. -/
def leftContent (model : AppSecurityGroupModel) : Finset SecurityRule :=
  customContent (((azure.rulesOf (vmNsgName vmName)).map fun rules =>
    (appEffect environment groupName (interfacesOf azure) model rules).2).getD [])

/-- What the last update of the machine's group leaves. -/
def lastUpdate (last : Option (Finset SecurityRule)) :
    List AppSecurityGroupModel → Option (Finset SecurityRule)
  | [] => last
  | model :: rest =>
      lastUpdate
        (if model.appName = vmName then some (leftContent environment groupName azure vmName model)
          else last) rest

variable {environment groupName azure vmName}

theorem lastUpdate_or (last : Option (Finset SecurityRule)) (models : List AppSecurityGroupModel) :
    lastUpdate environment groupName azure vmName last models =
      (lastUpdate environment groupName azure vmName none models).or last := by
  induction models generalizing last with
  | nil => rfl
  | cons model rest ih =>
      simp only [lastUpdate]
      by_cases same : model.appName = vmName
      · simp only [if_pos same]
        rw [ih]
        cases lastUpdate environment groupName azure vmName none rest <;> rfl
      · simp only [if_neg same]
        exact ih last

/-- What rounds rely on: the interfaces of machines and the permanent rules of
the group are those of the start. -/
structure SameSetting (azure : Azure) (vmName : Text) (s : Azure) : Prop where
  interfaces : interfacesOf s = interfacesOf azure
  permanent : (s.rulesOf (vmNsgName vmName)).map permanentRules =
    (azure.rulesOf (vmNsgName vmName)).map permanentRules

theorem sameSetting_of_watched {s : Azure}
    (invariant : (watchGroup (vmNsgName vmName) azure).invariant
      ((watchGroup (vmNsgName vmName) azure).view s)) : SameSetting azure vmName s where
  interfaces := by
    rcases invariant with ⟨_, machines, interfaces⟩
    change s.virtualMachines = azure.virtualMachines at machines
    change s.networkInterfaces = azure.networkInterfaces at interfaces
    unfold interfacesOf
    rw [machines, interfaces]
  permanent := invariant.1

/-- What a round leaves in the group of a machine. -/
def contentAfter (environment : Environment) (groupName : Text) (azure : Azure) (vmName : Text)
    (model : AppSecurityGroupModel) (before : Finset SecurityRule) : Finset SecurityRule :=
  if model.appName = vmName then leftContent environment groupName azure vmName model else before

variable (environment groupName)

/-- A round leaves the content of its update, or the group as it was. -/
theorem run_setApp_content (model : AppSecurityGroupModel) {s : Azure}
    (setting : SameSetting azure vmName s) :
    ∃ result t, run (Azure.handle false) (setApp environment groupName model) s = (.ok result, t) ∧
      SameSetting azure vmName t ∧
      customRulesIn (vmNsgName vmName) t =
        contentAfter environment groupName azure vmName model
          (customRulesIn (vmNsgName vmName) s) := by
  let rebuild := rebuildOf environment groupName (interfacesOf azure) model
  have keeps : rebuild.KeepsPermanent permanentRules :=
    rebuildOf_keepsPermanent environment groupName (interfacesOf azure) model
  obtain ⟨t, ran, leaves⟩ := run_setApp environment groupName s model
  rw [setting.interfaces] at ran leaves
  refine ⟨_, t, ran, ⟨leaves.interfaces.trans setting.interfaces, ?_⟩, ?_⟩
  · rw [leaves.rules, ← setting.permanent]
    exact Store.Rebuild.apply_samePermanent keeps s.rulesOf (vmNsgName vmName)
  · rw [customRulesIn, Azure.rulesIn, leaves.rules, contentAfter]
    by_cases same : model.appName = vmName
    · rw [if_pos same, leftContent]
      have key : rebuild.key = vmNsgName vmName := congrArg vmNsgName same
      have left : (rebuild.apply s.rulesOf).2 (vmNsgName vmName) =
          (azure.rulesOf (vmNsgName vmName)).map fun rules => (rebuild.effect rules).2 := by
        have permanent := setting.permanent
        rw [← key] at permanent ⊢
        exact Store.Rebuild.apply_key_of_same keeps permanent
      exact congrArg (fun rules => customContent (rules.getD [])) left
    · rw [if_neg same]
      have other : vmNsgName vmName ≠ rebuild.key := fun equal =>
        same (vmNsgName_injective equal).symm
      have left : (rebuild.apply s.rulesOf).2 (vmNsgName vmName) = s.rulesOf (vmNsgName vmName) :=
        Store.Rebuild.apply_of_ne other
      exact congrArg (fun rules => customContent (rules.getD [])) left

/-- A call alone leaves the content of its last update. -/
theorem run_setAppsSecurityGroups_content (models : List AppSecurityGroupModel) {s : Azure}
    (setting : SameSetting azure vmName s) :
    ∃ results t, run (Azure.handle false) (setAppsSecurityGroups environment groupName models) s =
        (.ok results, t) ∧
      SameSetting azure vmName t ∧
      lastUpdate environment groupName azure vmName (some (customRulesIn (vmNsgName vmName) s))
        models = some (customRulesIn (vmNsgName vmName) t) := by
  induction models generalizing s with
  | nil => exact ⟨[], s, rfl, setting, rfl⟩
  | cons model rest ih =>
      obtain ⟨result, between, ran, settingBetween, content⟩ :=
        run_setApp_content environment groupName model setting
      obtain ⟨results, t, later, settingAfter, contentLater⟩ := ih settingBetween
      refine ⟨result :: results, t, (run_bind_of_ok ran).trans (run_bind_of_ok later),
        settingAfter, ?_⟩
      rw [lastUpdate, ← contentLater, content, contentAfter]
      split <;> rfl

end Updates

/-! ## The conduct of a round -/

section Rounds

variable (environment : Environment) (groupName : Text) (model : AppSecurityGroupModel)

/-- The deletion of custom rules after they were listed. -/
def deleteListed (nsg : Text) (rulesInNsg : List SecurityRule) : Shell Unit :=
  let customRules := rulesInNsg.filter fun rule => customRule <:+: rule.name
  withLock (.resource nsg) <| forEach customRules fun rule =>
    send (.deleteSecurityRule nsg rule.name)

/-- The work on an app after its custom rules were deleted. -/
def createRequested : Shell Unit := do
  let vmName := model.appName
  let vm ← retryConnection (send (.getVirtualMachine vmName))
  let nicToSubnetNameMap ← createNicToSubnetNameMap vm
  let configurations ← ofExcept (configurationsOf model)
  forEach configurations fun configuration => do
    let resolved ← ofExcept (resolve environment groupName nicToSubnetNameMap configuration)
    createNetworkSecurityGroupRules (vmNsgName vmName) (namedRules vmName resolved.1 0 resolved.2)
      resolved.1 (.resource (vmNsgName vmName))

/-- The work on an app after the answer to its first listing. -/
def updateListed (listed : Except PyException (List SecurityRule)) : Shell Unit := do
  let nsg := vmNsgName model.appName
  (Prog.ofExcept listed >>= deleteListed nsg).catching fun e =>
    if retryIfConnectionError e then
      Prog.retry retryIfConnectionError 3 (send (.listSecurityRules nsg) >>= deleteListed nsg)
    else
      raise e
  createRequested environment groupName model

/-- What a round does after the answer to its first listing. -/
def afterListing (listed : Except PyException (List SecurityRule)) :
    Shell SetAppSecurityGroupActionResult :=
  (do updateListed environment groupName model listed
      pure (actionResult model (.ok ()))).catching fun e => pure (actionResult model (.error e))

/-- A round asks for the lock and lists the rules of the group before it does
anything else. -/
theorem setApp_eq :
    setApp environment groupName model =
      .call (.getResourceLock (vmNsgName model.appName)) fun asked =>
        match asked with
        | .ok _ => .call (.listSecurityRules (vmNsgName model.appName))
            (afterListing environment groupName model)
        | .error e => .done (.ok (actionResult model (.error e))) := by
  apply congrArg (Prog.call (S := AzureServices) (.getResourceLock (vmNsgName model.appName)))
  funext asked
  cases asked with
  | ok a => rfl
  | error e => rfl

/-- The requests of a round after its listing, with and without the lock. -/
def RoundRequest (nsg : Text) (held : Bool) : Request → Prop
  | .listSecurityRules group => group = nsg ∧ held = true
  | .putSecurityRule group rule => group = nsg ∧ held = true ∧ isCustom rule = true
  | .deleteSecurityRule group name => group = nsg ∧ held = true ∧ customRule <:+: name
  | .getVirtualMachine _ => True
  | .getNetworkInterface _ => True
  | _ => False

/-- The conduct of a round after its listing. -/
def roundConduct (nsg : Text) : Conduct AzureServices where
  request := RoundRequest nsg
  lock := fun lock => lock = .resource nsg

end Rounds

section RoundsObey

variable {environment : Environment} {groupName nsg : Text} {model : AppSecurityGroupModel}

/-- Exceptions that do not make a retry repeat the call. -/
def Final (e : PyException) : Prop :=
  retryIfConnectionError e = false

theorem final_of_isNotFound {e : PyException} (isNotFound : e = .notFound) : Final e := by
  rw [Final, isNotFound, retryIfConnectionError_notFound]

theorem final_of_listing {nsg : Text} {s : Azure} (e : PyException)
    (failed : (Azure.handle false (.listSecurityRules nsg) s).1 = .error e) : Final e := by
  simp only [Azure.handle] at failed
  split at failed
  · cases failed
  · cases failed
    exact final_of_isNotFound rfl

theorem deleteListed_obeys (rulesInNsg : List SecurityRule) :
    Obeys (Azure.handle false) (roundConduct nsg) (KeepsLock false Final) false
      (deleteListed nsg rulesInNsg) := by
  apply Obeys.withLock
  · rfl
  · apply Obeys.forEach
    intro rule member
    have custom := (List.mem_filter.mp member).2
    apply obeys_perform
    · exact ⟨rfl, rfl, of_decide_eq_true custom⟩
    · intro s e failed
      cases failed

theorem createRules_obeys {inboundRules : List InboundRule} {destinationAddr sourceAddress : Text}
    (custom : ∀ ruleData ∈ inboundRules, ∀ priority, isCustom
      (prepareSecurityGroupRule ruleData destinationAddr priority sourceAddress) = true)
    (generator : PriorityGenerator) :
    Obeys (Azure.handle false) (roundConduct nsg) (KeepsLock true Final) true
      (createRules nsg destinationAddr sourceAddress inboundRules generator) := by
  induction inboundRules generalizing generator with
  | nil => exact obeys_pure ()
  | cons ruleData rest ih =>
      rw [createRules]
      split
      · rename_i priority later _
        apply Obeys.andThen
        · apply Obeys.retry fun _ final => final
          apply obeys_perform
          · exact ⟨rfl, rfl, custom ruleData List.mem_cons_self priority⟩
          · intro s e failed
            simp only [Azure.handle] at failed
            split at failed
            · cases failed
            · cases failed
              exact final_of_isNotFound rfl
        · intro _
          exact ih (fun other member => custom other (List.mem_cons_of_mem ruleData member)) later
      · apply obeys_raise
        rw [Final]
        decide

theorem find_final {α : Type} {key : α → Text} {name : Text} {items : List α} (e : PyException)
    (failed : Azure.find key name items = .error e) : Final e :=
  final_of_isNotFound (Azure.find_eq_error failed)

theorem createNetworkSecurityGroupRules_obeys {inboundRules : List InboundRule}
    {destinationAddr sourceAddress : Text}
    (custom : ∀ ruleData ∈ inboundRules, ∀ priority, isCustom
      (prepareSecurityGroupRule ruleData destinationAddr priority sourceAddress) = true)
    (startFrom : Option Int) :
    Obeys (Azure.handle false) (roundConduct nsg) (KeepsLock false Final) false
      (createNetworkSecurityGroupRules nsg inboundRules destinationAddr (.resource nsg) startFrom
        sourceAddress) := by
  apply Obeys.retry fun _ final => final
  apply Obeys.withLock
  · rfl
  · apply Obeys.andThen
    · apply obeys_perform
      · exact ⟨rfl, rfl⟩
      · intro s e failed
        exact final_of_listing e failed
    · intro rules
      exact createRules_obeys custom _

theorem isCustom_of_named {vmName destinationIp : Text} {wanted : List PortData}
    {ruleData : InboundRule} (member : ruleData ∈ namedRules vmName destinationIp 0 wanted)
    (destinationAddr sourceAddress : Text) (priority : Int) :
    isCustom (prepareSecurityGroupRule ruleData destinationAddr priority sourceAddress) = true := by
  rcases name_of_mem_namedRules member with ⟨i, named⟩
  simp only [isCustom, prepareSecurityGroupRule, nameAt_of_named named, decide_eq_true_eq]
  exact customRule_infix_customRuleName vmName destinationIp i

/-- Whatever happens to the work on an app, its lock is given back. -/
theorem createRequested_obeys :
    Obeys (Azure.handle false) (roundConduct (vmNsgName model.appName))
      (KeepsLock false fun _ => True) false (createRequested environment groupName model) := by
  apply Obeys.andThen
  · apply Obeys.anyError
    apply Obeys.retry fun _ final => final
    exact obeys_perform trivial fun _ => find_final
  · intro vm
    apply Obeys.andThen
    · apply Obeys.collect
      intro nicRef _
      apply Obeys.andThen
      · exact obeys_perform trivial fun _ _ _ => trivial
      · intro nic
        exact obeys_ofExcept fun _ _ => trivial
    · intro nicToSubnetNameMap
      apply Obeys.andThen
      · exact obeys_ofExcept fun _ _ => trivial
      · intro configurations
        apply Obeys.forEach
        intro configuration _
        apply Obeys.andThen
        · exact obeys_ofExcept fun _ _ => trivial
        · intro resolved
          apply Obeys.anyError
          apply createNetworkSecurityGroupRules_obeys
          intro ruleData member priority
          exact isCustom_of_named member _ _ _

/-- After its listing a round gives back its lock and ends with a result. -/
theorem afterListing_obeys {listed : Except PyException (List SecurityRule)}
    (final : ∀ e, listed = .error e → Final e) :
    Obeys (Azure.handle false) (roundConduct (vmNsgName model.appName))
      (KeepsLock false fun _ => False) false (afterListing environment groupName model listed) := by
  apply Obeys.handling
  · apply Obeys.andThen
    · apply Obeys.andThen
      · apply Obeys.anyError
        apply Obeys.handling
        · apply Obeys.andThen
          · exact obeys_ofExcept final
          · intro rulesInNsg
            exact deleteListed_obeys rulesInNsg
        · intro e isFinal
          have notAgain : retryIfConnectionError e = false := isFinal
          simp only [notAgain]
          exact obeys_raise isFinal
      · intro _
        exact createRequested_obeys
    · intro _
      exact obeys_pure _
  · intro e _
    exact obeys_pure _

end RoundsObey

end SetAppSecurityGroupsOperation

end AzureShell
