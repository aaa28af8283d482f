import AzureShell.Apps.Effect

/-!
# Repeating a request for custom rules

Each round of the operation rebuilds one group from its permanent rules, so a
repeated request finds the permanent parts it started from.  Where the
interfaces of a machine lie on different subnets, the order in which the
operation goes through them does not matter either.
-/

namespace AzureShell

open Prog SecurityGroupService

namespace SetAppSecurityGroupsOperation

/-- No two interfaces of the machine lie on the same subnet. -/
def OnDifferentSubnets (azure : Azure) (vmName : Text) : Prop :=
  ∀ nicToSubnetMap, interfacesOf azure vmName = .ok nicToSubnetMap →
    Store.Keyed Prod.snd nicToSubnetMap

section Order

variable (environment : Environment) (order : ItemOrder) (groupName : Text)

theorem resolve_order {nicToSubnetMap : List (NetworkInterface × Text)}
    (keyed : Store.Keyed Prod.snd nicToSubnetMap) (configuration : SecurityGroupConfiguration) :
    resolve { environment with itemOrder := order } groupName nicToSubnetMap configuration =
      resolve environment groupName nicToSubnetMap configuration := by
  have sameNic : ∀ subnetName,
      findNicBySubnet { environment with itemOrder := order } nicToSubnetMap subnetName =
        findNicBySubnet environment nicToSubnetMap subnetName := by
    intro subnetName
    have ordered := keyed.lookup_perm (order.arrange_perm nicToSubnetMap) subnetName
    have usual := keyed.lookup_perm (environment.itemOrder.arrange_perm nicToSubnetMap) subnetName
    exact congrArg (Option.map Prod.fst) (ordered.trans usual.symm)
  unfold resolve
  rw [sameNic]
  rfl

theorem createConfigured_order (vmName : Text) {nicToSubnetMap : List (NetworkInterface × Text)}
    (keyed : Store.Keyed Prod.snd nicToSubnetMap)
    (configurations : List SecurityGroupConfiguration) (rules : List SecurityRule) :
    createConfigured { environment with itemOrder := order } groupName vmName nicToSubnetMap
        configurations rules =
      createConfigured environment groupName vmName nicToSubnetMap configurations rules := by
  induction configurations generalizing rules with
  | nil => rfl
  | cons configuration rest ih =>
      simp only [createConfigured, resolve_order environment order groupName keyed, ih]

theorem rebuildOf_order {azure : Azure} {model : AppSecurityGroupModel}
    (separate : OnDifferentSubnets azure model.appName) :
    rebuildOf { environment with itemOrder := order } groupName (interfacesOf azure) model =
      rebuildOf environment groupName (interfacesOf azure) model := by
  have sameEffect : ∀ rules,
      appEffect { environment with itemOrder := order } groupName (interfacesOf azure) model rules =
        appEffect environment groupName (interfacesOf azure) model rules := by
    intro rules
    unfold appEffect
    cases interfaces : interfacesOf azure model.appName with
    | error e => rfl
    | ok nicToSubnetMap =>
        have keyed := separate nicToSubnetMap interfaces
        cases configurationsOf model with
        | error e => rfl
        | ok configurations => exact createConfigured_order _ _ _ _ keyed _ _
  unfold rebuildOf
  simp only [sameEffect]

end Order

/-- Setting the custom rules of apps leaves every other rule alone, and a second
run of the same request changes nothing and reports the same, also if it goes
through the interfaces of the machines in another order. -/
theorem setAppsSecurityGroups_idempotent (environment : Environment) (order : ItemOrder)
    (groupName : Text) (models : List AppSecurityGroupModel) (azure : Azure)
    (separate : ∀ model ∈ models, OnDifferentSubnets azure model.appName) :
    let first := run (Azure.handle false) (setAppsSecurityGroups environment groupName models) azure
    let second := run (Azure.handle false)
      (setAppsSecurityGroups { environment with itemOrder := order } groupName models) first.2
    (∀ nsg, (first.2.rulesOf nsg).map permanentRules = (azure.rulesOf nsg).map permanentRules) ∧
      second.2.rulesOf = first.2.rulesOf ∧ second.1 = first.1 ∧ ∃ results, first.1 = .ok results := by
  intro first second
  let rebuilds := models.map (rebuildOf environment groupName (interfacesOf azure))
  have keeps : ∀ rebuild ∈ rebuilds, rebuild.KeepsPermanent permanentRules := by
    intro rebuild member
    rcases List.mem_map.mp member with ⟨model, _, rfl⟩
    exact rebuildOf_keepsPermanent environment groupName (interfacesOf azure) model
  obtain ⟨between, firstRun, firstLeaves⟩ :=
    run_setAppsSecurityGroups environment groupName models azure
  obtain ⟨after, secondRun, secondLeaves⟩ :=
    run_setAppsSecurityGroups { environment with itemOrder := order } groupName models between
  have sameRebuilds : models.map (rebuildOf { environment with itemOrder := order } groupName
      (interfacesOf between)) = rebuilds := by
    apply List.map_congr_left
    intro model member
    rw [firstLeaves.interfaces]
    exact rebuildOf_order environment order groupName (separate model member)
  rw [sameRebuilds, firstLeaves.rules, Store.Rebuild.applyAll_idempotent keeps] at secondRun
  rw [sameRebuilds, firstLeaves.rules, Store.Rebuild.applyAll_idempotent keeps] at secondLeaves
  let results := (Store.Rebuild.applyAll rebuilds azure.rulesOf).1
  have firstEq : first = (.ok results, between) := firstRun
  have secondEq : second = (.ok results, after) := by
    change run _ _ first.2 = _
    rw [firstEq]
    exact secondRun
  rw [secondEq, firstEq]
  refine ⟨?_, secondLeaves.rules.trans firstLeaves.rules.symm, rfl, results, rfl⟩
  intro nsg
  rw [firstLeaves.rules]
  exact Store.Rebuild.applyAll_samePermanent keeps azure.rulesOf nsg

theorem setAppsSecurityGroups_idempotent_example :
    let model : AppSecurityGroupModel := ⟨"app".toList,
      some [⟨"left".toList, some [tcpPort "80".toList]⟩,
        ⟨"right".toList, some [tcpPort "22".toList]⟩]⟩
    let first := run (Azure.handle false)
      (setAppsSecurityGroups namedSubnets "group".toList [model]) twoInterfaces
    let second := run (Azure.handle false)
      (setAppsSecurityGroups { namedSubnets with itemOrder := ItemOrder.reversed } "group".toList
        [model]) first.2
    second.2.rulesOf = first.2.rulesOf ∧ second.1 = first.1 := by
  intro model first second
  have separate : ∀ other ∈ [model], OnDifferentSubnets twoInterfaces other.appName := by
    intro other member nicToSubnetMap found
    rw [List.mem_singleton.mp member] at found
    have interfaces : interfacesOf twoInterfaces model.appName =
        .ok (twoInterfaces.networkInterfaces.zip ["left".toList, "right".toList]) := by
      rfl
    rw [interfaces] at found
    cases found
    rw [Store.Keyed]
    decide
  obtain ⟨_, sameRules, sameResults, _⟩ := setAppsSecurityGroups_idempotent namedSubnets
    ItemOrder.reversed "group".toList [model] twoInterfaces separate
  exact ⟨sameRules, sameResults⟩

end SetAppSecurityGroupsOperation

end AzureShell
