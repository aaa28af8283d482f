import AzureShell.Apps.Retried

/-!
# Whether the requested rules are there

The configurations of an app are written one after the other, and the numbers
in the names start again with each of them.  Two configurations with the same
destination therefore use the same names, and the rules of the later one
replace those of the earlier one.
-/

namespace AzureShell

open Prog SecurityGroupService

namespace SetAppSecurityGroupsOperation

/-- Two requested rules admit the same traffic. -/
def SameTraffic (first second : PortData) : Prop :=
  first.protocol = second.protocol ∧ first.portRange = second.portRange ∧
    first.source = second.source

/-- The rule has the protocol, ports and source of a requested rule, and its
destination. -/
def Carries (destinationIp : Text) (wanted : PortData) (rule : SecurityRule) : Prop :=
  rule.protocol = wanted.protocol ∧ rule.destinationPortRange = wanted.portRange ∧
    rule.sourceAddressPrefix = wanted.source ∧ rule.destinationAddressPrefix = destinationIp

/-- Every requested rule has a custom rule that carries it, and every custom
rule carries a requested one. -/
def RequestMet (resolved : List (Text × List PortData)) (rules : List SecurityRule) : Prop :=
  (∀ configuration ∈ resolved, ∀ wanted ∈ configuration.2,
      ∃ rule ∈ rules, isCustom rule = true ∧ Carries configuration.1 wanted rule) ∧
    ∀ rule ∈ rules, isCustom rule = true →
      ∃ configuration ∈ resolved, ∃ wanted ∈ configuration.2, Carries configuration.1 wanted rule

/-- Every rule of every configuration has the traffic of a rule that keeps its
name, for the same destination: that of the last configuration long enough to
use this name. -/
def NothingOverwritten (resolved : List (Text × List PortData)) : Prop :=
  ∀ configuration ∈ resolved, ∀ wanted ∈ configuration.2,
    ∃ i kept, keptRule resolved configuration.1 i = some kept ∧ SameTraffic kept wanted

/-! ## The custom rules after a successful round -/

section Round

variable {vmName : Text} {resolved : List (Text × List PortData)}

theorem isCustom_customRuleOf (destinationIp : Text) (i : Nat) (wanted : PortData) :
    isCustom (customRuleOf vmName destinationIp i wanted) = true := by
  rw [isCustom, customRuleOf_name, decide_eq_true_eq]
  exact customRule_infix_customRuleName vmName destinationIp i

theorem exists_of_mem_customRulesOf {rule : SecurityRule}
    (member : rule ∈ customRulesOf vmName resolved) :
    ∃ configuration ∈ resolved, ∃ i wanted, configuration.2[i]? = some wanted ∧
      rule = customRuleOf vmName configuration.1 i wanted := by
  rcases List.mem_flatMap.mp member with ⟨configuration, configurationMem, written⟩
  rcases mem_customRulesFrom_iff.mp written with ⟨i, wanted, found, equal⟩
  exact ⟨configuration, configurationMem, i, wanted, found, equal⟩

/-- The custom rules are those that kept their names. -/
theorem mem_upsertAll_customRulesOf_iff {permanent : List SecurityRule}
    (noCustom : ∀ rule ∈ permanent, isCustom rule = false) {rule : SecurityRule} :
    rule ∈ Azure.upsertAll (customRulesOf vmName resolved) permanent ∧ isCustom rule = true ↔
      ∃ destinationIp i kept, keptRule resolved destinationIp i = some kept ∧
        rule = customRuleOf vmName destinationIp i kept := by
  constructor
  · rintro ⟨member, custom⟩
    rcases Store.mem_foldl_upsert_iff.mp member with written | ⟨old, _⟩
    · have among := (Store.lookup_eq_some written).1
      obtain ⟨configuration, _, i, wanted, _, rfl⟩ :=
        exists_of_mem_customRulesOf (List.mem_reverse.mp among)
      rw [customRuleOf_name, lookup_customRulesOf] at written
      rcases Option.map_eq_some_iff.mp written with ⟨kept, isKept, equal⟩
      exact ⟨configuration.1, i, kept, isKept, equal.symm⟩
    · rw [noCustom rule old] at custom
      contradiction
  · rintro ⟨destinationIp, i, kept, isKept, rfl⟩
    refine ⟨Store.mem_foldl_upsert_iff.mpr (Or.inl ?_), isCustom_customRuleOf _ _ _⟩
    rw [customRuleOf_name, lookup_customRulesOf, isKept, Option.map_some]

theorem carries_customRuleOf_iff {destinationIp otherIp : Text} {i : Nat}
    {wanted kept : PortData} :
    Carries destinationIp wanted (customRuleOf vmName otherIp i kept) ↔
      SameTraffic kept wanted ∧ otherIp = destinationIp := by
  simp only [Carries, SameTraffic, and_assoc]
  rfl

theorem mem_of_keptRule {destinationIp : Text} {i : Nat} {kept : PortData}
    (isKept : keptRule resolved destinationIp i = some kept) :
    ∃ configuration ∈ resolved, configuration.1 = destinationIp ∧ kept ∈ configuration.2 := by
  rcases List.exists_of_findSome?_eq_some isKept with ⟨configuration, member, found⟩
  split at found
  · rename_i same
    exact ⟨configuration, List.mem_reverse.mp member, same, List.mem_of_getElem? found⟩
  · cases found

/-- Among the written rules the request is met exactly if nothing is
overwritten. -/
theorem requestMet_upsertAll_iff {permanent : List SecurityRule}
    (noCustom : ∀ rule ∈ permanent, isCustom rule = false) :
    RequestMet resolved (Azure.upsertAll (customRulesOf vmName resolved) permanent) ↔
      NothingOverwritten resolved := by
  constructor
  · rintro ⟨present, _⟩ configuration configurationMem wanted wantedMem
    obtain ⟨rule, member, custom, carries⟩ :=
      present configuration configurationMem wanted wantedMem
    obtain ⟨destinationIp, i, kept, isKept, rfl⟩ :=
      (mem_upsertAll_customRulesOf_iff noCustom).mp ⟨member, custom⟩
    rcases carries_customRuleOf_iff.mp carries with ⟨traffic, rfl⟩
    exact ⟨i, kept, isKept, traffic⟩
  · intro intact
    constructor
    · intro configuration configurationMem wanted wantedMem
      rcases intact configuration configurationMem wanted wantedMem with ⟨i, kept, isKept, traffic⟩
      let rule := customRuleOf vmName configuration.1 i kept
      have written : rule ∈ Azure.upsertAll (customRulesOf vmName resolved) permanent ∧
          isCustom rule = true :=
        (mem_upsertAll_customRulesOf_iff noCustom).mpr ⟨configuration.1, i, kept, isKept, rfl⟩
      exact ⟨rule, written.1, written.2, carries_customRuleOf_iff.mpr ⟨traffic, rfl⟩⟩
    · intro rule member custom
      obtain ⟨destinationIp, i, kept, isKept, rfl⟩ :=
        (mem_upsertAll_customRulesOf_iff noCustom).mp ⟨member, custom⟩
      rcases mem_of_keptRule isKept with ⟨configuration, configurationMem, same, keptMem⟩
      exact ⟨configuration, configurationMem, kept, keptMem,
        carries_customRuleOf_iff.mpr ⟨⟨rfl, rfl, rfl⟩, same.symm⟩⟩

end Round

/-- Priorities do not matter for a request. -/
theorem requestMet_map_unprioritized (resolved : List (Text × List PortData))
    (rules : List SecurityRule) :
    RequestMet resolved (rules.map SecurityRule.unprioritized) ↔ RequestMet resolved rules := by
  simp only [RequestMet, List.mem_map, exists_exists_and_eq_and, forall_exists_index, and_imp,
    forall_apply_eq_imp_iff₂]
  rfl

/-! ## The operation -/

/-- Where an app is reported as successful and no later model names it, its
requested rules are the custom rules of its group, priorities aside, exactly if
none of them is overwritten by a later configuration, whichever calls failed on the
way. -/
theorem requested_rules_kept_iff (environment : Environment) (groupName : Text)
    (before after : List AppSecurityGroupModel) (model : AppSecurityGroupModel)
    (state : FaultyAzure) (noLater : ∀ later ∈ after, later.appName ≠ model.appName)
    {results : List SetAppSecurityGroupActionResult} {left : FaultyAzure}
    (ran : run services
      (setAppsSecurityGroups environment groupName (before ++ model :: after)) state =
        (.ok results, left))
    {result : SetAppSecurityGroupActionResult} (reported : results[before.length]? = some result)
    (success : result.success = true) :
    ∃ resolved rules,
      resolveAll environment groupName (interfacesOf state.2) model = .ok resolved ∧
      left.2.rulesOf (vmNsgName model.appName) = some rules ∧
      (RequestMet resolved rules ↔ NothingOverwritten resolved) := by
  obtain ⟨_, _, _, start, written, earlier, round, later, isThere⟩ := run_collect_append_cons ran
  cases reported.symm.trans isThere
  have work := run_setApp_eq_ok round success
  rcases rulesOf_setAppSecurityGroups work with
    ⟨found, resolved, rules, _, isResolved, isLeft, content⟩
  have sameInterfaces := interfacesOf_rounds environment groupName before state
  rw [earlier] at sameInterfaces
  have kept := rulesOf_rounds environment groupName noLater written
  rw [later] at kept
  refine ⟨resolved, rules, sameInterfaces ▸ isResolved, kept.trans isLeft, ?_⟩
  rw [← requestMet_map_unprioritized, content]
  apply requestMet_upsertAll_iff
  intro rule member
  rcases List.mem_map.mp member with ⟨permanent, permanentMem, rfl⟩
  have notCustom := (List.mem_filter.mp permanentMem).2
  rwa [Bool.not_eq_true'] at notCustom

/-- The machine with two interfaces, where the creation of the first rule takes
effect but its connection breaks. -/
def brokenInterfaces : FaultyAzure :=
  (List.replicate 5 .completes ++ [.raisesAfter (.clientRequestError "Connection aborted.".toList)],
    twoInterfaces)

/-- A request with a configuration for each of two subnets. -/
def bothSubnets : AppSecurityGroupModel where
  appName := "app".toList
  securityGroupConfigurations := some
    [⟨"left".toList, some [tcpPort "80".toList]⟩, ⟨"right".toList, some [tcpPort "22".toList]⟩]

theorem requested_rules_kept_example :
    ∃ left resolved rules,
      run services (setAppsSecurityGroups namedSubnets "group".toList [bothSubnets])
          brokenInterfaces =
        (.ok [⟨bothSubnets.appName, true, []⟩], left) ∧
      resolveAll namedSubnets "group".toList (interfacesOf brokenInterfaces.2) bothSubnets =
        .ok resolved ∧
      left.2.rulesOf (vmNsgName bothSubnets.appName) = some rules ∧
      (RequestMet resolved rules ↔ NothingOverwritten resolved) := by
  have noLater : ∀ later ∈ ([] : List AppSecurityGroupModel),
      later.appName ≠ bothSubnets.appName := by
    intro later member
    cases member
  have ran : ∃ left, run services
      (setAppsSecurityGroups namedSubnets "group".toList [bothSubnets]) brokenInterfaces =
        (.ok [⟨bothSubnets.appName, true, []⟩], left) := ⟨_, rfl⟩
  rcases ran with ⟨left, ran⟩
  obtain ⟨resolved, rules, resolvedEq, leftEq, met⟩ := requested_rules_kept_iff namedSubnets
    "group".toList [] [] bothSubnets brokenInterfaces noLater ran rfl rfl
  exact ⟨left, resolved, rules, ran, resolvedEq, leftEq, met⟩

/-- A request with two configurations for one subnet. -/
def sameSubnetTwice : AppSecurityGroupModel where
  appName := "app".toList
  securityGroupConfigurations := some
    [⟨"left".toList, some [tcpPort "80".toList]⟩, ⟨"left".toList, some [tcpPort "22".toList]⟩]

/-- The rule for port 80 is replaced by the one for port 22. -/
theorem requested_rule_overwritten :
    ∃ left resolved rules,
      run (Azure.handle false)
          (setAppsSecurityGroups namedSubnets "group".toList [sameSubnetTwice]) twoInterfaces =
        (.ok [⟨sameSubnetTwice.appName, true, []⟩], left) ∧
      resolveAll namedSubnets "group".toList (interfacesOf twoInterfaces) sameSubnetTwice =
        .ok resolved ∧
      left.rulesOf (vmNsgName sameSubnetTwice.appName) = some rules ∧
      ¬ RequestMet resolved rules := by
  refine ⟨_, _, _, rfl, rfl, rfl, ?_⟩
  rintro ⟨present, _⟩
  obtain ⟨rule, member, _, _, ports, _⟩ :=
    present _ List.mem_cons_self _ List.mem_cons_self
  rw [List.mem_singleton.mp member] at ports
  revert ports
  decide

end SetAppSecurityGroupsOperation

end AzureShell
