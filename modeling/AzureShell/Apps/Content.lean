import AzureShell.Apps.Effect

/-!
# What custom rules say, priorities aside

Priorities are the only part of a rule that depends on the other rules of its
group.  Without them, creating the rules of a configuration writes fixed rules
under fixed names, and a rule of the group is the one written last under its
name.
-/

namespace AzureShell

open SecurityGroupService

/-- The rule with its priority left out. -/
def SecurityRule.unprioritized (rule : SecurityRule) : SecurityRule :=
  { rule with priority := 0 }

namespace SetAppSecurityGroupsOperation

/-- The rule written for the `i`-th `PortData` of a configuration, its priority
left out. -/
def customRuleOf (vmName destinationIp : Text) (i : Nat) (wanted : PortData) : SecurityRule :=
  prepareSecurityGroupRule
    (.portData { wanted with name := some (customRuleName vmName destinationIp i) })
    destinationIp 0 internet

/-- The rules written for a configuration, numbered from `start`. -/
def customRulesFrom (vmName destinationIp : Text) (start : Nat) (wanted : List PortData) :
    List SecurityRule :=
  (wanted.zipIdx start).map fun (rule, i) => customRuleOf vmName destinationIp i rule

/-- The rules written for configurations with resolved destinations. -/
def customRulesOf (vmName : Text) (resolved : List (Text × List PortData)) : List SecurityRule :=
  resolved.flatMap fun configuration =>
    customRulesFrom vmName configuration.1 0 configuration.2

theorem nameAt_of_named {rule : InboundRule} {vmName destinationIp : Text} {i : Nat}
    (named : rule.name = some (customRuleName vmName destinationIp i)) (priority : Int) :
    nameAt rule priority = customRuleName vmName destinationIp i := by
  rw [nameAt, named, truthy_some (customRuleName_ne_nil _ _ _), Option.getD_some]

@[simp]
theorem customRuleOf_name (vmName destinationIp : Text) (i : Nat) (wanted : PortData) :
    (customRuleOf vmName destinationIp i wanted).name = customRuleName vmName destinationIp i := by
  simp only [customRuleOf, prepareSecurityGroupRule]
  apply nameAt_of_named
  rfl

theorem unprioritized_prepareSecurityGroupRule {rule : InboundRule} {vmName destinationIp : Text}
    {i : Nat} (named : rule.name = some (customRuleName vmName destinationIp i))
    (destinationAddr sourceAddress : Text) (priority : Int) :
    (prepareSecurityGroupRule rule destinationAddr priority sourceAddress).unprioritized =
      prepareSecurityGroupRule rule destinationAddr 0 sourceAddress := by
  simp only [SecurityRule.unprioritized, prepareSecurityGroupRule, nameAt_of_named named]

theorem map_upsertAll (added rules : List SecurityRule) :
    (Azure.upsertAll added rules).map SecurityRule.unprioritized =
      Azure.upsertAll (added.map SecurityRule.unprioritized)
        (rules.map SecurityRule.unprioritized) := by
  induction added generalizing rules with
  | nil => rfl
  | cons rule rest ih =>
      have first : (Store.upsert SecurityRule.name rule rules).map SecurityRule.unprioritized =
          Store.upsert SecurityRule.name rule.unprioritized
            (rules.map SecurityRule.unprioritized) := by
        simp only [Store.upsert, Store.erase, List.map_append, List.map_cons, List.map_nil,
          List.filter_map]
        rfl
      have later := ih (Store.upsert SecurityRule.name rule rules)
      rw [first] at later
      exact later

theorem upsertAll_append (first second rules : List SecurityRule) :
    Azure.upsertAll (first ++ second) rules =
      Azure.upsertAll second (Azure.upsertAll first rules) :=
  List.foldl_append

/-- Along a generator, the written rules differ from the fixed ones in their
priorities only. -/
theorem map_plannedRules {generator : PriorityGenerator} {used : Int → Prop}
    (tracks : Tracks generator used) (vmName destinationIp : Text) (start : Nat)
    (wanted : List PortData) :
    (plannedRules destinationIp internet (namedRules vmName destinationIp start wanted)
        generator).map SecurityRule.unprioritized =
      customRulesFrom vmName destinationIp start wanted := by
  induction wanted generalizing start generator used with
  | nil => rfl
  | cons rule rest ih =>
      rcases tracks.next with ⟨priority, after, yielded, _, tracksAfter⟩
      have later := ih tracksAfter (start + 1)
      simp only [namedRules, customRulesFrom, List.zipIdx_cons, List.map_cons, plannedRules,
        yielded] at later ⊢
      rw [later, unprioritized_prepareSecurityGroupRule rfl]
      rfl

/-- Creating the rules of a configuration, priorities aside. -/
theorem map_addRules (vmName destinationIp : Text) (wanted : List PortData)
    (rules : List SecurityRule) :
    (addRules (namedRules vmName destinationIp 0 wanted) destinationIp none internet rules).map
        SecurityRule.unprioritized =
      Azure.upsertAll (customRulesFrom vmName destinationIp 0 wanted)
        (rules.map SecurityRule.unprioritized) := by
  rw [addRules, map_upsertAll, rulesToCreate,
    map_plannedRules (tracks_rulePriorityGenerator _ _)]

/-! ## Names of custom rules -/

/-- The name of a custom rule determines its number and its destination. -/
theorem customRuleName_inj {vmName destinationIp otherIp : Text} {i j : Nat}
    (same : customRuleName vmName destinationIp i = customRuleName vmName otherIp j) :
    i = j ∧ destinationIp = otherIp := by
  have numbered := List.append_cancel_left same
  have noMark : ∀ k, '_' ∉ Text.ofNat k := fun k => Text.not_mem_ofNat (by decide)
  have digits : Text.ofNat i = Text.ofNat j :=
    Text.append_cons_left_inj (noMark i) (noMark j) numbered
  rw [digits] at numbered
  have rest := List.append_cancel_left (List.append_cancel_left (List.append_cancel_left
    (List.append_cancel_left numbered)))
  exact ⟨Text.ofNat_injective digits, rest⟩

/-- The rule that keeps the name of number `i` and a destination: the one of the
last configuration with this destination and more than `i` rules. -/
def keptRule (resolved : List (Text × List PortData)) (destinationIp : Text) (i : Nat) :
    Option PortData :=
  resolved.reverse.findSome? fun configuration =>
    if configuration.1 = destinationIp then configuration.2[i]? else none

theorem mem_customRulesFrom_iff {vmName destinationIp : Text} {wanted : List PortData}
    {rule : SecurityRule} :
    rule ∈ customRulesFrom vmName destinationIp 0 wanted ↔
      ∃ i portData, wanted[i]? = some portData ∧
        rule = customRuleOf vmName destinationIp i portData := by
  simp only [customRulesFrom, List.mem_map, Prod.exists, List.mk_mem_zipIdx_iff_getElem?]
  constructor
  · rintro ⟨portData, i, found, rfl⟩
    exact ⟨i, portData, found, rfl⟩
  · rintro ⟨i, portData, found, rfl⟩
    exact ⟨portData, i, found, rfl⟩

theorem keyed_customRulesFrom (vmName destinationIp : Text) (wanted : List PortData) :
    Store.Keyed SecurityRule.name (customRulesFrom vmName destinationIp 0 wanted) := by
  have names : (customRulesFrom vmName destinationIp 0 wanted).map SecurityRule.name =
      (List.range' 0 wanted.length).map (customRuleName vmName destinationIp) := by
    rw [← List.zipIdx_map_snd 0 wanted, customRulesFrom, List.map_map, List.map_map]
    apply List.map_congr_left
    intro numbered _
    exact customRuleOf_name vmName destinationIp numbered.2 numbered.1
  rw [Store.Keyed, names]
  have injective : Function.Injective (customRuleName vmName destinationIp) :=
    fun i j same => (customRuleName_inj same).1
  exact List.Nodup.map injective (List.nodup_range' 1)

/-- The rule of a configuration under the name of number `i` and a destination. -/
theorem lookup_customRulesFrom (vmName destinationIp otherIp : Text) (i : Nat)
    (wanted : List PortData) :
    Store.lookup SecurityRule.name (customRuleName vmName destinationIp i)
        (customRulesFrom vmName otherIp 0 wanted).reverse =
      (if otherIp = destinationIp then wanted[i]? else none).map
        (customRuleOf vmName destinationIp i) := by
  have keyed := keyed_customRulesFrom vmName otherIp wanted
  rw [keyed.lookup_perm (List.reverse_perm _)]
  apply Option.ext
  intro rule
  rw [keyed.lookup_eq_some_iff, mem_customRulesFrom_iff]
  constructor
  · rintro ⟨⟨j, portData, found, rfl⟩, named⟩
    rw [customRuleOf_name] at named
    rcases customRuleName_inj named with ⟨rfl, rfl⟩
    simp [found]
  · intro found
    by_cases same : otherIp = destinationIp
    · subst same
      rw [if_pos rfl, Option.map_eq_some_iff] at found
      rcases found with ⟨portData, found, rfl⟩
      exact ⟨⟨i, portData, found, rfl⟩, customRuleOf_name _ _ _ _⟩
    · simp [same] at found

/-- The rule written last under the name of number `i` and a destination is the
kept one. -/
theorem lookup_customRulesOf (vmName destinationIp : Text) (i : Nat)
    (resolved : List (Text × List PortData)) :
    Store.lookup SecurityRule.name (customRuleName vmName destinationIp i)
        (customRulesOf vmName resolved).reverse =
      (keptRule resolved destinationIp i).map (customRuleOf vmName destinationIp i) := by
  induction resolved using List.reverseRecOn with
  | nil => rfl
  | append_singleton before configuration ih =>
      have last := lookup_customRulesFrom vmName destinationIp configuration.1 i configuration.2
      simp only [customRulesOf, keptRule, List.flatMap_append, List.reverse_append,
        List.flatMap_singleton, List.reverse_singleton, List.singleton_append,
        List.findSome?_cons, Store.lookup, List.find?_append] at ih last ⊢
      rw [last, ih]
      cases (if configuration.1 = destinationIp then configuration.2[i]? else none) <;> rfl

end SetAppSecurityGroupsOperation

end AzureShell
