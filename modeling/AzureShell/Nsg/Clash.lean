import AzureShell.Nsg.Effect
import AzureShell.Prog.Guard

/-!
# Priorities never clash

Writers of one group run concurrently: creations of rules and deletions of
custom rules under the group's lock, and deletions of a machine's artifacts
without it.  A creation works from a list of rules that deletions make stale.
Deletions only shrink the group, so a priority that is fresh for the stale list
stays fresh; and a rule without a name of its own carries its priority in its
name, so it cannot take the name of another rule.
-/

namespace AzureShell

open Prog

namespace SecurityGroupService

/-- Priorities are pairwise different, and a rule named after a priority has
that priority. -/
structure WellPrioritized (rules : List SecurityRule) : Prop where
  distinct : (rules.map SecurityRule.priority).Nodup
  coupled : ∀ rule ∈ rules, ∀ priority, rule.name = ruleName priority → rule.priority = priority

theorem WellPrioritized.sublist {rules fewer : List SecurityRule}
    (wellPrioritized : WellPrioritized rules) (sublist : fewer.Sublist rules) :
    WellPrioritized fewer where
  distinct := wellPrioritized.distinct.sublist (sublist.map _)
  coupled := fun rule member => wellPrioritized.coupled rule (sublist.subset member)

/-- What the creation of a rule needs of the rules of its group: a priority no
rule has, and if it is named after a priority, its own priority and a name no
rule has. -/
structure Fits (rules : List SecurityRule) (rule : SecurityRule) : Prop where
  fresh : ∀ other ∈ rules, other.priority ≠ rule.priority
  coupled : ∀ priority, rule.name = ruleName priority → rule.priority = priority
  overwritesNothing : ∀ priority, rule.name = ruleName priority →
    ∀ other ∈ rules, other.name ≠ rule.name

theorem WellPrioritized.upsert {rules : List SecurityRule} {rule : SecurityRule}
    (wellPrioritized : WellPrioritized rules) (fits : Fits rules rule) :
    WellPrioritized (Store.upsert SecurityRule.name rule rules) where
  distinct := by
    rw [Store.upsert, List.map_append, List.nodup_append]
    refine ⟨(wellPrioritized.sublist (Store.erase_sublist _ _)).distinct,
      List.nodup_singleton _, ?_⟩
    intro p fromOld q fromNew equal
    rcases List.mem_map.mp fromOld with ⟨other, member, rfl⟩
    rw [List.map_singleton, List.mem_singleton] at fromNew
    exact fits.fresh other (Store.mem_erase_iff.mp member).1 (equal.trans fromNew)
  coupled := by
    intro other member
    rcases Store.mem_upsert_iff.mp member with rfl | ⟨old, _⟩
    · exact fits.coupled
    · exact wellPrioritized.coupled other old

/-- In a group with coupled names, a rule at a fresh priority fits: either it
was asked for under a name that is not a priority's, or it is named after its
own. -/
theorem fits_prepareSecurityGroupRule {rules : List SecurityRule}
    (wellPrioritized : WellPrioritized rules) {ruleData : InboundRule}
    (unreserved : ∀ priority, truthy ruleData.name ≠ some (ruleName priority))
    (destinationAddr sourceAddress : Text) {priority : Int}
    (fresh : ∀ other ∈ rules, other.priority ≠ priority) :
    Fits rules (prepareSecurityGroupRule ruleData destinationAddr priority sourceAddress) := by
  have named : ∀ other, nameAt ruleData priority = ruleName other → priority = other := by
    intro other equal
    rw [nameAt] at equal
    cases ownName : truthy ruleData.name with
    | none =>
        rw [ownName] at equal
        exact ruleName_injective equal
    | some name =>
        rw [ownName, Option.getD_some] at equal
        exact absurd (ownName.trans (congrArg some equal)) (unreserved other)
  constructor
  · exact fresh
  · exact named
  · intro reserved equal other member sameName
    have othersPriority := wellPrioritized.coupled other member reserved (sameName.trans equal)
    exact fresh other member (othersPriority.trans (named reserved equal).symm)

/-! ## The discipline of a group -/

/-- Under the lock of a group, only deletions interfere; a rule is created where
it fits. -/
def nsgDiscipline (nsg : Text) (lock : LockName) : Discipline AzureServices Azure where
  lock := lock
  invariant azure := ∀ rules, azure.rulesOf nsg = some rules → WellPrioritized rules
  rely before after := ∀ fewer, after.rulesOf nsg = some fewer →
    ∃ rules, before.rulesOf nsg = some rules ∧ fewer.Sublist rules
  admissible request azure :=
    match request with
    | .putSecurityRule group rule =>
        group = nsg → ∀ rules, azure.rulesOf nsg = some rules → Fits rules rule
    | _ => True
  rely_refl := fun _ rules present => ⟨rules, present, List.Sublist.refl rules⟩
  rely_trans := by
    intro first second third before after fewest present
    rcases after fewest present with ⟨fewer, presentBetween, sublist⟩
    rcases before fewer presentBetween with ⟨rules, presentFirst, sublist'⟩
    exact ⟨rules, presentFirst, sublist.trans sublist'⟩

/-- The request creates neither rules nor groups. -/
def CreatesNothing : Request → Prop
  | .putSecurityRule _ _ => False
  | .putNetworkSecurityGroup _ => False
  | _ => True

variable {strict : Bool} {nsg destinationAddr sourceAddress : Text} {lock : LockName}

/-- Requests that create nothing shrink the group. -/
theorem rely_of_createsNothing (lock : LockName) {request : Request}
    (createsNothing : CreatesNothing request) (azure : Azure) :
    (nsgDiscipline nsg lock).rely azure (Azure.handle strict request azure).2 := by
  intro fewer present
  rw [Azure.rulesOf_handle] at present
  cases request with
  | putSecurityRule group rule => exact createsNothing.elim
  | putNetworkSecurityGroup group => exact createsNothing.elim
  | deleteSecurityRule group name =>
      simp only [Request.onRules] at present
      split at present
      · rcases Option.map_eq_some_iff.mp present with ⟨rules, presentBefore, rfl⟩
        exact ⟨rules, presentBefore, Store.erase_sublist _ _⟩
      · exact ⟨fewer, present, List.Sublist.refl fewer⟩
  | deleteNetworkSecurityGroup group =>
      simp only [Request.onRules] at present
      split at present
      · contradiction
      · exact ⟨fewer, present, List.Sublist.refl fewer⟩
  | deleteResourceGroup group => cases present
  | _ => exact ⟨fewer, present, List.Sublist.refl fewer⟩

theorem keeps_send {holds : Bool} {request : Request} (createsNothing : CreatesNothing request) :
    Keeps (nsgDiscipline nsg lock) (Azure.handle strict) holds (send request) := by
  apply keeps_perform
  · intro azure _
    cases request <;> trivial
  · intro azure invariant fewer present
    obtain ⟨rules, presentBefore, sublist⟩ :=
      rely_of_createsNothing lock createsNothing azure fewer present
    exact (invariant rules presentBefore).sublist sublist
  · intro azure _
    exact rely_of_createsNothing lock createsNothing azure

/-! ## The writers keep it -/

theorem deleteCustomSecurityRulesFromNsg_keeps (nsg group : Text) (lock : LockName) :
    Keeps (nsgDiscipline nsg lock) (Azure.handle strict) false
      (deleteCustomSecurityRulesFromNsg group lock) := by
  apply Keeps.retry
  apply Keeps.bind
  · exact keeps_send trivial
  · intro rulesInNsg
    apply Keeps.withLock
    apply Keeps.forEach
    intro rule _
    exact keeps_send trivial

theorem deleteNsgArtifactsAssociatedWithVm_keeps (nsg vmName : Text) (lock : LockName) :
    Keeps (nsgDiscipline nsg lock) (Azure.handle strict) false
      (NetworkService.deleteNsgArtifactsAssociatedWithVm vmName) := by
  apply Keeps.retry
  apply Keeps.bind
  · exact keeps_send trivial
  · intro networkSecurityGroups
    apply Keeps.forEach
    intro group _
    apply Keeps.bind
    · apply Keeps.when
      intro _
      exact keeps_send trivial
    · intro _
      apply Keeps.when
      intro _
      apply Keeps.forEach
      intro rule _
      apply Keeps.when
      intro _
      exact keeps_send trivial

/-- Under the lock, with a generator that tracks the priorities in use, the
creation of rules is safe: interference only takes priorities out of use. -/
theorem safe_createRules {inboundRules : List InboundRule}
    (unreserved : ∀ ruleData ∈ inboundRules, ∀ priority,
      truthy ruleData.name ≠ some (ruleName priority))
    {generator : PriorityGenerator} {used : Int → Prop} (tracks : Tracks generator used)
    {azure : Azure} (invariant : (nsgDiscipline nsg lock).invariant azure)
    (inUse : ∀ rules, azure.rulesOf nsg = some rules → ∀ rule ∈ rules, used rule.priority) :
    Safe (nsgDiscipline nsg lock) (Azure.handle strict)
      (fun after _ t => after = true ∧ (nsgDiscipline nsg lock).invariant t) true
      (createRules nsg destinationAddr sourceAddress inboundRules generator) azure := by
  induction inboundRules generalizing generator used azure with
  | nil => exact ⟨rfl, invariant⟩
  | cons ruleData rest ih =>
      rcases tracks.next with ⟨priority, after, yielded, unused, tracksAfter⟩
      simp only [createRules, yielded]
      apply Safe.bind
      apply Safe.retry_final
      let rule := prepareSecurityGroupRule ruleData destinationAddr priority sourceAddress
      intro t follows
      have fits : ∀ rules, t.rulesOf nsg = some rules → Fits rules rule := by
        intro rules present
        apply fits_prepareSecurityGroupRule (follows.1 rules present)
          (unreserved ruleData List.mem_cons_self)
        intro other member equal
        rcases follows.2 rfl rules present with ⟨before, presentBefore, sublist⟩
        apply unused
        rw [← equal]
        exact inUse before presentBefore other (sublist.subset member)
      have rulesAfter : (Azure.handle strict (.putSecurityRule nsg rule) t).2.rulesOf nsg =
          (t.rulesOf nsg).map (Store.upsert SecurityRule.name rule) := by
        rw [Azure.rulesOf_handle, Request.onRules, if_pos rfl]
      have invariantAfter : (nsgDiscipline nsg lock).invariant
          (Azure.handle strict (.putSecurityRule nsg rule) t).2 := by
        intro rules present
        rw [rulesAfter] at present
        rcases Option.map_eq_some_iff.mp present with ⟨before, presentBefore, rfl⟩
        exact (follows.1 before presentBefore).upsert (fits before presentBefore)
      refine ⟨fun _ => fits, invariantAfter, fun unlocked => Bool.noConfusion unlocked, ?_⟩
      cases present : t.rulesOf nsg with
      | none =>
          have answer : (Azure.handle strict (.putSecurityRule nsg rule) t).1 = .error .notFound := by
            simp [Azure.handle, present]
          change _ ∧ _
          rw [answer]
          refine ⟨⟨rfl, invariantAfter⟩, ?_⟩
          rintro e ⟨⟩
          exact retryIfConnectionError_notFound
      | some rules =>
          have answer : (Azure.handle strict (.putSecurityRule nsg rule) t).1 = .ok () := by
            simp [Azure.handle, present]
          change _ ∧ _
          rw [answer]
          refine ⟨?_, fun e raised => by cases raised⟩
          apply ih (fun other member => unreserved other (List.mem_cons_of_mem ruleData member))
            tracksAfter invariantAfter
          intro changed presentAfter other member
          rw [rulesAfter, present] at presentAfter
          cases presentAfter
          rcases Store.mem_upsert_iff.mp member with rfl | ⟨old, _⟩
          · exact Or.inl rfl
          · rcases follows.2 rfl rules present with ⟨before, presentBefore, sublist⟩
            exact Or.inr (inUse before presentBefore other (sublist.subset old))

theorem createNetworkSecurityGroupRules_keeps {inboundRules : List InboundRule}
    (unreserved : ∀ ruleData ∈ inboundRules, ∀ priority,
      truthy ruleData.name ≠ some (ruleName priority)) (startFrom : Option Int) :
    Keeps (nsgDiscipline nsg lock) (Azure.handle strict) false
      (createNetworkSecurityGroupRules nsg inboundRules destinationAddr lock startFrom
        sourceAddress) := by
  apply Keeps.retry
  apply Keeps.withLock
  intro azure _
  apply Safe.bind
  intro t follows
  refine ⟨trivial, follows.1, fun unlocked => Bool.noConfusion unlocked, ?_⟩
  cases present : t.rulesOf nsg with
  | none =>
      have answer : (Azure.handle strict (.listSecurityRules nsg) t).1 = .error .notFound := by
        simp [Azure.handle, present]
      change (fun holds outcome s => _) true _ _
      rw [answer]
      exact ⟨rfl, follows.1⟩
  | some rules =>
      have answer : (Azure.handle strict (.listSecurityRules nsg) t).1 = .ok rules := by
        simp [Azure.handle, present]
      change (fun holds outcome s => _) true _ _
      rw [answer]
      apply safe_createRules unreserved (tracks_rulePriorityGenerator _ _) follows.1
      intro listed presentListed rule member
      rw [present] at presentListed
      cases presentListed
      exact List.mem_map_of_mem member

/-! ## All writers together -/

/-- A call that writes a security group. -/
inductive NsgCall where
  | createRules (inboundRules : List InboundRule) (destinationAddr : Text)
      (startFrom : Option Int) (sourceAddress : Text)
  | deleteCustomRules
  | deleteNsgArtifacts (vmName : Text)

namespace NsgCall

/-- The call on a group, with the lock of the group where it takes one. -/
def program (nsg : Text) (lock : LockName) : NsgCall → Shell Unit
  | createRules inboundRules destinationAddr startFrom sourceAddress =>
      createNetworkSecurityGroupRules nsg inboundRules destinationAddr lock startFrom
        sourceAddress
  | deleteCustomRules => deleteCustomSecurityRulesFromNsg nsg lock
  | deleteNsgArtifacts vmName => NetworkService.deleteNsgArtifactsAssociatedWithVm vmName

/-- The requested rules have no name, or one that is not named after a
priority. -/
def Unreserved : NsgCall → Prop
  | createRules inboundRules _ _ _ =>
      ∀ ruleData ∈ inboundRules, ∀ priority, truthy ruleData.name ≠ some (ruleName priority)
  | _ => True

theorem keeps {call : NsgCall} (unreserved : call.Unreserved) :
    Keeps (nsgDiscipline nsg lock) (Azure.handle strict) false (call.program nsg lock) := by
  cases call with
  | createRules inboundRules destinationAddr startFrom sourceAddress =>
      exact createNetworkSecurityGroupRules_keeps unreserved startFrom
  | deleteCustomRules => exact deleteCustomSecurityRulesFromNsg_keeps nsg nsg lock
  | deleteNsgArtifacts vmName => exact deleteNsgArtifactsAssociatedWithVm_keeps nsg vmName lock

end NsgCall

/-- However the calls are interleaved, priorities stay pairwise different and
coupled to the names made of them; a rule is created only at a priority that no
rule has, and one without a name of its own overwrites no rule. -/
theorem priorities_never_clash {ι : Type} [DecidableEq ι] {calls : ι → NsgCall}
    (unreserved : ∀ i, (calls i).Unreserved) {azure : Azure}
    (wellPrioritized : ∀ rules, azure.rulesOf nsg = some rules → WellPrioritized rules)
    {config : Config AzureServices Azure ι Unit}
    (reaches : Reaches (Azure.handle strict)
      (Config.initial (fun i => (calls i).program nsg lock) azure) config) :
    (∀ rules, config.shared.rulesOf nsg = some rules →
      (rules.map SecurityRule.priority).Nodup ∧
        ∀ rule ∈ rules, ∀ priority, rule.name = ruleName priority → rule.priority = priority) ∧
      ∀ i rule next, config.threads i = .call (.putSecurityRule nsg rule) next →
        ∀ rules, config.shared.rulesOf nsg = some rules →
          (∀ other ∈ rules, other.priority ≠ rule.priority) ∧
            ((∃ priority, rule.name = ruleName priority) →
              ∀ other ∈ rules, other.name ≠ rule.name) := by
  have keeps : ∀ i, Keeps (nsgDiscipline nsg lock) (Azure.handle strict) false
      ((calls i).program nsg lock) := fun i => NsgCall.keeps (unreserved i)
  rcases reaches.disciplined keeps wellPrioritized with ⟨invariant, admissible⟩
  constructor
  · intro rules present
    exact ⟨(invariant rules present).distinct, (invariant rules present).coupled⟩
  · intro i rule next left rules present
    have fits : Fits rules rule := admissible i _ next left rfl rules present
    constructor
    · exact fits.fresh
    · rintro ⟨priority, named⟩
      exact fits.overwritesNothing priority named

/-! The deletion of a machine's artifacts overtakes a creation of rules, which has
listed the machine's rule. -/

def overtakenNsg : Text :=
  "NSG_sandbox_all_subnets_r1".toList

def machinesRule : SecurityRule :=
  prepareSecurityGroupRule
    (.portData ⟨"22".toList, "22".toList, "tcp".toList, internet, some "web_22".toList⟩)
    "10.0.0.4".toList 1000 internet

def overtakenCreation : Bool → NsgCall
  | false => .createRules
      [.portData ⟨"80".toList, "80".toList, "tcp".toList, internet, none⟩] "10.0.0.5".toList none
      internet
  | true => .deleteNsgArtifacts "web".toList

/-- Neither call has begun. -/
def overtakenStart : Config AzureServices Azure Bool Unit :=
  .initial (fun i => (overtakenCreation i).program overtakenNsg (.resource overtakenNsg))
    { Azure.blank with networkSecurityGroups := [⟨overtakenNsg, [machinesRule]⟩] }

/-- The rule that a thread is about to create. -/
def pendingRule (config : Config AzureServices Azure Bool Unit) (i : Bool) : Option SecurityRule :=
  match config.threads i with
  | .call (.putSecurityRule _ rule) _ => some rule
  | _ => none

/-- The machine's rule is gone, and the new rule is about to be created past it. -/
theorem priorities_never_clash_example :
    ∃ config, Reaches (Azure.handle true) overtakenStart config ∧
      config.shared.rulesOf overtakenNsg = some [] ∧
      (pendingRule config false).map SecurityRule.priority = some 1005 ∧
      (∀ rules, config.shared.rulesOf overtakenNsg = some rules →
        (rules.map SecurityRule.priority).Nodup ∧
          ∀ rule ∈ rules, ∀ priority, rule.name = ruleName priority → rule.priority = priority) ∧
        ∀ i rule next, config.threads i = .call (.putSecurityRule overtakenNsg rule) next →
          ∀ rules, config.shared.rulesOf overtakenNsg = some rules →
            (∀ other ∈ rules, other.priority ≠ rule.priority) ∧
              ((∃ priority, rule.name = ruleName priority) →
                ∀ other ∈ rules, other.name ≠ rule.name) := by
  have played : (overtakenStart.play (Azure.handle true) (fun _ _ => true)
      [false, false, true, true]).map (fun config => (config.shared.rulesOf overtakenNsg,
        (pendingRule config false).map SecurityRule.priority)) =
      some (some [], some 1005) := by rfl
  rcases Option.map_eq_some_iff.mp played with ⟨config, isConfig, shows⟩
  have reaches : Reaches (Azure.handle true) overtakenStart config := reaches_of_play isConfig
  rcases Prod.mk.inj shows with ⟨left, pending⟩
  refine ⟨config, reaches, left, pending, priorities_never_clash ?_ ?_ reaches⟩
  · intro i
    cases i with
    | false =>
        intro ruleData member priority
        rw [List.mem_singleton.mp member]
        exact nofun
    | true => trivial
  · intro rules present
    have found : overtakenStart.shared.rulesOf overtakenNsg = some [machinesRule] := by decide
    cases found.symm.trans present
    constructor
    · exact List.nodup_singleton _
    · intro rule member priority named
      cases List.mem_singleton.mp member
      have isWeb : "web_22".toList = ruleName priority := named
      simp [ruleName] at isWeb

end SecurityGroupService

end AzureShell
