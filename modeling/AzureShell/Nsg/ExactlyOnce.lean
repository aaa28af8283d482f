import AzureShell.Nsg.Batch
import AzureShell.Nsg.Effect

/-!
# Rule creation under retries

Every rule is created under a retry of its own, inside a retry of the whole list
that lists the group again and allocates new priorities.  A rule with a name of
its own is replaced by the next attempt; a rule without one is named after its
priority, so the next attempt creates it a second time.
-/

namespace AzureShell

open Prog

namespace SecurityGroupService

/-! ## What becomes of the calls -/

/-- The connection errors. -/
abbrev ConnectionError :=
  { e : PyException // retryIfConnectionError e = true }

/-- Azure, with connection errors at any call. -/
def connectionServices (strict : Bool) :
    Handler AzureServices (List (Fate ConnectionError) × Azure) :=
  faulty (fun _ => true) Subtype.val (Azure.handle strict)

/-- What has become of an attempt at a list of rules: whether it completed, how
many of the rules took effect, and the fates of the calls after it. -/
structure Attempted where
  completed : Bool
  effective : Nat
  rest : List (Fate ConnectionError)

/-- The creation of one rule after the other, each with up to five tries. -/
def attemptedRules : Nat → List (Fate ConnectionError) → Attempted
  | 0, fates => ⟨true, 0, fates⟩
  | count + 1, fates =>
      let first := triedCall fates
      if first.completed then
        let later := attemptedRules count first.rest
        ⟨later.completed, later.effective + 1, later.rest⟩
      else
        ⟨false, if first.tookEffect then 1 else 0, first.rest⟩

/-- One attempt at the whole list: it is listed first, in one try. -/
def attempted (count : Nat) : List (Fate ConnectionError) → Attempted
  | .raisesBefore _ :: rest => ⟨false, 0, rest⟩
  | .raisesAfter _ :: rest => ⟨false, 0, rest⟩
  | fates => attemptedRules count fates.tail

/-- How many rules the failed attempts put into effect, if a later attempt among
`extra` more completes. -/
def failedAttempts (count : Nat) : Nat → List (Fate ConnectionError) → Option (List Nat)
  | 0, fates => if (attempted count fates).completed then some [] else none
  | extra + 1, fates =>
      let first := attempted count fates
      if first.completed then some []
      else (failedAttempts count extra first.rest).map (first.effective :: ·)

/-! ## The requested rules -/

/-- The names that requested rules bring with them. -/
def ownNames (inboundRules : List InboundRule) : List Text :=
  inboundRules.filterMap fun ruleData => truthy ruleData.name

/-- A group and rules for it: a generated name carries the rule's priority, and
the names of requested rules are pairwise different, new and not of the
generated form. -/
structure Requestable (rules : List SecurityRule) (inboundRules : List InboundRule) : Prop where
  generated : ∀ rule ∈ rules, ∀ priority, rule.name = ruleName priority → rule.priority = priority
  distinct : (ownNames inboundRules).Nodup
  unused : ∀ rule ∈ rules, rule.name ∉ ownNames inboundRules
  notGenerated : ∀ priority, ruleName priority ∉ ownNames inboundRules

/-- The rule is made of the requested one, at some priority. -/
def MadeOf (destinationAddr sourceAddress : Text) (ruleData : InboundRule) (rule : SecurityRule) :
    Prop :=
  ∃ priority, rule = prepareSecurityGroupRule ruleData destinationAddr priority sourceAddress

/-- The rules that are there after a call that returned: the old ones and one for
each requested rule, at some priority. -/
def ExactlyOnce (before : List SecurityRule) (inboundRules : List InboundRule)
    (destinationAddr sourceAddress : Text) (outcome : Except PyException Unit)
    (after : Option (List SecurityRule)) : Prop :=
  outcome = .ok () → ∃ rules added, after = some rules ∧ rules.Perm (before ++ added) ∧
    List.Forall₂ (MadeOf destinationAddr sourceAddress) inboundRules added

variable {before rules : List SecurityRule} {inboundRules : List InboundRule}
  {destinationAddr sourceAddress : Text} {generator : PriorityGenerator} {used : Int → Prop}

theorem not_used_of_mem_plannedRules (tracks : Tracks generator used) {rule : SecurityRule}
    (member : rule ∈ plannedRules destinationAddr sourceAddress inboundRules generator) :
    ¬ used rule.priority := by
  induction inboundRules generalizing generator used with
  | nil => simp [plannedRules] at member
  | cons ruleData rest ih =>
      rcases tracks.next with ⟨priority, after, yielded, fresh, tracksAfter⟩
      simp only [plannedRules, yielded, List.mem_cons] at member
      rcases member with rfl | later
      · exact fresh
      · exact fun isUsed => ih tracksAfter later (Or.inr isUsed)

theorem nameAt_of_named {ruleData : InboundRule} {name : Text}
    (named : truthy ruleData.name = some name) (priority : Int) :
    nameAt ruleData priority = name := by
  rw [nameAt, named]
  rfl

theorem nameAt_of_unnamed {ruleData : InboundRule} (unnamed : truthy ruleData.name = none)
    (priority : Int) : nameAt ruleData priority = ruleName priority := by
  rw [nameAt, unnamed]
  rfl

/-- A made rule has an own name, or one after its priority. -/
theorem name_of_made {made : List SecurityRule}
    (areMade : List.Forall₂ (MadeOf destinationAddr sourceAddress) inboundRules made)
    {rule : SecurityRule} (member : rule ∈ made) :
    rule.name ∈ ownNames inboundRules ∨ rule.name = ruleName rule.priority := by
  induction areMade with
  | nil => simp at member
  | @cons ruleData first inboundRules made isMade _ ih =>
      rcases List.mem_cons.mp member with rfl | later
      · rcases isMade with ⟨priority, rfl⟩
        cases named : truthy ruleData.name with
        | none => exact Or.inr (nameAt_of_unnamed named priority)
        | some name =>
            refine Or.inl (List.mem_filterMap.mpr ⟨ruleData, List.mem_cons_self, ?_⟩)
            exact named.trans (congrArg some (nameAt_of_named named priority).symm)
      · exact (ih later).imp_left fun own => by
          rw [ownNames, List.filterMap_cons]
          split
          · exact own
          · exact List.mem_cons_of_mem _ own

/-- Rules made of requested rules at increasing priorities have different
names. -/
theorem keyed_of_made {made : List SecurityRule}
    (areMade : List.Forall₂ (MadeOf destinationAddr sourceAddress) inboundRules made)
    (increasing : made.Pairwise fun rule later => rule.priority < later.priority)
    (distinct : (ownNames inboundRules).Nodup)
    (notGenerated : ∀ priority, ruleName priority ∉ ownNames inboundRules) :
    Store.Keyed SecurityRule.name made := by
  induction areMade with
  | nil => exact List.nodup_nil
  | @cons ruleData first inboundRules made isMade laterMade ih =>
      rcases List.pairwise_cons.mp increasing with ⟨below, laterIncreasing⟩
      rcases isMade with ⟨priority, rfl⟩
      cases named : truthy ruleData.name with
      | none =>
          have sameNames : ownNames (ruleData :: inboundRules) = ownNames inboundRules :=
            List.filterMap_cons_none named
          rw [sameNames] at distinct notGenerated
          refine List.nodup_cons.mpr ⟨?_, ih laterIncreasing distinct notGenerated⟩
          intro taken
          rcases List.mem_map.mp taken with ⟨rule, member, same⟩
          have generated : rule.name = ruleName priority :=
            same.trans (nameAt_of_unnamed named priority)
          rcases name_of_made laterMade member with own | ownPriority
          · exact notGenerated priority (generated ▸ own)
          · exact (below rule member).ne (ruleName_injective (generated.symm.trans ownPriority))
      | some name =>
          have allNames : ownNames (ruleData :: inboundRules) = name :: ownNames inboundRules :=
            List.filterMap_cons_some named
          rw [allNames] at distinct notGenerated
          rcases List.nodup_cons.mp distinct with ⟨fresh, distinct⟩
          refine List.nodup_cons.mpr ⟨?_, ih laterIncreasing distinct fun other own =>
            notGenerated other (List.mem_cons_of_mem name own)⟩
          intro taken
          rcases List.mem_map.mp taken with ⟨rule, member, same⟩
          have isName : rule.name = name := same.trans (nameAt_of_named named priority)
          rcases name_of_made laterMade member with own | ownPriority
          · exact fresh (isName ▸ own)
          · exact notGenerated rule.priority (by simp [← ownPriority, isName])

/-! ## The rules between two attempts -/

/-- The rules that no requested rule brings the name of. -/
def others (inboundRules : List InboundRule) (rules : List SecurityRule) : List SecurityRule :=
  rules.filter fun rule => !(ownNames inboundRules).contains rule.name

/-- After some failed attempts the other rules are the old ones and what the
attempts have left of rules without names. -/
structure Between (before left : List SecurityRule) (inboundRules : List InboundRule)
    (rules : List SecurityRule) : Prop where
  generated : ∀ rule ∈ rules, ∀ priority, rule.name = ruleName priority → rule.priority = priority
  others : others inboundRules rules = before ++ left

theorem Requestable.between (requestable : Requestable before inboundRules) :
    Between before [] inboundRules before where
  generated := requestable.generated
  others := by
    rw [SecurityGroupService.others, List.append_nil, List.filter_eq_self]
    intro rule member
    simpa using requestable.unused rule member

/-- The rules an attempt creates, and what is known of them. -/
structure Planned (inboundRules : List InboundRule) (destinationAddr sourceAddress : Text)
    (rules planned : List SecurityRule) : Prop where
  made : List.Forall₂ (MadeOf destinationAddr sourceAddress) inboundRules planned
  increasing : planned.Pairwise fun rule later => rule.priority < later.priority
  fresh : ∀ rule ∈ planned, ∀ other ∈ rules, other.priority ≠ rule.priority

theorem planned_rulesToCreate (rules : List SecurityRule) (inboundRules : List InboundRule)
    (destinationAddr : Text) (startFrom : Option Int) (sourceAddress : Text) :
    Planned inboundRules destinationAddr sourceAddress rules
      (rulesToCreate rules inboundRules destinationAddr startFrom sourceAddress) where
  made := forall₂_plannedRules (tracks_rulePriorityGenerator _ _) inboundRules
  increasing := rulesToCreate_increasing rules inboundRules destinationAddr startFrom sourceAddress
  fresh := by
    intro rule member other otherMem same
    apply not_used_of_mem_plannedRules (tracks_rulePriorityGenerator _ _) member
    exact same ▸ List.mem_map_of_mem otherMem

variable {left planned : List SecurityRule}

/-- A rule of the group under the name of a planned rule has an own name. -/
theorem Planned.own_of_same_name
    (isPlanned : Planned inboundRules destinationAddr sourceAddress rules planned)
    (between : Between before left inboundRules rules) {rule created : SecurityRule}
    (member : rule ∈ rules) (createdMem : created ∈ planned) (same : rule.name = created.name) :
    rule.name ∈ ownNames inboundRules := by
  rcases name_of_made isPlanned.made createdMem with own | ownPriority
  · exact same ▸ own
  · have priority := between.generated rule member created.priority (same.trans ownPriority)
    exact absurd priority (isPlanned.fresh created createdMem rule member)

/-- The first rules of an attempt leave those of them that have no name. -/
theorem Between.take (between : Between before left inboundRules rules)
    (requestable : Requestable before inboundRules)
    (isPlanned : Planned inboundRules destinationAddr sourceAddress rules planned)
    (effective : Nat) :
    Between before (left ++ SecurityGroupService.others inboundRules (planned.take effective))
      inboundRules (Azure.upsertAll (planned.take effective) rules) := by
  have created : ∀ rule ∈ planned.take effective, rule ∈ planned :=
    fun _ member => List.mem_of_mem_take member
  have keyed : Store.Keyed SecurityRule.name (planned.take effective) :=
    (keyed_of_made isPlanned.made isPlanned.increasing requestable.distinct
      requestable.notGenerated).sublist ((List.take_sublist effective planned).map _)
  have written : Azure.upsertAll (planned.take effective) rules =
      (rules.filter fun rule => (planned.take effective).all fun other => rule.name ≠ other.name) ++
        planned.take effective :=
    Store.foldl_upsert_of_nodup keyed rules
  constructor
  · intro rule member priority named
    rw [written, List.mem_append, List.mem_filter] at member
    rcases member with ⟨old, _⟩ | new
    · exact between.generated rule old priority named
    · rcases name_of_made isPlanned.made (created rule new) with own | ownPriority
      · exact absurd (named ▸ own) (requestable.notGenerated priority)
      · exact ruleName_injective (ownPriority.symm.trans named)
  · have kept : SecurityGroupService.others inboundRules
        (rules.filter fun rule => (planned.take effective).all fun other =>
          rule.name ≠ other.name) = SecurityGroupService.others inboundRules rules := by
      rw [SecurityGroupService.others, SecurityGroupService.others, List.filter_filter]
      apply List.filter_congr
      intro rule member
      rw [Bool.and_eq_left_iff_imp, List.all_eq_true]
      intro isOther other otherMem
      have notOwn : rule.name ∉ ownNames inboundRules := by simpa using isOther
      rw [decide_eq_true_eq]
      exact fun same => notOwn <|
        isPlanned.own_of_same_name between member (created other otherMem) same
    rw [written, SecurityGroupService.others, List.filter_append, ← List.append_assoc,
      ← between.others, ← kept]
    rfl

theorem exists_made_of_own {made : List SecurityRule}
    (areMade : List.Forall₂ (MadeOf destinationAddr sourceAddress) inboundRules made) {name : Text}
    (own : name ∈ ownNames inboundRules) : ∃ rule ∈ made, rule.name = name := by
  induction areMade with
  | nil => simp [ownNames] at own
  | @cons ruleData first inboundRules made isMade _ ih =>
      rcases isMade with ⟨priority, rfl⟩
      rcases List.mem_filterMap.mp own with ⟨bringer, member, named⟩
      rcases List.mem_cons.mp member with rfl | later
      · exact ⟨_, List.mem_cons_self, nameAt_of_named named priority⟩
      · rcases ih (List.mem_filterMap.mpr ⟨bringer, later, named⟩) with ⟨rule, ruleMem, same⟩
        exact ⟨rule, List.mem_cons_of_mem _ ruleMem, same⟩

/-- An attempt that completes replaces what the attempts before it have left of
named rules. -/
theorem Between.completed (between : Between before left inboundRules rules)
    (requestable : Requestable before inboundRules)
    (isPlanned : Planned inboundRules destinationAddr sourceAddress rules planned) :
    Azure.upsertAll planned rules = before ++ left ++ planned := by
  have keyed : Store.Keyed SecurityRule.name planned :=
    keyed_of_made isPlanned.made isPlanned.increasing requestable.distinct requestable.notGenerated
  have written : Azure.upsertAll planned rules =
      (rules.filter fun rule => planned.all fun other => rule.name ≠ other.name) ++ planned :=
    Store.foldl_upsert_of_nodup keyed rules
  rw [written, ← between.others]
  congr 1
  apply List.filter_congr
  intro rule member
  rw [Bool.eq_iff_iff, List.all_eq_true, Bool.not_eq_true', List.contains_eq_mem,
    decide_eq_false_iff_not]
  constructor
  · intro different own
    rcases exists_made_of_own isPlanned.made own with ⟨created, createdMem, same⟩
    exact of_decide_eq_true (different created createdMem) same.symm
  · intro notOwn created createdMem
    rw [decide_eq_true_eq]
    exact fun same => notOwn (isPlanned.own_of_same_name between member createdMem same)

/-- Rules leave nothing exactly when they all have names. -/
theorem others_eq_nil_iff {requested : List InboundRule} {made : List SecurityRule}
    (areMade : List.Forall₂ (MadeOf destinationAddr sourceAddress) requested made)
    (included : ∀ ruleData ∈ requested, ruleData ∈ inboundRules)
    (notGenerated : ∀ priority, ruleName priority ∉ ownNames inboundRules) :
    others inboundRules made = [] ↔
      ∀ ruleData ∈ requested, (truthy ruleData.name).isSome = true := by
  induction areMade with
  | nil => simp [others]
  | @cons ruleData first requested made isMade _ ih =>
      have later := ih fun other member => included other (List.mem_cons_of_mem ruleData member)
      rcases isMade with ⟨priority, rfl⟩
      rw [List.forall_mem_cons, ← later, others, others]
      cases named : truthy ruleData.name with
      | none =>
          have notOwn : nameAt ruleData priority ∉ ownNames inboundRules :=
            nameAt_of_unnamed named priority ▸ notGenerated priority
          simp [prepareSecurityGroupRule, notOwn]
      | some name =>
          have own : nameAt ruleData priority ∈ ownNames inboundRules := by
            rw [nameAt_of_named named]
            exact List.mem_filterMap.mpr ⟨ruleData, included ruleData List.mem_cons_self, named⟩
          simp [prepareSecurityGroupRule, own]

/-! ## One attempt -/

variable {strict : Bool} {nsg : Text} {lock : LockName} {startFrom : Option Int}

/-- Creating a rule settles the rules of its group. -/
theorem settles_putSecurityRule (strict : Bool) (nsg : Text) (rule : SecurityRule)
    (rules : List SecurityRule) :
    Settles (Azure.handle strict) (.putSecurityRule nsg rule) (fun azure => azure.rulesOf nsg)
      (some rules) (some (Store.upsert SecurityRule.name rule rules)) (.ok ()) (.ok ()) := by
  have stores : ∀ azure stored, azure.rulesOf nsg = some stored →
      (Azure.handle strict (.putSecurityRule nsg rule) azure).1 = .ok () ∧
      (Azure.handle strict (.putSecurityRule nsg rule) azure).2.rulesOf nsg =
        some (Store.upsert SecurityRule.name rule stored) := by
    intro azure stored isStored
    have left := Azure.rulesOf_handle strict (.putSecurityRule nsg rule) azure nsg
    rw [isStored] at left
    constructor
    · simp [Azure.handle, isStored]
    · exact left.trans (if_pos rfl)
  constructor
  · exact fun azure old => stores azure rules old
  · intro azure new
    have again := stores azure _ new
    rwa [Store.upsert_upsert_self] at again

theorem effective_of_completed {count : Nat} {fates : List (Fate ConnectionError)}
    (completed : (attemptedRules count fates).completed = true) :
    (attemptedRules count fates).effective = count := by
  induction count generalizing fates with
  | zero => rfl
  | succ count ih =>
      rw [attemptedRules] at completed ⊢
      by_cases first : (triedCall fates).completed = true
      · simp only [first, if_true] at completed ⊢
        rw [ih completed]
      · simp [first] at completed

/-- What a program for a list of rules leaves of an attempt with an outcome. -/
structure Leaves (nsg : Text) (rules : List SecurityRule) (outcome : Attempted)
    (final : Except PyException Unit × List (Fate ConnectionError) × Azure) : Prop where
  rest : final.2.1 = outcome.rest
  rulesOf : final.2.2.rulesOf nsg = some rules
  returns : outcome.completed = true → final.1 = .ok ()
  raises : outcome.completed = false → ∃ e : ConnectionError, final.1 = .error e.val

theorem run_createRules_leaves (strict : Bool) (destinationAddr sourceAddress : Text)
    {azure : Azure} (present : azure.rulesOf nsg = some rules)
    (tracks : Tracks generator used) (inboundRules : List InboundRule)
    (fates : List (Fate ConnectionError)) :
    let outcome := attemptedRules inboundRules.length fates
    Leaves nsg
      (Azure.upsertAll ((plannedRules destinationAddr sourceAddress inboundRules generator).take
        outcome.effective) rules) outcome
      (run (connectionServices strict)
        (createRules nsg destinationAddr sourceAddress inboundRules generator) (fates, azure)) := by
  induction inboundRules generalizing rules used generator azure fates with
  | nil => exact ⟨rfl, present, fun _ => rfl, (fun impossible => by cases impossible)⟩
  | cons ruleData rest ih =>
      rcases tracks.next with ⟨priority, after, yielded, _, tracksAfter⟩
      let rule := prepareSecurityGroupRule ruleData destinationAddr priority sourceAddress
      let program := createNetworkSecurityGroupRule nsg ruleData destinationAddr priority
        sourceAddress
      have follows : Follows Subtype.val (fun azure => azure.rulesOf nsg) (some rules)
          (some (Store.upsert SecurityRule.name rule rules)) (.ok ()) (.ok ()) (triedCall fates)
          (run (connectionServices strict) program (fates, azure)) :=
        run_retryConnection_send (fun _ impossible => by cases impossible)
          (fun _ impossible => by cases impossible)
          (settles_putSecurityRule strict nsg rule rules) fates present
      have seen := follows.seen
      simp only [createRules, plannedRules, yielded, List.length_cons, attemptedRules]
      cases completed : (triedCall fates).completed with
      | true =>
          rw [tookEffect_triedCall completed, if_pos rfl] at seen
          have later := ih seen tracksAfter (triedCall fates).rest
          rw [follows.run_bind_of_completed completed (ite_self _)]
          exact ⟨later.rest, later.rulesOf, later.returns, later.raises⟩
      | false =>
          rcases follows.run_bind_of_failed completed _ with ⟨e, failed⟩
          rw [failed]
          refine ⟨follows.rest, seen.trans ?_, (fun impossible => by cases impossible),
            fun _ => ⟨e, rfl⟩⟩
          cases (triedCall fates).tookEffect <;> rfl

/-- The body of `create_network_security_group_rules`. -/
def createRulesOnce (securityGroupName : Text) (inboundRules : List InboundRule)
    (destinationAddr : Text) (lock : LockName) (startFrom : Option Int) (sourceAddress : Text) :
    Shell Unit :=
  withLock lock do
    let securityRules ← send (.listSecurityRules securityGroupName)
    let priorityGenerator := rulePriorityGenerator
      (securityRules.map SecurityRule.priority) (startFrom.getD ruleDefaultPriority)
    createRules securityGroupName destinationAddr sourceAddress inboundRules priorityGenerator

/-- A listing that fails leaves the group alone; otherwise the rules are planned
from the listed ones. -/
theorem run_createRulesOnce_leaves (strict : Bool) (lock : LockName) (destinationAddr : Text)
    (startFrom : Option Int) (sourceAddress : Text) {azure : Azure}
    (present : azure.rulesOf nsg = some rules) (inboundRules : List InboundRule)
    (fates : List (Fate ConnectionError)) :
    let outcome := attempted inboundRules.length fates
    Leaves nsg
      (Azure.upsertAll ((rulesToCreate rules inboundRules destinationAddr startFrom
        sourceAddress).take outcome.effective) rules) outcome
      (run (connectionServices strict)
        (createRulesOnce nsg inboundRules destinationAddr lock startFrom sourceAddress)
        (fates, azure)) := by
  have handled : Azure.handle strict (.listSecurityRules nsg) azure = (.ok rules, azure) := by
    simp [Azure.handle, present]
  have created := run_createRules_leaves strict destinationAddr sourceAddress present
    (tracks_rulePriorityGenerator (rules.map SecurityRule.priority)
      (startFrom.getD ruleDefaultPriority)) inboundRules
  rw [createRulesOnce, run_withLock]
  cases fates with
  | nil =>
      have listed : run (connectionServices strict) (send (.listSecurityRules nsg)) ([], azure) =
          (.ok rules, [], azure) := by
        rw [run_send]
        simp [connectionServices, faulty, handled]
      rw [run_bind_of_ok listed]
      exact created []
  | cons fate rest =>
      cases fate with
      | completes =>
          have listed : run (connectionServices strict) (send (.listSecurityRules nsg))
              (.completes :: rest, azure) = (.ok rules, rest, azure) := by
            rw [run_send]
            simp [connectionServices, faulty, handled]
          rw [run_bind_of_ok listed]
          exact created rest
      | raisesBefore e =>
          have failed : run (connectionServices strict) (send (.listSecurityRules nsg))
              (.raisesBefore e :: rest, azure) = (.error e.val, rest, azure) := by
            rw [run_send]
            simp [connectionServices, faulty]
          rw [run_bind_of_error failed]
          exact ⟨rfl, present, (fun impossible => by cases impossible), fun _ => ⟨e, rfl⟩⟩
      | raisesAfter e =>
          have failed : run (connectionServices strict) (send (.listSecurityRules nsg))
              (.raisesAfter e :: rest, azure) = (.error e.val, rest, azure) := by
            rw [run_send]
            simp [connectionServices, faulty, handled]
          rw [run_bind_of_error failed]
          exact ⟨rfl, present, (fun impossible => by cases impossible), fun _ => ⟨e, rfl⟩⟩

theorem effective_of_attempted {count : Nat} {fates : List (Fate ConnectionError)}
    (completed : (attempted count fates).completed = true) :
    (attempted count fates).effective = count := by
  unfold attempted at completed ⊢
  split at completed
  · cases completed
  · cases completed
  · exact effective_of_completed completed

/-! ## All attempts -/

/-- What a call leaves whose failed attempts are known: it raises, or it returns
with the old rules, the leftovers of the failed attempts, and one rule for each
requested one. -/
def Settled (nsg : Text) (before left : List SecurityRule) (inboundRules : List InboundRule)
    (destinationAddr sourceAddress : Text)
    (final : Except PyException Unit × List (Fate ConnectionError) × Azure) :
    Option (List Nat) → Prop
  | none => ∃ e, final.1 = .error e
  | some counts => final.1 = .ok () ∧ ∃ more added,
      final.2.2.rulesOf nsg = some (before ++ (left ++ more) ++ added) ∧
      List.Forall₂ (MadeOf destinationAddr sourceAddress) inboundRules added ∧
      (more = [] ↔ ∀ count ∈ counts, ∀ ruleData ∈ inboundRules.take count,
        (truthy ruleData.name).isSome = true)

/-- The first rules of an attempt leave nothing exactly when they all have
names. -/
theorem Planned.others_take_eq_nil_iff
    (isPlanned : Planned inboundRules destinationAddr sourceAddress rules planned)
    (requestable : Requestable before inboundRules) (effective : Nat) :
    others inboundRules (planned.take effective) = [] ↔
      ∀ ruleData ∈ inboundRules.take effective, (truthy ruleData.name).isSome = true :=
  others_eq_nil_iff (List.forall₂_take effective isPlanned.made)
    (fun _ member => List.mem_of_mem_take member) requestable.notGenerated

/-- An attempt that completes leaves nothing of its own. -/
theorem settled_of_completed (strict : Bool) (lock : LockName) (destinationAddr : Text)
    (startFrom : Option Int) (sourceAddress : Text)
    (requestable : Requestable before inboundRules)
    (between : Between before left inboundRules rules) {azure : Azure}
    (present : azure.rulesOf nsg = some rules) {fates : List (Fate ConnectionError)}
    (completed : (attempted inboundRules.length fates).completed = true) :
    Settled nsg before left inboundRules destinationAddr sourceAddress
      (run (connectionServices strict)
        (createRulesOnce nsg inboundRules destinationAddr lock startFrom sourceAddress)
        (fates, azure)) (some []) := by
  have isPlanned := planned_rulesToCreate rules inboundRules destinationAddr startFrom sourceAddress
  have leaves := run_createRulesOnce_leaves strict lock destinationAddr startFrom sourceAddress
    present inboundRules fates
  have after := leaves.rulesOf
  rw [effective_of_attempted completed, List.take_of_length_le isPlanned.made.length_eq.ge,
    between.completed requestable isPlanned] at after
  refine ⟨leaves.returns completed, [], _, ?_, isPlanned.made, by simp⟩
  rw [after, List.append_nil]

theorem run_retry_createRulesOnce_settled (requestable : Requestable before inboundRules)
    (between : Between before left inboundRules rules) {azure : Azure}
    (present : azure.rulesOf nsg = some rules) (extra : Nat)
    (fates : List (Fate ConnectionError)) :
    Settled nsg before left inboundRules destinationAddr sourceAddress
      (run (connectionServices strict) (retry retryIfConnectionError extra
        (createRulesOnce nsg inboundRules destinationAddr lock startFrom sourceAddress))
        (fates, azure))
      (failedAttempts inboundRules.length extra fates) := by
  induction extra generalizing left rules azure fates with
  | zero =>
      rw [failedAttempts]
      cases completed : (attempted inboundRules.length fates).completed with
      | true => exact settled_of_completed _ _ _ _ _ requestable between present completed
      | false =>
          obtain ⟨e, raised⟩ :=
            (run_createRulesOnce_leaves strict lock destinationAddr startFrom sourceAddress present
              inboundRules fates).raises completed
          exact ⟨e.val, raised⟩
  | succ extra ih =>
      rw [failedAttempts]
      cases completed : (attempted inboundRules.length fates).completed with
      | true =>
          have settled := settled_of_completed strict lock destinationAddr startFrom
            sourceAddress requestable between present completed
          rw [run_retry_of_ok (Prod.ext settled.1 rfl), if_pos rfl]
          exact ⟨rfl, settled.2⟩
      | false =>
          let planned :=
            rulesToCreate rules inboundRules destinationAddr startFrom sourceAddress
          let created := planned.take (attempted inboundRules.length fates).effective
          have isPlanned : Planned inboundRules destinationAddr sourceAddress rules planned :=
            planned_rulesToCreate rules inboundRules destinationAddr startFrom sourceAddress
          have leaves := run_createRulesOnce_leaves strict lock destinationAddr startFrom
            sourceAddress present inboundRules fates
          rcases leaves.raises completed with ⟨e, raised⟩
          have later := ih (between.take requestable isPlanned _) leaves.rulesOf
            (attempted inboundRules.length fates).rest
          rw [← leaves.rest] at later ⊢
          rw [retry, run_catching_of_error (Prod.ext raised rfl), if_pos e.property,
            if_neg Bool.false_ne_true]
          generalize failedAttempts inboundRules.length extra _ = counts at later ⊢
          cases counts with
          | none => exact later
          | some counts =>
              rcases later with ⟨returns, more, added, after, made, onlyNamed⟩
              refine ⟨returns, others inboundRules created ++ more, added, ?_, made, ?_⟩
              · rw [← List.append_assoc left]
                exact after
              · rw [List.append_eq_nil_iff, onlyNamed, List.forall_mem_cons,
                  isPlanned.others_take_eq_nil_iff requestable]

/-! ## The whole call -/

/-- No attempt that failed before one that completed had put a rule without a
name into effect. -/
def OnlyNamedLeft (inboundRules : List InboundRule) (fates : List (Fate ConnectionError)) : Prop :=
  ∀ counts, failedAttempts inboundRules.length 4 fates = some counts →
    ∀ count ∈ counts, ∀ ruleData ∈ inboundRules.take count,
      (truthy ruleData.name).isSome = true

/-- A call of `create_network_security_group_rules` that returns has created every
rule exactly once, if and only if its failed attempts have left named rules
only. -/
theorem createNetworkSecurityGroupRules_exactlyOnce_iff
    (requestable : Requestable before inboundRules) {azure : Azure}
    (present : azure.rulesOf nsg = some before) (fates : List (Fate ConnectionError)) :
    let final := run (connectionServices strict) (createNetworkSecurityGroupRules nsg inboundRules
      destinationAddr lock startFrom sourceAddress) (fates, azure)
    ExactlyOnce before inboundRules destinationAddr sourceAddress final.1
        (final.2.2.rulesOf nsg) ↔
      OnlyNamedLeft inboundRules fates := by
  intro final
  have settled : Settled nsg before [] inboundRules destinationAddr sourceAddress final
      (failedAttempts inboundRules.length 4 fates) :=
    run_retry_createRulesOnce_settled requestable requestable.between present 4 fates
  rw [OnlyNamedLeft]
  cases outcome : failedAttempts inboundRules.length 4 fates with
  | none =>
      rw [outcome] at settled
      rcases settled with ⟨e, raised⟩
      rw [raised]
      exact iff_of_true nofun nofun
  | some counts =>
      rw [outcome] at settled
      rcases settled with ⟨returns, more, added, after, made, onlyNamed⟩
      simp only [Option.some.injEq, forall_eq']
      rw [← onlyNamed, after, returns]
      constructor
      · intro once
        rcases once rfl with ⟨rules, others, rulesEq, sameRules, othersMade⟩
        have lengths := sameRules.length_eq
        rw [← Option.some.inj rulesEq] at lengths
        simp only [List.length_append, List.length_nil, ← othersMade.length_eq,
          ← made.length_eq] at lengths
        exact List.length_eq_zero_iff.mp (by omega)
      · rintro rfl _
        exact ⟨before ++ added, added, by simp, List.Perm.refl _, made⟩

/-! Two rules without names.  The first attempt creates one of them and fails at
the other, the second attempt creates both. -/

def twoPorts : List InboundRule :=
  [.portData ⟨"80".toList, "80".toList, "tcp".toList, internet, none⟩,
    .portData ⟨"443".toList, "443".toList, "tcp".toList, internet, none⟩]

def aborted : ConnectionError := ⟨.clientRequestError "Connection aborted.".toList, by decide⟩

def secondRuleFails : List (Fate ConnectionError) :=
  [.completes, .completes] ++ List.replicate 5 (.raisesBefore aborted)

def emptyNsg : Azure :=
  { Azure.blank with networkSecurityGroups := [⟨"NSG_web".toList, []⟩] }

theorem requestable_twoPorts : Requestable [] twoPorts where
  generated := by simp
  distinct := by decide
  unused := by simp
  notGenerated := by
    have noNames : ownNames twoPorts = [] := by decide
    simp [noNames]

theorem createNetworkSecurityGroupRules_exactlyOnce_example :
    let final := run (connectionServices true) (createNetworkSecurityGroupRules "NSG_web".toList
      twoPorts "10.0.0.4".toList (.resource "NSG_web".toList) none internet)
      ([.raisesAfter aborted], emptyNsg)
    ExactlyOnce [] twoPorts "10.0.0.4".toList internet final.1
        (final.2.2.rulesOf "NSG_web".toList) ↔
      OnlyNamedLeft twoPorts [.raisesAfter aborted] :=
  createNetworkSecurityGroupRules_exactlyOnce_iff requestable_twoPorts (by decide) _

theorem failed_attempt_duplicates_unnamed_rule :
    let final := run (connectionServices true) (createNetworkSecurityGroupRules "NSG_web".toList
      twoPorts "10.0.0.4".toList (.resource "NSG_web".toList) none internet)
      (secondRuleFails, emptyNsg)
    Requestable [] twoPorts ∧ emptyNsg.rulesOf "NSG_web".toList = some [] ∧
      (final.2.2.rulesOf "NSG_web".toList).map (List.map SecurityRule.name) =
        some ["rule_1000".toList, "rule_1005".toList, "rule_1010".toList] ∧
      ¬ ExactlyOnce [] twoPorts "10.0.0.4".toList internet final.1
        (final.2.2.rulesOf "NSG_web".toList) := by
  intro final
  have returns : final.1 = .ok () := by decide
  have names : (final.2.2.rulesOf "NSG_web".toList).map (List.map SecurityRule.name) =
      some ["rule_1000".toList, "rule_1005".toList, "rule_1010".toList] := by decide
  refine ⟨requestable_twoPorts, by decide, names, fun once => ?_⟩
  rcases once returns with ⟨rules, added, after, sameRules, made⟩
  rw [after] at names
  have three : rules.length = 3 := by
    simpa using congrArg List.length (Option.some.inj names)
  have two : added.length = 2 := made.length_eq.symm
  have lengths := sameRules.length_eq
  rw [List.nil_append] at lengths
  omega

end SecurityGroupService

end AzureShell
