import AzureShell.Apps.Concurrent

/-!
# Updates of one app serialize if they do not overlap

A round of a call is a section of the rules of its group: what it leaves there
depends on the permanent rules only.  Where updates of a group do not overlap,
the last update of one of the calls decides which custom rules are left, as it
does where the calls are made one after the other.
-/

namespace AzureShell

open Prog SecurityGroupService

namespace SetAppSecurityGroupsOperation

/-! ## Rounds as sections -/

section Sections

variable {environment : Environment} {groupName vmName : Text} {azure : Azure}

/-- A request of a round changes the rules of groups only. -/
theorem view_handle {nsg group : Text} {held : Bool} {request : Request}
    (allowed : RoundRequest group held request) (s : Azure) :
    (watchGroup nsg azure).view (Azure.handle false request s).2 =
      ⟨request.onRules nsg (s.rulesOf nsg), s.virtualMachines, s.networkInterfaces⟩ := by
  have rest : (Azure.handle false request s).2.virtualMachines = s.virtualMachines ∧
      (Azure.handle false request s).2.networkInterfaces = s.networkInterfaces := by
    cases request with
    | putSecurityRule target rule =>
        simp only [Azure.handle]
        split <;> exact ⟨rfl, rfl⟩
    | listSecurityRules target => exact ⟨rfl, rfl⟩
    | deleteSecurityRule target name => exact ⟨rfl, rfl⟩
    | getVirtualMachine name => exact ⟨rfl, rfl⟩
    | getNetworkInterface name => exact ⟨rfl, rfl⟩
    | _ => cases allowed
  change GroupView.mk _ _ _ = _
  rw [Azure.rulesOf_handle, rest.1, rest.2]

/-- A request about another group leaves what the updates of a group see. -/
theorem spares_of_other {nsg group : Text} (other : group ≠ nsg) {held : Bool} {request : Request}
    (allowed : RoundRequest group held request) :
    Cell.Spares (watchGroup nsg azure) (Azure.handle false) request := by
  intro s
  rw [view_handle allowed]
  cases request with
  | putSecurityRule target rule =>
      rcases allowed with ⟨rfl, _⟩
      rw [Request.onRules, if_neg other]
      rfl
  | deleteSecurityRule target name =>
      rcases allowed with ⟨rfl, _⟩
      rw [Request.onRules, if_neg other]
      rfl
  | listSecurityRules target => rfl
  | getVirtualMachine name => rfl
  | getNetworkInterface name => rfl
  | _ => cases allowed

/-- Requests of a round keep the permanent rules of its group. -/
theorem onRules_permanent {nsg : Text} {held : Bool} {request : Request}
    (allowed : RoundRequest nsg held request) (rules : Option (List SecurityRule)) :
    (request.onRules nsg rules).map permanentRules = rules.map permanentRules := by
  cases request with
  | putSecurityRule target rule =>
      rcases allowed with ⟨rfl, _, custom⟩
      rw [Request.onRules, if_pos rfl, Option.map_map]
      congr 1
      funext before
      exact permanentRules_upsert custom before
  | deleteSecurityRule target name =>
      rcases allowed with ⟨rfl, _, custom⟩
      rw [Request.onRules, if_pos rfl, Option.map_map]
      congr 1
      funext before
      exact permanentRules_erase custom before
  | listSecurityRules target => rfl
  | getVirtualMachine name => rfl
  | getNetworkInterface name => rfl
  | _ => cases allowed

/-- The answers to the requests of a round are determined by what it sees. -/
theorem answer_congr {nsg : Text} {held : Bool} {request : Request}
    (allowed : RoundRequest nsg held request) {s t : Azure}
    (rules : ConcernsRules nsg request → s.rulesOf nsg = t.rulesOf nsg)
    (machines : s.virtualMachines = t.virtualMachines)
    (interfaces : s.networkInterfaces = t.networkInterfaces) :
    (Azure.handle false request s).1 = (Azure.handle false request t).1 := by
  cases request with
  | putSecurityRule target rule =>
      rcases allowed with ⟨rfl, _, _⟩
      simp only [Azure.handle, rules rfl]
      split <;> rfl
  | deleteSecurityRule target name => rfl
  | listSecurityRules target =>
      rcases allowed with ⟨rfl, _⟩
      simp only [Azure.handle, rules rfl]
  | getVirtualMachine name => simp only [Azure.handle, machines]
  | getNetworkInterface name => simp only [Azure.handle, interfaces]
  | _ => cases allowed

/-- The requests of a round after its listing may occur in a section of its
group. -/
theorem sectional_of_round {nsg : Text} {held : Bool} {request : Request}
    (allowed : RoundRequest nsg held request) :
    (rulesCell nsg).Sectional (watchGroup nsg azure) (Azure.handle false) request where
  answer_congr := by
    intro s t same
    exact answer_congr allowed (fun _ => congrArg GroupView.rules same)
      (congrArg GroupView.virtualMachines same) (congrArg GroupView.networkInterfaces same)
  view_congr := by
    intro s t same
    rw [view_handle allowed, view_handle allowed]
    have rules : s.rulesOf nsg = t.rulesOf nsg := congrArg GroupView.rules same
    have machines : s.virtualMachines = t.virtualMachines :=
      congrArg GroupView.virtualMachines same
    have interfaces : s.networkInterfaces = t.networkInterfaces :=
      congrArg GroupView.networkInterfaces same
    rw [rules, machines, interfaces]
  invariant := by
    intro s invariant
    rw [view_handle allowed]
    exact ⟨(onRules_permanent allowed _).trans invariant.1, invariant.2⟩
  spares := by
    intro aside s
    rw [view_handle allowed]
    cases request with
    | putSecurityRule target rule => exact absurd allowed.1 aside
    | deleteSecurityRule target name => exact absurd allowed.1 aside
    | listSecurityRules target => exact absurd allowed.1 aside
    | getVirtualMachine name => rfl
    | getNetworkInterface name => rfl
    | _ => cases allowed
  constant := by
    intro aside s t first second
    exact answer_congr allowed (fun concerns => absurd concerns aside)
      (first.2.1.trans second.2.1.symm) (first.2.2.trans second.2.2.symm)

theorem held_of_concerns {nsg : Text} {held : Bool} {request : Request}
    (allowed : RoundRequest nsg held request) (concerns : ConcernsRules nsg request) :
    held = true := by
  cases request with
  | putSecurityRule target rule => exact allowed.2.1
  | deleteSecurityRule target name => exact allowed.2.1
  | listSecurityRules target => exact allowed.2
  | _ => cases concerns

/-- A round on another group does nothing to this one. -/
theorem setApp_outside {model : AppSecurityGroupModel} (other : model.appName ≠ vmName) :
    Obeys (Azure.handle false)
      ((rulesCell (vmNsgName vmName)).outside (watchGroup (vmNsgName vmName) azure)
        (Azure.handle false))
      (KeepsLock false fun _ => False) false (setApp environment groupName model) := by
  have otherNsg : vmNsgName model.appName ≠ vmNsgName vmName :=
    fun same => other (vmNsgName_injective same)
  rw [setApp_eq]
  refine ⟨fun _ => rfl, fun s => ⟨fun _ => rfl, fun t => ?_⟩⟩
  apply (afterListing_obeys final_of_listing).mono
  · intro held request allowed
    exact spares_of_other otherNsg allowed
  · rintro lock rfl
    exact fun same => otherNsg (LockName.resource.inj same)
  · exact fun _ _ keeps => keeps

variable {α : Type} {post : Option (Finset SecurityRule) → Except PyException α → Prop}
  {last : Option (Finset SecurityRule)}

/-- A round on the group is a section that leaves the content of its update. -/
theorem resting_of_update {model : AppSecurityGroupModel} (same : model.appName = vmName)
    {rest : SetAppSecurityGroupActionResult → Shell α}
    (later : ∀ result, Cell.Resting (rulesCell (vmNsgName vmName))
      (watchGroup (vmNsgName vmName) azure) (Azure.handle false) post
      (some (leftContent environment groupName azure vmName model)) (rest result)) :
    Cell.Resting (rulesCell (vmNsgName vmName)) (watchGroup (vmNsgName vmName) azure)
      (Azure.handle false) post last (setApp environment groupName model >>= rest) := by
  subst same
  rw [setApp_eq]
  refine .call (fun _ => rfl) fun _ _ => .opens (fun _ => rfl) fun s invariant => ?_
  obtain ⟨result, t, ran, _, content⟩ :=
    run_setApp_content environment groupName model (sameSetting_of_watched invariant)
  rw [setApp_eq] at ran
  have body : run (Azure.handle false) (afterListing environment groupName model
      (Azure.handle false (.listSecurityRules (vmNsgName model.appName)) s).1) s =
        (.ok result, t) := ran
  rw [contentAfter, if_pos rfl] at content
  refine .intro (b := result) ?_ (congrArg Prod.fst body) ?_
  · apply (afterListing_obeys final_of_listing).mono
    · intro held request allowed
      exact ⟨sectional_of_round allowed, held_of_concerns allowed⟩
    · exact fun lock isLock => isLock
    · exact fun _ _ keeps => keeps.1
  · have left : (watchGroup (vmNsgName model.appName) azure).content
        ((watchGroup (vmNsgName model.appName) azure).view (run (Azure.handle false)
          (afterListing environment groupName model
            (Azure.handle false (.listSecurityRules (vmNsgName model.appName)) s).1) s).2) =
          leftContent environment groupName azure model.appName model := by
      rw [body]
      exact content
    have rests := later result
    rw [← left] at rests
    exact rests

/-- A call rests between its updates, and after it the content of its last
update counts. -/
theorem resting_setAppsSecurityGroups (models : List AppSecurityGroupModel)
    {rest : List SetAppSecurityGroupActionResult → Shell α}
    (later : ∀ results, Cell.Resting (rulesCell (vmNsgName vmName))
      (watchGroup (vmNsgName vmName) azure) (Azure.handle false) post
      (lastUpdate environment groupName azure vmName last models) (rest results)) :
    Cell.Resting (rulesCell (vmNsgName vmName)) (watchGroup (vmNsgName vmName) azure)
      (Azure.handle false) post last
      (setAppsSecurityGroups environment groupName models >>= rest) := by
  induction models generalizing last rest with
  | nil => exact later []
  | cons model others ih =>
      rw [setAppsSecurityGroups, collect, bind_assoc]
      have continues : ∀ (next : Option (Finset SecurityRule)) (result),
          lastUpdate environment groupName azure vmName last (model :: others) =
            lastUpdate environment groupName azure vmName next others →
          Cell.Resting (rulesCell (vmNsgName vmName)) (watchGroup (vmNsgName vmName) azure)
            (Azure.handle false) post next
            (collect others (setApp environment groupName) >>= fun results =>
              pure (result :: results) >>= rest) := by
        intro next result same
        apply ih
        intro results
        rw [← same]
        exact later (result :: results)
      by_cases same : model.appName = vmName
      · apply resting_of_update same
        intro result
        rw [bind_assoc]
        apply continues
        rw [lastUpdate, if_pos same]
      · refine Cell.Resting.after ((setApp_outside same).weaken ?_)
        rintro _ outcome ⟨rfl, noError⟩
        cases outcome with
        | error e => exact (noError e rfl).elim
        | ok result =>
            refine ⟨result, rfl, ?_⟩
            rw [bind_assoc]
            apply continues
            rw [lastUpdate, if_neg same]

end Sections

/-! ## Two calls at the same time -/

section Calls

variable {environment : Bool → Environment} {groupName vmName : Text}
  {requests : Bool → List AppSecurityGroupModel} {azure : Azure}

variable (environment groupName vmName requests azure)

/-- The content left by two calls one after the other. -/
theorem oneAfterTheOther_content (first : Bool) :
    let last := fun i => lastUpdate (environment i) groupName azure vmName none (requests i)
    some (customRulesIn (vmNsgName vmName)
        (oneAfterTheOther environment groupName requests azure first)) =
      ((last !first).or (last first)).or (some (customRulesIn (vmNsgName vmName) azure)) := by
  intro last
  have start : SameSetting azure vmName azure := ⟨rfl, rfl⟩
  obtain ⟨_, between, ran, setting, content⟩ :=
    run_setAppsSecurityGroups_content (environment first) groupName (requests first) start
  obtain ⟨_, after, later, _, contentLater⟩ :=
    run_setAppsSecurityGroups_content (environment !first) groupName (requests !first) setting
  rw [oneAfterTheOther, ran, later, ← contentLater, ← content, lastUpdate_or,
    lastUpdate_or (some _) (requests first), Option.or_assoc]

variable {environment groupName vmName requests azure}

/-- Where updates of the machine's group do not overlap, two calls serialize. -/
theorem setAppsSecurityGroups_serialized
    {config : Config AzureServices Azure Bool (List SetAppSecurityGroupActionResult)}
    (reaches : ReachesWhere (Azure.handle false) (rulesCell (vmNsgName vmName)).Undisturbed
      (concurrently environment groupName requests azure) config) :
    Serialized environment groupName requests azure vmName config := by
  intro results ended _
  let last := fun i => lastUpdate (environment i) groupName azure vmName none (requests i)
  let post : Bool → Option (Finset SecurityRule) →
      Except PyException (List SetAppSecurityGroupActionResult) → Prop :=
    fun i left _ => left = last i
  have rests : ∀ i, Cell.Resting (rulesCell (vmNsgName vmName))
      (watchGroup (vmNsgName vmName) azure) (Azure.handle false) (post i) none
      (setAppsSecurityGroups (environment i) groupName (requests i)) := by
    intro i
    rw [← bind_pure (setAppsSecurityGroups (environment i) groupName (requests i))]
    apply resting_setAppsSecurityGroups
    intro results
    exact .done rfl
  rcases Cell.leftBy_of_reachesWhere rests ⟨rfl, rfl, rfl⟩ reaches ended with
    ⟨left, isLast, leftBy⟩
  rcases leftBy with ⟨i, byUpdate⟩ | ⟨noUpdate, unchanged⟩
  · have isLeft : last i = some (customRulesIn (vmNsgName vmName) config.shared) :=
      (isLast i).symm.trans byUpdate
    refine ⟨!i, Option.some.inj ?_⟩
    rw [oneAfterTheOther_content, Bool.not_not]
    change _ = ((last i).or (last !i)).or _
    rw [isLeft]
    rfl
  · have noLast : ∀ i, last i = none := fun i => (isLast i).symm.trans (noUpdate i)
    refine ⟨false, Option.some.inj ?_⟩
    rw [oneAfterTheOther_content]
    change _ = ((last !false).or (last false)).or _
    rw [noLast, noLast]
    exact congrArg some unchanged

end Calls

/-! Two requests for one port each, on the two subnets of a machine. -/

def onePort (subnetId port : Text) : AppSecurityGroupModel where
  appName := "app".toList
  securityGroupConfigurations := some [⟨subnetId, some [tcpPort port]⟩]

def twoRequests : Bool → List AppSecurityGroupModel
  | false => [onePort "left".toList "80".toList]
  | true => [onePort "right".toList "22".toList]

def twoCalls : Config AzureServices Azure Bool (List SetAppSecurityGroupActionResult) :=
  concurrently (fun _ => namedSubnets) "group".toList twoRequests twoInterfaces

def appCell : Cell AzureServices :=
  rulesCell (vmNsgName "app".toList)

def appDone : Shell (List SetAppSecurityGroupActionResult) :=
  .done (.ok [⟨"app".toList, true, []⟩])

section Example

variable {config after : Config AzureServices Azure Bool (List SetAppSecurityGroupActionResult)}
  {schedule : List Bool} {i : Bool}

/-- Steps that open no update. -/
def quietly (config : Config AzureServices Azure Bool (List SetAppSecurityGroupActionResult))
    (schedule : List Bool) :
    Option (Config AzureServices Azure Bool (List SetAppSecurityGroupActionResult)) :=
  config.play (Azure.handle false) (fun config i => !appCell.opens config i) schedule

/-- A step that opens an update, and steps that do not. -/
def opening (config : Config AzureServices Azure Bool (List SetAppSecurityGroupActionResult))
    (i : Bool) (schedule : List Bool) :
    Option (Config AzureServices Azure Bool (List SetAppSecurityGroupActionResult)) :=
  (config.step (Azure.handle false) i).bind fun opened => quietly opened schedule

theorem reaches_of_quietly (played : quietly config schedule = some after) :
    ReachesWhere (Azure.handle false) appCell.Undisturbed config after :=
  reachesWhere_of_play appCell.undisturbed_of_not_opens played

theorem reaches_of_opening (atRest : appCell.AtRest config !i)
    (played : opening config i schedule = some after) :
    ReachesWhere (Azure.handle false) appCell.Undisturbed config after := by
  rcases Option.bind_eq_some_iff.mp played with ⟨opened, stepped, played⟩
  have undisturbed : appCell.Undisturbed config i := by
    intro _ j other
    rwa [Bool.eq_not.mpr other]
  exact .head ⟨i, undisturbed, step_of_eq_some stepped⟩ (reaches_of_quietly played)

/-- The first call has asked for the lock. -/
def firstAsked : Option (Config AzureServices Azure Bool (List SetAppSecurityGroupActionResult)) :=
  quietly twoCalls [false]

/-- The first call has ended, and the second one has asked for the lock. -/
def firstDone : Option (Config AzureServices Azure Bool (List SetAppSecurityGroupActionResult)) :=
  firstAsked.bind fun config => opening config false (List.replicate 9 false ++ [true])

def bothDone : Option (Config AzureServices Azure Bool (List SetAppSecurityGroupActionResult)) :=
  firstDone.bind fun config => opening config true (List.replicate 10 true)

end Example

theorem setAppsSecurityGroups_serialized_example :
    ∃ config, ReachesWhere (Azure.handle false) appCell.Undisturbed twoCalls config ∧
      (∀ i, config.threads i = appDone) ∧
      Serialized (fun _ => namedSubnets) "group".toList twoRequests twoInterfaces "app".toList
        config := by
  have ended : bothDone.map (fun config => (config.threads false, config.threads true)) =
      some (appDone, appDone) := by rfl
  rcases Option.map_eq_some_iff.mp ended with ⟨config, isConfig, threads⟩
  rcases Option.bind_eq_some_iff.mp isConfig with ⟨done, isDone, second⟩
  rcases Option.bind_eq_some_iff.mp isDone with ⟨asked, isAsked, first⟩
  have askedRest : appCell.AtRest asked true := by
    have start : firstAsked.map (fun config => (config.owner appCell.lock, config.threads true)) =
        some (none, twoCalls.threads true) := by rfl
    rw [isAsked, Option.map_some, Option.some.injEq, Prod.mk.injEq] at start
    rw [Cell.AtRest, start.1, start.2]
    refine ⟨nofun, Or.inr ⟨id, fun answer => ?_⟩⟩
    cases answer with
    | error e => trivial
    | ok a => exact Or.inl rfl
  have doneRest : appCell.AtRest done false := by
    have ended : firstDone.map (fun config => (config.owner appCell.lock, config.threads false)) =
        some (none, appDone) := by rfl
    rw [isDone, Option.map_some, Option.some.injEq, Prod.mk.injEq] at ended
    rw [Cell.AtRest, ended.1, ended.2]
    exact ⟨nofun, trivial⟩
  have reaches : ReachesWhere (Azure.handle false) appCell.Undisturbed twoCalls config :=
    (reaches_of_quietly isAsked).trans <|
      (reaches_of_opening (i := false) askedRest first).trans
        (reaches_of_opening (i := true) doneRest second)
  refine ⟨config, reaches, Bool.forall_bool.mpr ?_, setAppsSecurityGroups_serialized reaches⟩
  exact Prod.mk.inj threads

/-- Both calls list the rules before either deletes or creates any, so neither
deletes the rule the other one creates. -/
def overlapping : Option (Config AzureServices Azure Bool (List SetAppSecurityGroupActionResult)) :=
  twoCalls.play (Azure.handle false) (fun _ _ => true)
    ([false, false, true, true] ++ List.replicate 9 false ++ List.replicate 9 true)

theorem overlapping_updates_not_serialized :
    ∃ config, Reaches (Azure.handle false) twoCalls config ∧
      ¬ Serialized (fun _ => namedSubnets) "group".toList twoRequests twoInterfaces "app".toList
        config := by
  have ended : overlapping.map (fun config => (config.threads false, config.threads true)) =
      some (appDone, appDone) := by rfl
  have differs : overlapping.map (fun config => decide (∃ first,
      customRulesIn (vmNsgName "app".toList) config.shared = customRulesIn (vmNsgName "app".toList)
        (oneAfterTheOther (fun _ => namedSubnets) "group".toList twoRequests twoInterfaces first))) =
      some false := by decide
  rcases Option.map_eq_some_iff.mp ended with ⟨config, isConfig, threads⟩
  rw [isConfig, Option.map_some, Option.some.injEq] at differs
  refine ⟨config, reaches_of_play isConfig, fun serialized => ?_⟩
  have bothEnded : ∀ i, config.threads i = appDone := Bool.forall_bool.mpr (Prod.mk.inj threads)
  refine of_decide_eq_false differs (serialized _ bothEnded ?_)
  intro i result member
  rw [List.mem_singleton.mp member]

end SetAppSecurityGroupsOperation

end AzureShell
