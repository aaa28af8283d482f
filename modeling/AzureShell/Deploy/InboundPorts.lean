import AzureShell.Deploy.Addresses
import AzureShell.Deploy.AllOrNothing
import AzureShell.Sandbox.Artifacts

/-!
# Inbound ports in the group of the subnets

Every interface of a deployment writes the inbound rules of the machine into the
group of the subnets, with its own address as destination.  The names of the
rules do not tell the interfaces apart, so each interface replaces the rules of
the one before.
-/

namespace AzureShell

open Prog SecurityGroupService NameProviderService

namespace DeployAzureVMOperation

variable {request : DeployRequest} {data : DeployDataModel} {entries : List RuleData}
  {state finished : FaultyAzure} {nsg address : Text} {rules : List SecurityRule}

/-- The rule lets the Internet reach an address on the ports of an entry. -/
structure OpensEntry (entry : RuleData) (address : Text) (rule : SecurityRule) : Prop where
  access : rule.access = .allow
  direction : rule.direction = "Inbound".toList
  source : rule.sourceAddressPrefix = internet
  destination : rule.destinationAddressPrefix = address
  ports : rule.destinationPortRange = entry.portRange
  protocol : rule.protocol = entry.protocol

/-- The rule has the name of an inbound rule of the machine. -/
def NamesEntry (vmName : Text) (entries : List RuleData) (name : Text) : Prop :=
  ∃ entry ∈ entries, name = inboundPortsRuleName vmName entry

/-- Entries with the same rule name have the same ports and protocol. -/
theorem inboundPortsRuleName_inj {vmName : Text} {entry other : RuleData}
    (protocol : entry.protocol = RulesAttributeParser.udp ∨
      entry.protocol = RulesAttributeParser.tcp)
    (otherProtocol : other.protocol = RulesAttributeParser.udp ∨
      other.protocol = RulesAttributeParser.tcp)
    (same : inboundPortsRuleName vmName entry = inboundPortsRuleName vmName other) :
    entry.portRange = other.portRange ∧ entry.protocol = other.protocol := by
  have lengths : ∀ text : Text, text = RulesAttributeParser.udp ∨ text = RulesAttributeParser.tcp →
      text.length = 3 := by
    rintro text (rfl | rfl) <;> rfl
  have marked := List.append_cancel_left same
  rw [List.append_assoc, List.append_assoc] at marked
  have tails : entry.portRange ++ ':' :: entry.protocol = other.portRange ++ ':' :: other.protocol :=
    List.append_cancel_left marked
  have sameLength : (':' :: entry.protocol).length = (':' :: other.protocol).length := by
    rw [List.length_cons, List.length_cons, lengths _ protocol, lengths _ otherProtocol]
  rcases List.append_inj' tails sameLength with ⟨ports, rest⟩
  exact ⟨ports, (List.cons.inj rest).2⟩

/-! ## Rules of other names -/

/-- The rules of other names are the same in both lists. -/
def SameOthers (vmName : Text) (entries : List RuleData) (before after : List SecurityRule) :
    Prop :=
  ∀ rule, ¬ NamesEntry vmName entries rule.name → (rule ∈ after ↔ rule ∈ before)

/-- A planned request leaves the rules of other names in the group of the
subnets. -/
theorem sameOthers_handle {vmName : Text} {sent : Request} {azure : Azure}
    (builds : Builds (PlansWith data entries) sent)
    (different : vmNsgName data.vmName ≠ getSubnetsNsgName data.reservationId)
    {before : List SecurityRule} (isName : data.vmName = vmName)
    (same : SameOthers vmName entries before
      (azure.rulesIn (getSubnetsNsgName data.reservationId))) :
    SameOthers vmName entries before
      ((Azure.handle false sent azure).2.rulesIn (getSubnetsNsgName data.reservationId)) := by
  subst isName
  rw [Azure.rulesIn, Azure.rulesOf_handle]
  cases sent with
  | putSecurityRule group rule =>
      simp only [Request.onRules]
      split
      · rename_i isGroup
        have planned := builds.creates _ rfl
        rcases planned with own | ⟨_, entry, member, named⟩
        · exact absurd (own.symm.trans isGroup) different
        · intro other otherName
          have otherThan : other.name ≠ rule.name := by
            intro sameName
            exact otherName ⟨entry, member, sameName.trans named⟩
          rw [← same other otherName, Azure.rulesIn]
          cases azure.rulesOf (getSubnetsNsgName data.reservationId) with
          | none => rfl
          | some rules =>
              simp only [Option.map_some, Option.getD_some, Store.mem_upsert_iff]
              constructor
              · rintro (rfl | ⟨old, _⟩)
                · exact absurd rfl otherThan
                · exact old
              · intro old
                exact Or.inr ⟨old, otherThan⟩
      · exact same
  | putNetworkSecurityGroup group =>
      simp only [Request.onRules]
      split
      · rename_i isGroup
        have planned : group = vmNsgName data.vmName := builds.creates _ rfl
        exact absurd (planned.symm.trans isGroup) different
      · exact same
  | deleteSecurityRule group name => cases builds.deletes
  | deleteNetworkSecurityGroup group => cases builds.deletes
  | deleteResourceGroup group => cases builds.deletes
  | _ => exact same

/-- Planned requests leave the rules of other names in the group of the
subnets. -/
theorem sameOthers_run {α : Type} {program : Shell α}
    (builds : BuildsOnly (PlansWith data entries) program)
    (different : vmNsgName data.vmName ≠ getSubnetsNsgName data.reservationId)
    (state : FaultyAzure) :
    SameOthers data.vmName entries
      (state.2.rulesIn (getSubnetsNsgName data.reservationId))
      ((run services program state).2.2.rulesIn (getSubnetsNsgName data.reservationId)) := by
  apply builds.run_preserves fun azure => SameOthers data.vmName entries
    (state.2.rulesIn (getSubnetsNsgName data.reservationId))
    (azure.rulesIn (getSubnetsNsgName data.reservationId))
  · intro sent azure isBuilds same
    exact sameOthers_handle isBuilds different rfl same
  · intro rule _
    rfl

/-! ## The rules of one interface -/

/-- Rules with the name exist, and each of them opens an entry of that name to
the address. -/
def Replaced (vmName : Text) (entries : List RuleData) (address name : Text)
    (rules : List SecurityRule) : Prop :=
  (∃ rule ∈ rules, rule.name = name) ∧
    ∀ rule ∈ rules, rule.name = name →
      ∃ entry ∈ entries, rule.name = inboundPortsRuleName vmName entry ∧
        OpensEntry entry address rule

/-- The rule made of an entry opens it. -/
theorem opensEntry_of_mem {vmName : Text} {ruleData : InboundRule}
    (member : ruleData ∈ namedInboundRules vmName entries)
    (allowed : ∀ entry ∈ entries, entry.access = .allow) (priority : Int) :
    ∃ entry ∈ entries, (prepareSecurityGroupRule ruleData address priority internet).name =
        inboundPortsRuleName vmName entry ∧
      OpensEntry entry address (prepareSecurityGroupRule ruleData address priority internet) := by
  rcases List.mem_map.mp member with ⟨entry, entryMem, rfl⟩
  refine ⟨entry, entryMem, ?_, ?_⟩
  · rw [prepareSecurityGroupRule, nameAt, InboundRule.name,
      truthy_some (inboundPortsRuleName_ne_nil vmName entry)]
    rfl
  · exact ⟨allowed entry entryMem, rfl, rfl, rfl, rfl, rfl⟩

/-- Writing a rule of an interface keeps its rules replaced. -/
theorem replaced_upsert {vmName name : Text} {ruleData : InboundRule}
    (member : ruleData ∈ namedInboundRules vmName entries)
    (allowed : ∀ entry ∈ entries, entry.access = .allow) (priority : Int)
    (replaced : Replaced vmName entries address name rules ∨
      (prepareSecurityGroupRule ruleData address priority internet).name = name) :
    Replaced vmName entries address name (Store.upsert SecurityRule.name
      (prepareSecurityGroupRule ruleData address priority internet) rules) := by
  constructor
  · by_cases same : (prepareSecurityGroupRule ruleData address priority internet).name = name
    · exact ⟨_, Store.mem_upsert_self _ _, same⟩
    · rcases replaced.resolve_right same with ⟨⟨rule, ruleMem, named⟩, _⟩
      refine ⟨rule, Store.mem_upsert_iff.mpr (Or.inr ⟨ruleMem, ?_⟩), named⟩
      rw [named]
      exact Ne.symm same
  · intro rule ruleMem named
    rcases Store.mem_upsert_iff.mp ruleMem with rfl | ⟨old, different⟩
    · exact opensEntry_of_mem member allowed priority
    · rcases replaced with ⟨_, opens⟩ | isNew
      · exact opens rule old named
      · exact absurd (named.trans isNew.symm) different

/-- What the requests of an interface's rules preserve. -/
theorem replaced_handle {vmName name : Text} {sent : Request} {azure : Azure}
    (creates : CreatesRules nsg (namedInboundRules vmName entries) address internet sent)
    (allowed : ∀ entry ∈ entries, entry.access = .allow)
    (replaced : Replaced vmName entries address name (azure.rulesIn nsg)) :
    Replaced vmName entries address name ((Azure.handle false sent azure).2.rulesIn nsg) := by
  rw [Azure.rulesIn, Azure.rulesOf_handle]
  rcases creates with rfl | ⟨ruleData, member, priority, rfl⟩
  · exact replaced
  · simp only [Request.onRules, if_true]
    cases present : azure.rulesOf nsg with
    | none =>
        rw [Azure.rulesIn, present] at replaced
        rcases replaced with ⟨⟨_, none, _⟩, _⟩
        cases none
    | some rules =>
        rw [Azure.rulesIn, present] at replaced
        exact replaced_upsert member allowed priority (Or.inl replaced)

/-- A rule of an interface that was created replaces the rules of its name. -/
theorem createRule_replaced {vmName : Text} {ruleData : InboundRule} {priority : Int}
    (member : ruleData ∈ namedInboundRules vmName entries)
    (allowed : ∀ entry ∈ entries, entry.access = .allow)
    (success : run services (createNetworkSecurityGroupRule nsg ruleData address priority
      internet) state = (.ok (), finished)) :
    Replaced vmName entries address (nameAt ruleData priority) (finished.2.rulesIn nsg) := by
  rcases run_retry_eq_ok success with ⟨start, success⟩
  have answered := run_services_of_ok success
  cases present : start.2.rulesOf nsg with
  | none =>
      have failed := congrArg Prod.fst answered
      simp only [Azure.handle, present] at failed
      cases failed
  | some rules =>
      rw [Azure.rulesIn, ← congrArg Prod.snd answered, Azure.rulesOf_handle, Request.onRules,
        if_pos rfl, present]
      exact replaced_upsert member allowed priority (Or.inr rfl)

/-- Once replaced, the rules of a name stay so while the interface's rules are
created. -/
theorem replaced_of_within {α : Type} {vmName name : Text} {program : Shell α}
    (within : Within (CreatesRules nsg (namedInboundRules vmName entries) address internet) program)
    (allowed : ∀ entry ∈ entries, entry.access = .allow)
    (replaced : Replaced vmName entries address name (state.2.rulesIn nsg)) :
    Replaced vmName entries address name ((run services program state).2.2.rulesIn nsg) := by
  apply within.run_faulty_preserves fun azure : Azure =>
    Replaced vmName entries address name (azure.rulesIn nsg)
  · exact fun sent azure creates before => replaced_handle creates allowed before
  · exact replaced

theorem createRules_replaced {vmName : Text} {wanted : List InboundRule}
    {generator : PriorityGenerator}
    (included : ∀ ruleData ∈ wanted, ruleData ∈ namedInboundRules vmName entries)
    (allowed : ∀ entry ∈ entries, entry.access = .allow)
    (success : run services (createRules nsg address internet wanted generator) state =
      (.ok (), finished)) :
    ∀ entry ∈ entries, .ruleData { entry with name := some (inboundPortsRuleName vmName entry) } ∈
        wanted →
      Replaced vmName entries address (inboundPortsRuleName vmName entry)
        (finished.2.rulesIn nsg) := by
  induction wanted generalizing generator state with
  | nil => simp
  | cons ruleData rest ih =>
      rw [createRules] at success
      split at success
      · rename_i priority after _
        rcases run_bind_eq_ok success with ⟨_, between, first, later⟩
        have includedRest : ∀ other ∈ rest, other ∈ namedInboundRules vmName entries :=
          fun other member => included other (List.mem_cons_of_mem ruleData member)
        intro entry entryMem inWanted
        rcases List.mem_cons.mp inWanted with isFirst | inRest
        · have replaced := createRule_replaced (included ruleData List.mem_cons_self) allowed first
          have named : nameAt ruleData priority = inboundPortsRuleName vmName entry := by
            rw [← isFirst, nameAt, InboundRule.name,
              truthy_some (inboundPortsRuleName_ne_nil vmName entry)]
            rfl
          rw [named] at replaced
          have within : Within
              (CreatesRules nsg (namedInboundRules vmName entries) address internet)
              (createRules nsg address internet rest after) := createRules_within includedRest
          have kept := replaced_of_within within allowed replaced
          rwa [later] at kept
        · exact ih includedRest later entry entryMem inRest
      · cases success

/-- The rules of an interface replace those of the same names. -/
theorem createNetworkSecurityGroupRules_replaced {vmName : Text} {lock : LockName}
    {startFrom : Option Int} (allowed : ∀ entry ∈ entries, entry.access = .allow)
    (success : run services (createNetworkSecurityGroupRules nsg
      (namedInboundRules vmName entries) address lock startFrom) state = (.ok (), finished)) :
    ∀ entry ∈ entries, Replaced vmName entries address (inboundPortsRuleName vmName entry)
      (finished.2.rulesIn nsg) := by
  rcases run_retry_eq_ok success with ⟨start, success⟩
  rw [run_withLock] at success
  rcases run_bind_eq_ok success with ⟨_, _, _, success⟩
  intro entry member
  exact createRules_replaced (fun _ included => included) allowed success entry member
    (List.mem_map_of_mem member)

/-! ## The interfaces -/

theorem createNetwork_replaced {nicRequest : Option NicRequest} {nic : NetworkInterface}
    (allowed : ∀ entry ∈ entries, entry.access = .allow)
    (success : run services (createNetwork request data entries nicRequest) state =
      (.ok nic, finished)) :
    ∃ address, HasAddress nic address ∧ ∀ entry ∈ entries,
      Replaced data.vmName entries address (inboundPortsRuleName data.vmName entry)
        (finished.2.rulesIn (getSubnetsNsgName data.reservationId)) := by
  rcases run_bind_eq_ok success with ⟨_, _, _, success⟩
  rcases run_bind_eq_ok success with ⟨created, _, _, success⟩
  rcases run_bind_eq_ok success with ⟨ipConfiguration, _, first, success⟩
  rcases run_bind_eq_ok success with ⟨_, _, _, success⟩
  rcases run_bind_eq_ok success with ⟨_, between, rulesCreated, success⟩
  cases success
  exact ⟨_, ⟨ipConfiguration, congrArg Prod.fst first, rfl⟩,
    createNetworkSecurityGroupRules_replaced allowed rulesCreated⟩

/-- After the loop over the interfaces the rules are those of the last one. -/
theorem createNetworks_replaced {nicRequests : List (Option NicRequest)}
    {nics : List NetworkInterface} (allowed : ∀ entry ∈ entries, entry.access = .allow)
    (success : run services (collect nicRequests (createNetwork request data entries)) state =
      (.ok nics, finished)) :
    ∀ last ∈ nics.getLast?, ∃ address, HasAddress last address ∧ ∀ entry ∈ entries,
      Replaced data.vmName entries address (inboundPortsRuleName data.vmName entry)
        (finished.2.rulesIn (getSubnetsNsgName data.reservationId)) := by
  induction nicRequests generalizing nics state with
  | nil =>
      cases success
      simp
  | cons nicRequest rest ih =>
      rcases run_bind_eq_ok success with ⟨nic, between, first, success⟩
      rcases run_bind_eq_ok success with ⟨later, left, others, success⟩
      cases success
      cases later with
      | nil =>
          intro last isLast
          cases isLast
          have restNil : rest = [] := by
            cases rest with
            | nil => rfl
            | cons other rest =>
                rcases run_bind_eq_ok others with ⟨_, _, _, others⟩
                rcases run_bind_eq_ok others with ⟨_, _, _, others⟩
                cases others
          subst restNil
          cases others
          exact createNetwork_replaced allowed first
      | cons second later =>
          intro last isLast
          exact ih others last (by simpa using isLast)

/-- A part of the deployment that creates nothing leaves the rules. -/
theorem rulesIn_of_readsOnly {α : Type} {program : Shell α}
    (reads : BuildsOnly (fun _ => False) program) (state : FaultyAzure) (nsg : Text) :
    (run services program state).2.2.rulesIn nsg = state.2.rulesIn nsg := by
  apply reads.run_preserves fun azure => azure.rulesIn nsg = state.2.rulesIn nsg
  · intro sent azure builds same
    rw [← same, Azure.rulesIn, Azure.rulesOf_handle]
    cases sent with
    | putSecurityRule group rule => exact (builds.creates _ rfl).elim
    | putNetworkSecurityGroup group => exact (builds.creates _ rfl).elim
    | deleteSecurityRule group name => cases builds.deletes
    | deleteNetworkSecurityGroup group => cases builds.deletes
    | deleteResourceGroup group => cases builds.deletes
    | _ => rfl
  · rfl

/-- The common objects leave the rules of the last interface. -/
theorem createVmCommonObjects_replaced {nics : List NetworkInterface}
    (parsed : RulesAttributeParser.parsePortGroupAttribute
      request.deploymentModel.inboundPorts = .ok entries)
    (success : run services (createVmCommonObjects request data) state = (.ok nics, finished)) :
    ∀ last ∈ nics.getLast?, ∃ address, HasAddress last address ∧ ∀ entry ∈ entries,
      Replaced data.vmName entries address (inboundPortsRuleName data.vmName entry)
        (finished.2.rulesIn (getSubnetsNsgName data.reservationId)) := by
  have allowed : ∀ entry ∈ entries, entry.access = .allow := fun entry member =>
    RulesAttributeParser.access_of_parsePortGroupAttribute parsed member
  rcases run_bind_eq_ok success with ⟨_, start, _, success⟩
  rcases run_bind_eq_ok success with ⟨rules, _, isParsed, success⟩
  rw [parsed] at isParsed
  cases isParsed
  rcases run_bind_eq_ok success with ⟨_, _, _, success⟩
  rcases run_bind_eq_ok success with ⟨created, between, loop, success⟩
  have reads : BuildsOnly (fun _ => False) (do
      VMCredentialsService.prepareCredentials request.createVmAction.osType
        request.deploymentModel.password
      CommandCancellationService.checkIfCancelled
      pure created) := by
    apply Within.bind
    · apply Within.when
      intro _
      exact Within.retry (BuildsOnly.read rfl rfl) 4
    · intro _
      exact BuildsOnly.checkIfCancelled.bind fun _ => trivial
  have unchanged := rulesIn_of_readsOnly reads between (getSubnetsNsgName data.reservationId)
  rw [success] at unchanged
  rcases run_bind_eq_ok success with ⟨_, _, _, success⟩
  rcases run_bind_eq_ok success with ⟨_, _, _, success⟩
  cases success
  rw [unchanged]
  exact createNetworks_replaced allowed loop

/-- The common objects leave the rules of other names in the group of the
subnets. -/
theorem createVmCommonObjects_sameOthers (isGenerated : IsGeneratedName data.vmName)
    (parsed : RulesAttributeParser.parsePortGroupAttribute
      request.deploymentModel.inboundPorts = .ok entries) (state : FaultyAzure) :
    SameOthers data.vmName entries
      (state.2.rulesIn (getSubnetsNsgName data.reservationId))
      ((run services (createVmCommonObjects request data) state).2.2.rulesIn
        (getSubnetsNsgName data.reservationId)) := by
  have builds : BuildsOnly (PlansWith data entries) (createVmCommonObjects request data) := by
    apply createVmCommonObjects_buildsWith
    intro rules isParsed
    rw [parsed] at isParsed
    exact (Except.ok.inj isParsed).symm
  exact sameOthers_run builds (vmNsgName_ne_getSubnetsNsgName isGenerated) state

/-! ## Every interface and every entry -/

/-- The group opens every entry to the address of every interface. -/
def ReachesEvery (entries : List RuleData) (nics : List NetworkInterface)
    (rules : List SecurityRule) : Prop :=
  ∀ nic ∈ nics, ∀ address, HasAddress nic address → ∀ entry ∈ entries,
    ∃ rule ∈ rules, OpensEntry entry address rule

/-- The interface has the address of the last one. -/
def SharesLastAddress (nics : List NetworkInterface) (address : Text) : Prop :=
  ∃ last ∈ nics.getLast?, HasAddress last address

/-- After the common objects are created, the inbound ports reach an interface
if it has the address of the last one, or if rules of other names opened them
before. -/
theorem createVmCommonObjects_reachesEvery_iff {nics : List NetworkInterface}
    (isGenerated : IsGeneratedName data.vmName)
    (parsed : RulesAttributeParser.parsePortGroupAttribute
      request.deploymentModel.inboundPorts = .ok entries)
    (success : run services (createVmCommonObjects request data) state = (.ok nics, finished)) :
    ReachesEvery entries nics (finished.2.rulesIn (getSubnetsNsgName data.reservationId)) ↔
      ∀ nic ∈ nics, ∀ address, HasAddress nic address → ∀ entry ∈ entries,
        SharesLastAddress nics address ∨
          ∃ rule ∈ state.2.rulesIn (getSubnetsNsgName data.reservationId),
            ¬ NamesEntry data.vmName entries rule.name ∧ OpensEntry entry address rule := by
  have protocols : ∀ entry ∈ entries, entry.protocol = RulesAttributeParser.udp ∨
      entry.protocol = RulesAttributeParser.tcp := fun entry member =>
    RulesAttributeParser.protocol_of_parsePortGroupAttribute parsed member
  have others := createVmCommonObjects_sameOthers isGenerated parsed state
  rw [success] at others
  have replaced := createVmCommonObjects_replaced parsed success
  have addressOfLast : ∀ address, ∀ last ∈ nics.getLast?, HasAddress last address →
      ∀ entry ∈ entries, Replaced data.vmName entries address
        (inboundPortsRuleName data.vmName entry)
        (finished.2.rulesIn (getSubnetsNsgName data.reservationId)) := by
    rintro address last isLast ⟨_, first, rfl⟩
    rcases replaced last isLast with ⟨_, ⟨_, other, rfl⟩, all⟩
    rw [first] at other
    cases other
    exact all
  constructor
  · intro reaches nic nicMem address hasAddress entry member
    rcases reaches nic nicMem address hasAddress entry member with ⟨rule, ruleMem, opens⟩
    by_cases named : NamesEntry data.vmName entries rule.name
    · left
      rcases named with ⟨other, otherMem, ruleName⟩
      obtain ⟨last, isLast⟩ : ∃ last, last ∈ nics.getLast? := by
        rw [List.getLast?_eq_some_getLast (List.ne_nil_of_mem nicMem)]
        exact ⟨_, rfl⟩
      rcases replaced last isLast with ⟨lastAddress, lastHas, all⟩
      rcases (all other otherMem).2 rule ruleMem ruleName with ⟨_, _, _, opensLast⟩
      have same : lastAddress = address := opensLast.destination.symm.trans opens.destination
      exact ⟨last, isLast, same ▸ lastHas⟩
    · exact Or.inr ⟨rule, (others rule named).mp ruleMem, named, opens⟩
  · intro covered nic nicMem address hasAddress entry member
    rcases covered nic nicMem address hasAddress entry member with
      ⟨last, isLast, lastHas⟩ | ⟨rule, ruleMem, named, opens⟩
    · obtain ⟨⟨rule, ruleMem, ruleName⟩, all⟩ :=
        addressOfLast address last isLast lastHas entry member
      rcases all rule ruleMem ruleName with ⟨other, otherMem, sameName, opens⟩
      obtain ⟨ports, protocol⟩ := inboundPortsRuleName_inj (protocols entry member)
        (protocols other otherMem) (ruleName.symm.trans sameName)
      refine ⟨rule, ruleMem, opens.access, opens.direction, opens.source, opens.destination, ?_, ?_⟩
      · exact opens.ports.trans ports.symm
      · exact opens.protocol.trans protocol.symm
    · exact ⟨rule, (others rule named).mpr ruleMem, opens⟩

/-! ## Two interfaces -/

/-- A machine that opens port 80. -/
def openRequest : DeployRequest :=
  { webRequest with deploymentModel :=
    { webRequest.deploymentModel with inboundPorts := "80".toList } }

/-- The data of a machine with interfaces on the given subnets. -/
def openData (subnets : List Subnet) : DeployDataModel where
  reservationId := "r1".toList
  groupName := "r1".toList
  vmName := "web-0a1b2c3d".toList
  vmSize := "Basic_A0".toList
  nicRequests := subnets.zipIdx.map fun (subnet, i) =>
    some ⟨"web-0a1b2c3d".toList ++ '-' :: Text.ofNat i, subnet, true⟩

/-- A prepared sandbox that gives different interfaces different addresses. -/
def openSandbox : FaultyAzure :=
  ([], { (webSandbox []).2 with
    dynamicIp := fun name => "10.0.0.".toList ++ name.drop 13 })

/-- What the common objects of a machine on the given subnets end with. -/
abbrev openRun (subnets : List Subnet) : Except PyException (List NetworkInterface) × FaultyAzure :=
  run services (createVmCommonObjects openRequest (openData subnets)) openSandbox

theorem isGeneratedName_openData : IsGeneratedName "web-0a1b2c3d".toList :=
  ⟨[], "web".toList, "0a1b2c3d".toList, 64, by decide, by decide⟩

def openEntries : List RuleData :=
  [{ protocol := RulesAttributeParser.tcp, port := some "80".toList }]

theorem parsed_openRequest : RulesAttributeParser.parsePortGroupAttribute
    openRequest.deploymentModel.inboundPorts = .ok openEntries := by
  decide

def frontSubnet : Subnet :=
  ⟨"r1_front".toList, "10.0.1.0/24".toList, none, none, none⟩

def backSubnet : Subnet :=
  ⟨"r1_back".toList, "10.0.2.0/24".toList, none, none, none⟩

/-- The interface of the machine with an index. -/
def openInterface (index : Text) (subnet : Subnet) : NetworkInterface where
  name := "web-0a1b2c3d-".toList ++ index
  ipConfigurations :=
    [{ privateIpAddress := "10.0.0.".toList ++ index
       privateIpAllocationMethod := .dynamic
       subnetId := subnet.name
       publicIpAddressId := some ("web-0a1b2c3d-".toList ++ index ++ "_PublicIP".toList) }]

/-- A rule by which somebody has opened port 80 to the first interface. -/
def openedRule : SecurityRule :=
  prepareSecurityGroupRule
    (.ruleData { protocol := RulesAttributeParser.tcp, port := some "80".toList,
                 name := some "front_port".toList })
    "10.0.0.0".toList 3000 internet

/-- The prepared sandbox with this rule. -/
def openedSandbox : FaultyAzure :=
  ([], { openSandbox.2 with
    networkSecurityGroups := [⟨getSubnetsNsgName "r1".toList, [openedRule]⟩] })

/-- The inbound port reaches two interfaces, of which the first had it before. -/
theorem createVmCommonObjects_reachesEvery_example :
    ∃ finished, run services (createVmCommonObjects openRequest
        (openData [frontSubnet, backSubnet])) openedSandbox =
          (.ok [openInterface "0".toList frontSubnet, openInterface "1".toList backSubnet],
            finished) ∧
      ReachesEvery openEntries
        [openInterface "0".toList frontSubnet, openInterface "1".toList backSubnet]
        (finished.2.rulesIn (getSubnetsNsgName "r1".toList)) := by
  have success : run services (createVmCommonObjects openRequest
      (openData [frontSubnet, backSubnet])) openedSandbox =
        (.ok [openInterface "0".toList frontSubnet, openInterface "1".toList backSubnet],
          (run services (createVmCommonObjects openRequest
            (openData [frontSubnet, backSubnet])) openedSandbox).2) :=
    Prod.ext (by decide) rfl
  refine ⟨_, success, ?_⟩
  apply (createVmCommonObjects_reachesEvery_iff isGeneratedName_openData parsed_openRequest
    success).mpr
  intro nic member address hasAddress entry isEntry
  cases List.mem_singleton.mp isEntry
  rcases List.mem_cons.mp member with rfl | isSecond
  · right
    rcases hasAddress with ⟨_, ⟨⟩, rfl⟩
    refine ⟨openedRule, List.mem_cons_self, ?_, ?_⟩
    · rintro ⟨other, isOther, sameName⟩
      cases List.mem_singleton.mp isOther
      revert sameName
      decide
    · constructor <;> rfl
  · cases List.mem_singleton.mp isSecond
    exact Or.inl ⟨_, rfl, hasAddress⟩

/-- The second interface takes the inbound port from the first one. -/
theorem second_interface_takes_inbound_port :
    ∃ nics finished, openRun [frontSubnet, backSubnet] = (.ok nics, finished) ∧
      ¬ ReachesEvery openEntries nics
        (finished.2.rulesIn (getSubnetsNsgName "r1".toList)) := by
  have success : openRun [frontSubnet, backSubnet] =
      (.ok [openInterface "0".toList frontSubnet, openInterface "1".toList backSubnet],
        (openRun [frontSubnet, backSubnet]).2) :=
    Prod.ext (by decide) rfl
  refine ⟨_, _, success, fun reaches => ?_⟩
  have elsewhere : ∀ rule ∈ (openRun [frontSubnet, backSubnet]).2.2.rulesIn
      (getSubnetsNsgName "r1".toList), rule.destinationAddressPrefix ≠ "10.0.0.0".toList := by
    decide
  obtain ⟨rule, member, opens⟩ := reaches _ List.mem_cons_self "10.0.0.0".toList
    ⟨_, rfl, by decide⟩ _ List.mem_cons_self
  exact elsewhere rule member opens.destination

end DeployAzureVMOperation

end AzureShell
