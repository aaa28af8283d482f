import AzureShell.Nsg.Batch
import AzureShell.Nsg.Ports

/-!
# The language of the inbound ports attribute

A port rule is a port or a range of ports, with or without a protocol.  The four
regular expressions of `_single_port_parse` accept exactly the texts of port
rules, each by the expression for its form, and a batch of accepted rules turns
an empty group into one allowing rule for each of them.
-/

namespace AzureShell

open Prog SecurityGroupService

namespace RulesAttributeParser

open Text

/-- A nonempty run of digits. -/
def IsPort (text : Text) : Prop :=
  text ≠ [] ∧ ∀ c ∈ text, c.isDigit = true

/-- `tcp` or `udp` in any letter case. -/
def IsProtocol (text : Text) : Prop :=
  lower text = tcp ∨ lower text = udp

/-- One rule of the attribute: `digits`, `digits-digits`, and either of them
followed by a colon and a protocol. -/
structure PortRule where
  fromPort : Text
  toPort : Option Text
  protocol : Option Text
  fromPort_isPort : IsPort fromPort
  toPort_isPort : ∀ port ∈ toPort, IsPort port
  protocol_isProtocol : ∀ name ∈ protocol, IsProtocol name

namespace PortRule

/-- The port or the range of ports, as written. -/
def portPart (rule : PortRule) : Text :=
  rule.fromPort ++ (rule.toPort.map ('-' :: ·)).getD []

/-- The rule as written. -/
def text (rule : PortRule) : Text :=
  rule.portPart ++ (rule.protocol.map (':' :: ·)).getD []

/-- The lower-cased protocol, `tcp` when there is none. -/
def protocolName (rule : PortRule) : Text :=
  (rule.protocol.map lower).getD tcp

/-- What the parser makes of the rule: a single port goes into `port`, a range
into `from_port` and `to_port`. -/
def ruleData (rule : PortRule) : RuleData :=
  match rule.toPort with
  | some toPort =>
      { protocol := rule.protocolName, fromPort := some rule.fromPort, toPort := some toPort }
  | none => { protocol := rule.protocolName, port := some rule.fromPort }

end PortRule

/-- The segments of the attribute: it is trimmed, split at semicolons, empty
parts are dropped and the others trimmed. -/
def segments (portsAttribute : Text) : List Text :=
  (((strip portsAttribute).splitOn ';').filter (· ≠ [])).map strip

/-! ## The regular expressions -/

theorem digits_append {run : Text} (rest : Text) (isPort : IsPort run)
    (stops : ∀ c ∈ rest.head?, c.isDigit = false) : digits (run ++ rest) = some (run, rest) := by
  have taken : (run ++ rest).span Char.isDigit = (run, rest) := by
    rw [List.span_eq_takeWhile_dropWhile, List.takeWhile_append_of_pos isPort.2,
      List.dropWhile_append_of_pos isPort.2]
    cases rest with
    | nil => simp
    | cons c rest => simp [stops c rfl]
  rcases List.exists_cons_of_ne_nil isPort.1 with ⟨c, tail, rfl⟩
  simp only [digits, taken]

theorem of_digits {text run rest : Text} (matched : digits text = some (run, rest)) :
    IsPort run ∧ text = run ++ rest := by
  rw [digits, List.span_eq_takeWhile_dropWhile] at matched
  split at matched
  · contradiction
  · rename_i taken left nonempty split
    cases matched
    rcases Prod.mk.inj split with ⟨rfl, rfl⟩
    refine ⟨⟨fun empty => nonempty empty, fun c member => ?_⟩,
      (List.takeWhile_append_dropWhile).symm⟩
    exact List.all_eq_true.mp List.all_takeWhile c member

theorem of_literal {c : Char} {text rest : Text} (matched : literal c text = some rest) :
    text = c :: rest := by
  cases text with
  | nil => contradiction
  | cons d text =>
      simp only [literal] at matched
      split at matched
      · rename_i same
        cases matched
        rw [same]
      · contradiction

/-- The text is not ended by a line break, which `$` would pass over. -/
def Unbroken (text : Text) : Prop :=
  text.getLast? ≠ some '\n'

theorem Unbroken.of_append {right : Text} (left : Text) (unbroken : Unbroken (left ++ right)) :
    Unbroken right := by
  intro broken
  apply unbroken
  rw [List.getLast?_append, broken]
  rfl

theorem unbroken_strip (text : Text) : Unbroken (strip text) := by
  intro broken
  have notSpace := isSpace_getLast?_strip broken
  revert notSpace
  decide

theorem of_atEnd {text : Text} (unbroken : Unbroken text) (matched : atEnd text = some ()) :
    text = [] := by
  unfold atEnd at matched
  split at matched
  · rename_i ends
    rcases ends with empty | lineBreak
    · exact empty
    · rw [lineBreak] at unbroken
      exact absurd rfl unbroken
  · contradiction

theorem of_protocolAtEnd {text protocol : Text} (unbroken : Unbroken text)
    (matched : protocolAtEnd text = some protocol) : text = protocol ∧ IsProtocol protocol := by
  simp only [protocolAtEnd, Option.bind_eq_bind, Option.bind_eq_some_iff] at matched
  rcases matched with ⟨_, atTheEnd, matched⟩
  have whole : text = text.take 3 ++ text.drop 3 := (List.take_append_drop 3 text).symm
  rw [whole] at unbroken
  rw [of_atEnd (Unbroken.of_append _ unbroken) atTheEnd, List.append_nil] at whole
  split at matched
  · rename_i known
    cases matched
    exact ⟨whole, known.symm⟩
  · contradiction

theorem IsProtocol.length {protocol : Text} (isProtocol : IsProtocol protocol) :
    protocol.length = 3 := by
  have lowered : (lower protocol).length = protocol.length := by simp [lower]
  rw [← lowered]
  rcases isProtocol with known | known <;> rw [known] <;> rfl

theorem protocolAtEnd_eq {protocol : Text} (isProtocol : IsProtocol protocol) :
    protocolAtEnd protocol = some protocol := by
  have short : protocol.length ≤ 3 := isProtocol.length.le
  have known : lower protocol = "udp".toList ∨ lower protocol = "tcp".toList := isProtocol.symm
  simp only [protocolAtEnd, List.take_of_length_le short, List.drop_of_length_le short, if_pos known]
  rfl

/-! ## Accepted texts -/

/-- The text of a port rule is accepted, by the expression for its form. -/
theorem singlePortParse_text (rule : PortRule) :
    singlePortParse rule.text = .ok rule.ruleData := by
  rcases rule with ⟨fromPort, toPort, protocol, fromIsPort, toIsPort, isProtocol⟩
  cases toPort with
  | none =>
      cases protocol with
      | none =>
          have alone : digits fromPort = some (fromPort, []) := by
            simpa using digits_append [] fromIsPort (by simp)
          simp [singlePortParse, PortRule.text, PortRule.portPart, PortRule.ruleData,
            PortRule.protocolName, fromToProtocolMatch, fromProtocolMatch, fromToMatch, portMatch,
            alone, literal, atEnd]
      | some protocol =>
          have beforeColon := digits_append (':' :: protocol) fromIsPort (by simp)
          simp [singlePortParse, PortRule.text, PortRule.portPart, PortRule.ruleData,
            PortRule.protocolName, fromToProtocolMatch, fromProtocolMatch, beforeColon, literal,
            protocolAtEnd_eq (isProtocol protocol rfl)]
  | some toPort =>
      have toIsPort := toIsPort toPort rfl
      cases protocol with
      | none =>
          have beforeDash := digits_append ('-' :: toPort) fromIsPort (by simp)
          have alone : digits toPort = some (toPort, []) := by
            simpa using digits_append [] toIsPort (by simp)
          simp [singlePortParse, PortRule.text, PortRule.portPart, PortRule.ruleData,
            PortRule.protocolName, fromToProtocolMatch, fromProtocolMatch, fromToMatch,
            beforeDash, alone, literal, atEnd]
      | some protocol =>
          have beforeDash := digits_append ('-' :: (toPort ++ ':' :: protocol))
            fromIsPort (by simp)
          have beforeColon := digits_append (':' :: protocol) toIsPort (by simp)
          simp [singlePortParse, PortRule.text, PortRule.portPart, PortRule.ruleData,
            PortRule.protocolName, fromToProtocolMatch, beforeDash, beforeColon, literal,
            protocolAtEnd_eq (isProtocol protocol rfl)]

theorem of_fromToProtocolMatch {text fromPort toPort protocol : Text} (unbroken : Unbroken text)
    (matched : fromToProtocolMatch text = some (fromPort, toPort, protocol)) :
    text = fromPort ++ '-' :: (toPort ++ ':' :: protocol) ∧ IsPort fromPort ∧ IsPort toPort ∧
      IsProtocol protocol := by
  simp only [fromToProtocolMatch, Option.bind_eq_bind, Option.bind_eq_some_iff] at matched
  obtain ⟨⟨first, afterFrom⟩, fromMatched, afterDash, dash, ⟨second, afterTo⟩, toMatched,
    afterColon, colon, _, ending, equal⟩ := matched
  cases equal
  rcases of_digits fromMatched with ⟨fromIsPort, rfl⟩
  rcases of_literal dash with rfl
  rcases of_digits toMatched with ⟨toIsPort, rfl⟩
  rcases of_literal colon with rfl
  have last : Unbroken afterColon := by
    apply Unbroken.of_append (first ++ '-' :: (second ++ [':']))
    simpa using unbroken
  rcases of_protocolAtEnd last ending with ⟨rfl, isProtocol⟩
  exact ⟨rfl, fromIsPort, toIsPort, isProtocol⟩

theorem of_fromProtocolMatch {text fromPort protocol : Text} (unbroken : Unbroken text)
    (matched : fromProtocolMatch text = some (fromPort, protocol)) :
    text = fromPort ++ ':' :: protocol ∧ IsPort fromPort ∧ IsProtocol protocol := by
  simp only [fromProtocolMatch, Option.bind_eq_bind, Option.bind_eq_some_iff] at matched
  rcases matched with ⟨⟨first, afterFrom⟩, fromMatched, afterColon, colon, _, ending, equal⟩
  cases equal
  rcases of_digits fromMatched with ⟨fromIsPort, rfl⟩
  rcases of_literal colon with rfl
  have last : Unbroken afterColon := by
    apply Unbroken.of_append (first ++ [':'])
    simpa using unbroken
  rcases of_protocolAtEnd last ending with ⟨rfl, isProtocol⟩
  exact ⟨rfl, fromIsPort, isProtocol⟩

theorem of_fromToMatch {text fromPort toPort : Text} (unbroken : Unbroken text)
    (matched : fromToMatch text = some (fromPort, toPort)) :
    text = fromPort ++ '-' :: toPort ∧ IsPort fromPort ∧ IsPort toPort := by
  simp only [fromToMatch, Option.bind_eq_bind, Option.bind_eq_some_iff] at matched
  obtain ⟨⟨first, afterFrom⟩, fromMatched, afterDash, dash, ⟨second, afterTo⟩, toMatched, _,
    ending, equal⟩ := matched
  cases equal
  rcases of_digits fromMatched with ⟨fromIsPort, rfl⟩
  rcases of_literal dash with rfl
  rcases of_digits toMatched with ⟨toIsPort, rfl⟩
  have last : Unbroken afterTo := by
    apply Unbroken.of_append (first ++ '-' :: second)
    simpa using unbroken
  rw [of_atEnd last ending, List.append_nil]
  exact ⟨rfl, fromIsPort, toIsPort⟩

theorem of_portMatch {text fromPort : Text} (unbroken : Unbroken text)
    (matched : portMatch text = some fromPort) : text = fromPort ∧ IsPort fromPort := by
  simp only [portMatch, Option.bind_eq_bind, Option.bind_eq_some_iff] at matched
  rcases matched with ⟨⟨_, afterFrom⟩, fromMatched, _, ending, equal⟩
  cases equal
  rcases of_digits fromMatched with ⟨fromIsPort, rfl⟩
  rw [of_atEnd unbroken.of_append ending, List.append_nil]
  exact ⟨rfl, fromIsPort⟩

/-- An accepted text that no line break ends is the text of a port rule. -/
theorem exists_text_of_singlePortParse {text : Text} (unbroken : Unbroken text)
    {ruleData : RuleData} (parsed : singlePortParse text = .ok ruleData) :
    ∃ rule : PortRule, rule.text = text := by
  unfold singlePortParse at parsed
  split at parsed
  · rename_i fromPort toPort protocol matched
    rcases of_fromToProtocolMatch unbroken matched with ⟨rfl, fromIsPort, toIsPort, isProtocol⟩
    exact ⟨⟨fromPort, some toPort, some protocol, fromIsPort, by simpa using toIsPort,
      by simpa using isProtocol⟩, by simp [PortRule.text, PortRule.portPart]⟩
  split at parsed
  · rename_i fromPort protocol matched
    rcases of_fromProtocolMatch unbroken matched with ⟨rfl, fromIsPort, isProtocol⟩
    exact ⟨⟨fromPort, none, some protocol, fromIsPort, by simp, by simpa using isProtocol⟩,
      by simp [PortRule.text, PortRule.portPart]⟩
  split at parsed
  · rename_i fromPort toPort matched
    rcases of_fromToMatch unbroken matched with ⟨rfl, fromIsPort, toIsPort⟩
    exact ⟨⟨fromPort, some toPort, none, fromIsPort, by simpa using toIsPort, by simp⟩,
      by simp [PortRule.text, PortRule.portPart]⟩
  split at parsed
  · rename_i fromPort matched
    rcases of_portMatch unbroken matched with ⟨rfl, fromIsPort⟩
    exact ⟨⟨text, none, none, fromIsPort, by simp, by simp⟩,
      by simp [PortRule.text, PortRule.portPart]⟩
  · contradiction

/-- A text that is not accepted is the text of no port rule, and is answered
with a `ValueError`. -/
theorem singlePortParse_cases {text : Text} (unbroken : Unbroken text) :
    (∃ rule : PortRule, rule.text = text ∧ singlePortParse text = .ok rule.ruleData) ∨
      ((¬ ∃ rule : PortRule, rule.text = text) ∧
        ∃ message, singlePortParse text = .error (.valueError message)) := by
  cases parsed : singlePortParse text with
  | ok ruleData =>
      rcases exists_text_of_singlePortParse unbroken parsed with ⟨rule, rfl⟩
      exact Or.inl ⟨rule, rfl, parsed.symm.trans (singlePortParse_text rule)⟩
  | error e =>
      refine Or.inr ⟨?_, ?_⟩
      · rintro ⟨rule, rfl⟩
        rw [singlePortParse_text] at parsed
        contradiction
      · unfold singlePortParse at parsed
        repeat' split at parsed
        all_goals cases parsed
        exact ⟨_, rfl⟩

/-! ## Lists of rules -/

theorem parsePortGroupAttribute_eq (portsAttribute : Text) :
    parsePortGroupAttribute portsAttribute = (segments portsAttribute).mapM singlePortParse := by
  rw [parsePortGroupAttribute, segments, List.mapM_map]
  rfl

/-- Texts of port rules are all accepted. -/
theorem mapM_singlePortParse_text (portRules : List PortRule) :
    (portRules.map PortRule.text).mapM singlePortParse =
      .ok (portRules.map PortRule.ruleData) := by
  induction portRules with
  | nil => rfl
  | cons rule portRules ih =>
      rw [List.map_cons, List.mapM_cons, singlePortParse_text, ih]
      rfl

/-- One text that is not the text of a port rule makes the list fail. -/
theorem mapM_singlePortParse_of_mem {texts : List Text}
    (unbroken : ∀ text ∈ texts, Unbroken text) {text : Text} (member : text ∈ texts)
    (notRule : ¬ ∃ rule : PortRule, rule.text = text) :
    ∃ message, texts.mapM singlePortParse = .error (.valueError message) := by
  induction texts with
  | nil => simp at member
  | cons first texts ih =>
      rw [List.mapM_cons]
      rcases singlePortParse_cases (unbroken first List.mem_cons_self) with
        ⟨rule, isText, parsed⟩ | ⟨_, message, parsed⟩
      · have later : text ∈ texts := by
          rcases List.mem_cons.mp member with rfl | later
          · exact absurd ⟨rule, isText⟩ notRule
          · exact later
        obtain ⟨message, failed⟩ :=
          ih (fun other otherMem => unbroken other (List.mem_cons_of_mem first otherMem)) later
        rw [parsed, failed]
        exact ⟨message, rfl⟩
      · rw [parsed]
        exact ⟨message, rfl⟩

theorem unbroken_of_mem_segments {portsAttribute segment : Text}
    (member : segment ∈ segments portsAttribute) : Unbroken segment := by
  rcases List.mem_map.mp member with ⟨part, _, rfl⟩
  exact unbroken_strip part

/-- The attribute raises a `ValueError`. -/
def RaisesValueError (portsAttribute : Text) : Prop :=
  ∃ message, parsePortGroupAttribute portsAttribute = .error (.valueError message)

theorem exists_portRules {texts : List Text}
    (areRules : ∀ text ∈ texts, ∃ rule : PortRule, rule.text = text) :
    ∃ portRules : List PortRule, texts = portRules.map PortRule.text := by
  induction texts with
  | nil => exact ⟨[], rfl⟩
  | cons text texts ih =>
      rcases areRules text List.mem_cons_self with ⟨rule, isText⟩
      obtain ⟨portRules, areTexts⟩ := ih fun other member =>
        areRules other (List.mem_cons_of_mem text member)
      exact ⟨rule :: portRules, by rw [List.map_cons, isText, areTexts]⟩

/-- The attribute is accepted exactly when all its segments are port rules. -/
theorem raisesValueError_iff (portsAttribute : Text) :
    RaisesValueError portsAttribute ↔
      ∃ segment ∈ segments portsAttribute, ¬ ∃ rule : PortRule, rule.text = segment := by
  rw [RaisesValueError, parsePortGroupAttribute_eq]
  constructor
  · rintro ⟨message, failed⟩
    by_contra areRules
    push Not at areRules
    rcases exists_portRules areRules with ⟨portRules, areTexts⟩
    rw [areTexts, mapM_singlePortParse_text] at failed
    contradiction
  · rintro ⟨segment, member, notRule⟩
    exact mapM_singlePortParse_of_mem (fun _ => unbroken_of_mem_segments) member notRule

/-! ## The compiled rules -/

/-- A security rule says what a port rule says. -/
structure PortRule.CompiledTo (portRule : PortRule) (rule : SecurityRule) : Prop where
  access : rule.access = .allow
  source : rule.sourceAddressPrefix = internet
  ports : rule.destinationPortRange = portRule.portPart
  protocol : rule.protocol = portRule.protocolName

theorem PortRule.compiledTo_prepareSecurityGroupRule (portRule : PortRule)
    (destinationAddr : Text) (priority : Int) :
    portRule.CompiledTo (prepareSecurityGroupRule (.ruleData portRule.ruleData) destinationAddr
      priority internet) := by
  rcases portRule with ⟨fromPort, toPort, protocol, fromIsPort, toIsPort, isProtocol⟩
  cases toPort with
  | none =>
      refine ⟨rfl, rfl, ?_, rfl⟩
      simp [prepareSecurityGroupRule, InboundRule.portRange, RuleData.portRange,
        PortRule.ruleData, PortRule.portPart, fromIsPort.1]
  | some toPort =>
      refine ⟨rfl, rfl, ?_, rfl⟩
      simp [prepareSecurityGroupRule, InboundRule.portRange, RuleData.portRange,
        PortRule.ruleData, PortRule.portPart, truthy, formatOptional]

theorem ruleData_name (portRule : PortRule) : portRule.ruleData.name = none := by
  unfold PortRule.ruleData
  split <;> rfl

/-- The attribute raises a `ValueError` just when a segment is not a port rule;
otherwise an empty group is filled with one allowing rule for each segment, in
their order and with increasing priorities. -/
theorem createNetworkSecurityGroupRules_of_portsAttribute {strict : Bool} {azure : Azure}
    {nsg : Text} (empty : azure.rulesOf nsg = some []) (portsAttribute destinationAddr : Text)
    (lock : LockName) :
    (RaisesValueError portsAttribute ↔
        ∃ segment ∈ segments portsAttribute, ¬ ∃ rule : PortRule, rule.text = segment) ∧
      (¬ RaisesValueError portsAttribute →
        ∃ entries portRules after rules,
          parsePortGroupAttribute portsAttribute = .ok entries ∧
          segments portsAttribute = portRules.map PortRule.text ∧
          run (Azure.handle strict) (createNetworkSecurityGroupRules nsg (entries.map .ruleData)
            destinationAddr lock (some 1000)) azure = (.ok (), after) ∧
          after.rulesOf nsg = some rules ∧
          List.Forall₂ PortRule.CompiledTo portRules rules ∧
          rules.Pairwise fun rule later => rule.priority < later.priority) := by
  refine ⟨raisesValueError_iff portsAttribute, fun accepted => ?_⟩
  rw [raisesValueError_iff] at accepted
  push Not at accepted
  rcases exists_portRules accepted with ⟨portRules, areTexts⟩
  let entries := portRules.map PortRule.ruleData
  let planned := rulesToCreate [] (entries.map .ruleData) destinationAddr (some 1000) internet
  have rewrites : Rewrites strict nsg _ _ := createNetworkSecurityGroupRules_rewrites
    (entries.map .ruleData) destinationAddr lock (some 1000) internet
  rcases rewrites azure [] empty with ⟨after, created, rules_eq, _⟩
  have unnamed : ∀ ruleData ∈ entries.map InboundRule.ruleData, truthy ruleData.name = none := by
    intro ruleData member
    simp only [entries, List.map_map, List.mem_map, Function.comp_apply] at member
    rcases member with ⟨portRule, _, rfl⟩
    rw [InboundRule.name, ruleData_name]
    rfl
  rw [addRules_nil_of_unnamed unnamed] at rules_eq
  refine ⟨entries, portRules, after, planned, ?_, areTexts, created, rules_eq, ?_, ?_⟩
  · rw [parsePortGroupAttribute_eq, areTexts, mapM_singlePortParse_text]
  · have matched : List.Forall₂ (fun ruleData rule => ∃ priority,
        rule = prepareSecurityGroupRule ruleData destinationAddr priority internet)
        (entries.map .ruleData) planned :=
      forall₂_plannedRules (tracks_rulePriorityGenerator [] 1000) _
    rw [List.forall₂_map_left_iff, List.forall₂_map_left_iff] at matched
    refine List.Forall₂.imp ?_ matched
    rintro portRule rule ⟨priority, rfl⟩
    exact portRule.compiledTo_prepareSecurityGroupRule destinationAddr priority
  · exact rulesToCreate_increasing [] (entries.map .ruleData) destinationAddr (some 1000) internet

theorem createNetworkSecurityGroupRules_of_portsAttribute_example :
    ∃ entries portRules after rules,
      parsePortGroupAttribute "80; 20-25:UDP;".toList = .ok entries ∧
      segments "80; 20-25:UDP;".toList = portRules.map PortRule.text ∧
      run (Azure.handle true) (createNetworkSecurityGroupRules "NSG".toList
          (entries.map .ruleData) asterisk (.resource "NSG".toList) (some 1000))
        { Azure.blank with networkSecurityGroups := [⟨"NSG".toList, []⟩] } = (.ok (), after) ∧
      after.rulesOf "NSG".toList = some rules ∧
      List.Forall₂ PortRule.CompiledTo portRules rules ∧
      rules.Pairwise fun rule later => rule.priority < later.priority := by
  refine (createNetworkSecurityGroupRules_of_portsAttribute rfl "80; 20-25:UDP;".toList asterisk
    (.resource "NSG".toList)).2 ?_
  rintro ⟨message, failed⟩
  have parsed : (parsePortGroupAttribute "80; 20-25:UDP;".toList).isOk = true := by decide
  rw [failed] at parsed
  contradiction

end RulesAttributeParser

end AzureShell
