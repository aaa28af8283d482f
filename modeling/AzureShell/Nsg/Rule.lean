import AzureShell.Azure.Service

/-!
# Requested rules and the rules made of them

The shell describes an inbound rule either by a `RuleData` (from the inbound
ports attribute, or made by the shell itself) or by a `PortData` (from an
application security group request).
-/

namespace AzureShell

/-- Python truth of an optional string: `None` and the empty string are false. -/
def truthy (value : Option Text) : Option Text :=
  value.filter (· ≠ [])

@[simp]
theorem truthy_some {value : Text} (nonempty : value ≠ []) :
    truthy (some value) = some value := by
  simp [truthy, Option.filter, nonempty]

/-- `str.format` of an optional string. -/
def formatOptional (value : Option Text) : Text :=
  value.getD "None".toList

structure RuleData where
  protocol : Text
  port : Option Text := none
  fromPort : Option Text := none
  toPort : Option Text := none
  access : SecurityRuleAccess := .allow
  name : Option Text := none
deriving DecidableEq, Repr

/-- The `port_range` property. -/
def RuleData.portRange (ruleData : RuleData) : Text :=
  (truthy ruleData.port).getD
    (formatOptional ruleData.fromPort ++ '-' :: formatOptional ruleData.toPort)

structure PortData where
  fromPort : Text
  toPort : Text
  protocol : Text
  source : Text := internet
  name : Option Text := none
deriving DecidableEq, Repr

/-- The destination ports of a security rule made of a `PortData`. -/
def PortData.portRange (portData : PortData) : Text :=
  if portData.fromPort = portData.toPort then portData.fromPort
  else portData.fromPort ++ '-' :: portData.toPort

inductive InboundRule where
  | ruleData (data : RuleData)
  | portData (data : PortData)
deriving DecidableEq, Repr

namespace InboundRule

def name : InboundRule → Option Text
  | ruleData data => data.name
  | portData data => data.name

def protocol : InboundRule → Text
  | ruleData data => data.protocol
  | portData data => data.protocol

def portRange : InboundRule → Text
  | ruleData data => data.portRange
  | portData data => data.portRange

/-- The access of the rule: a `PortData` gets the default. -/
def access : InboundRule → SecurityRuleAccess
  | ruleData data => data.access
  | portData _ => .allow

/-- The source of the rule: a `PortData` overrides the caller's source. -/
def source (sourceAddress : Text) : InboundRule → Text
  | ruleData _ => sourceAddress
  | portData data => data.source

end InboundRule

namespace SecurityGroupService

/-- The name of a rule without one: `"rule_{}".format(priority)`. -/
def ruleName (priority : Int) : Text :=
  "rule_".toList ++ Text.ofInt priority

theorem ruleName_injective : Function.Injective ruleName := by
  intro p q names
  exact Text.ofInt_injective (List.append_cancel_left names)

/-- The name of the rule made of a requested rule: its own, unless it has none
or an empty one. -/
def nameAt (rule : InboundRule) (priority : Int) : Text :=
  (truthy rule.name).getD (ruleName priority)

/-- `_prepare_security_group_rule`. -/
def prepareSecurityGroupRule (ruleData : InboundRule) (destinationAddress : Text)
    (priority : Int) (sourceAddress : Text) : SecurityRule where
  access := ruleData.access
  direction := "Inbound".toList
  sourceAddressPrefix := ruleData.source sourceAddress
  sourcePortRange := asterisk
  name := nameAt ruleData priority
  destinationAddressPrefix := destinationAddress
  destinationPortRange := ruleData.portRange
  priority := priority
  protocol := ruleData.protocol

/-- A rule for all protocols and ports, as the shell requests it under a name of
its own. -/
def anyTrafficRule (access : SecurityRuleAccess) (name : Text) : InboundRule :=
  .ruleData { protocol := asterisk, port := some asterisk, access := access, name := some name }

theorem anyTrafficRule_name (access : SecurityRuleAccess)
    (destinationAddress sourceAddress : Text) (priority : Int) {name : Text}
    (nonempty : name ≠ []) :
    (prepareSecurityGroupRule (anyTrafficRule access name) destinationAddress priority
      sourceAddress).name = name := by
  simp [prepareSecurityGroupRule, nameAt, anyTrafficRule, InboundRule.name, nonempty]

end SecurityGroupService

end AzureShell
