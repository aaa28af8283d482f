import AzureShell.Azure.Model
import AzureShell.Filter.FirstMatch
import AzureShell.Net.Cidr

/-!
# What a security group admits

A security rule covers packets by protocol, ports and addresses.  An address
prefix is an asterisk, a block, a single address, or a service tag, whose
meaning only Azure knows.  The group's verdict on a packet is that of the first
covering rule by ascending priority.
-/

namespace AzureShell

open Net

structure Packet where
  protocol : Text
  source : Address
  sourcePort : Nat
  destination : Address
  destinationPort : Nat
deriving DecidableEq, Repr

/-- Whether a port range (`*`, `80` or `20-80`) contains a port. -/
def portRangeCovers (range : Text) (port : Nat) : Bool :=
  range = asterisk ||
    match range.splitOn '-' with
    | [single] => single ≠ [] && single.all Char.isDigit && Nat.ofDigitChars 10 single 0 = port
    | [fromPort, toPort] =>
        fromPort ≠ [] && fromPort.all Char.isDigit && toPort ≠ [] && toPort.all Char.isDigit &&
          Nat.ofDigitChars 10 fromPort 0 ≤ port && port ≤ Nat.ofDigitChars 10 toPort 0
    | _ => false

/-- Whether a rule's protocol covers a protocol, in any letter case. -/
def protocolCovers (ruleProtocol protocol : Text) : Bool :=
  ruleProtocol = asterisk || Text.lower ruleProtocol = Text.lower protocol

/-- Whether an address prefix contains an address, given the addresses of the
service tags. -/
def addressPrefixCovers (tagged : Text → Address → Bool) (addressPrefix : Text)
    (address : Address) : Bool :=
  addressPrefix = asterisk ||
    match Cidr.parse addressPrefix with
    | some cidr => cidr.contains address
    | none =>
        match Address.parse addressPrefix with
        | some single => single = address
        | none => tagged addressPrefix address

namespace SecurityRule

/-- Whether a rule covers a protocol and a destination port. -/
def coversPort (rule : SecurityRule) (protocol : Text) (port : Nat) : Bool :=
  protocolCovers rule.protocol protocol && portRangeCovers rule.destinationPortRange port

/-- Whether a rule covers a packet. -/
def covers (tagged : Text → Address → Bool) (rule : SecurityRule) (packet : Packet) : Bool :=
  rule.coversPort packet.protocol packet.destinationPort &&
    portRangeCovers rule.sourcePortRange packet.sourcePort &&
    addressPrefixCovers tagged rule.sourceAddressPrefix packet.source &&
    addressPrefixCovers tagged rule.destinationAddressPrefix packet.destination

end SecurityRule

/-- The verdict of a group's inbound rules on a packet. -/
def inboundVerdict (tagged : Text → Address → Bool) (rules : List SecurityRule)
    (packet : Packet) : Option SecurityRuleAccess :=
  Filter.verdict SecurityRule.priority (SecurityRule.covers tagged) SecurityRule.access
    (rules.filter fun rule => rule.direction = "Inbound".toList) packet

/-! ## Coverage of particular prefixes and ranges -/

@[simp]
theorem portRangeCovers_asterisk (port : Nat) : portRangeCovers asterisk port = true := by
  simp [portRangeCovers]

@[simp]
theorem protocolCovers_asterisk (protocol : Text) : protocolCovers asterisk protocol = true := by
  simp [protocolCovers]

/-- The text of a block covers exactly the addresses of the block. -/
theorem addressPrefixCovers_cidr {tagged : Text → Address → Bool} {text : Text} {cidr : Cidr}
    (isCidr : Cidr.parse text = some cidr) (address : Address) :
    addressPrefixCovers tagged text address = cidr.contains address := by
  have notAsterisk : text ≠ asterisk := by
    rintro rfl
    have notCidr : Cidr.parse asterisk = none := by decide
    rw [notCidr] at isCidr
    contradiction
  simp [addressPrefixCovers, notAsterisk, isCidr]

/-- The text of an address covers this address only. -/
theorem addressPrefixCovers_address {tagged : Text → Address → Bool} {text : Text}
    {single : Address} (notCidr : Cidr.parse text = none)
    (isAddress : Address.parse text = some single) {address : Address}
    (covers : addressPrefixCovers tagged text address = true) : single = address := by
  have notAsterisk : text ≠ asterisk := by
    rintro rfl
    have notAddress : Address.parse asterisk = none := by decide
    rw [notAddress] at isAddress
    contradiction
  simpa [addressPrefixCovers, notAsterisk, notCidr, isAddress] using covers

/-- The Internet tag covers what Azure says it does. -/
theorem addressPrefixCovers_internet (tagged : Text → Address → Bool) (address : Address) :
    addressPrefixCovers tagged internet address = tagged internet address := by
  have notAsterisk : internet ≠ asterisk := by decide
  have notCidr : Cidr.parse internet = none := by decide
  have notAddress : Address.parse internet = none := by decide
  simp [addressPrefixCovers, notAsterisk, notCidr, notAddress]

end AzureShell
