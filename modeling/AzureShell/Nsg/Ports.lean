import AzureShell.Nsg.Rule

/-!
# The inbound ports attribute

`RulesAttributeParser` reads a list of port rules separated by semicolons.  The
four regular expressions of a single rule are tried in the order of the source;
in each of them the characters that follow a run of digits are not digits, so
the greedy match of the run is the only one.
-/

namespace AzureShell.RulesAttributeParser

open Text

/-- Match `\d+` at the start of a text. -/
def digits (text : Text) : Option (Text × Text) :=
  match text.span Char.isDigit with
  | ([], _) => none
  | (run, rest) => some (run, rest)

/-- Match one character. -/
def literal (c : Char) : Text → Option Text
  | [] => none
  | d :: rest => if d = c then some rest else none

/-- Match `$`: the end of the text, or a last line break. -/
def atEnd (text : Text) : Option Unit :=
  if text = [] ∨ text = ['\n'] then some () else none

/-- Match `(udp|tcp)$` in any letter case. -/
def protocolAtEnd (text : Text) : Option Text := do
  atEnd (text.drop 3)
  if lower (text.take 3) = "udp".toList ∨ lower (text.take 3) = "tcp".toList then
    some (text.take 3)
  else
    none

/-- `^(\d+)-(\d+):(udp|tcp)$`. -/
def fromToProtocolMatch (text : Text) : Option (Text × Text × Text) := do
  let (fromPort, rest) ← digits text
  let rest ← literal '-' rest
  let (toPort, rest) ← digits rest
  let rest ← literal ':' rest
  let protocol ← protocolAtEnd rest
  return (fromPort, toPort, protocol)

/-- `^(\d+):(udp|tcp)$`. -/
def fromProtocolMatch (text : Text) : Option (Text × Text) := do
  let (fromPort, rest) ← digits text
  let rest ← literal ':' rest
  let protocol ← protocolAtEnd rest
  return (fromPort, protocol)

/-- `^(\d+)-(\d+)$`. -/
def fromToMatch (text : Text) : Option (Text × Text) := do
  let (fromPort, rest) ← digits text
  let rest ← literal '-' rest
  let (toPort, rest) ← digits rest
  atEnd rest
  return (fromPort, toPort)

/-- `^(\d+)$`. -/
def portMatch (text : Text) : Option Text := do
  let (fromPort, rest) ← digits text
  atEnd rest
  return fromPort

def tcp : Text :=
  "tcp".toList

def udp : Text :=
  "udp".toList

/-- `_single_port_parse`. -/
def singlePortParse (portsAttribute : Text) : Except PyException RuleData :=
  match fromToProtocolMatch portsAttribute with
  | some (fromPort, toPort, protocol) =>
      .ok { protocol := lower protocol, fromPort := some fromPort, toPort := some toPort }
  | none =>
      match fromProtocolMatch portsAttribute with
      | some (port, protocol) => .ok { protocol := lower protocol, port := some port }
      | none =>
          match fromToMatch portsAttribute with
          | some (fromPort, toPort) =>
              .ok { protocol := tcp, fromPort := some fromPort, toPort := some toPort }
          | none =>
              match portMatch portsAttribute with
              | some port => .ok { protocol := tcp, port := some port }
              | none => .error <| .valueError <|
                  "The value '".toList ++ portsAttribute ++ "' is not a valid ports rule".toList

/-- `parse_port_group_attribute`. -/
def parsePortGroupAttribute (portsAttribute : Text) : Except PyException (List RuleData) :=
  (((strip portsAttribute).splitOn ';').filter (· ≠ [])).mapM fun port =>
    singlePortParse (strip port)

example : parsePortGroupAttribute "80; 20-25:UDP;".toList =
    .ok [{ protocol := tcp, port := some "80".toList },
      { protocol := udp, fromPort := some "20".toList, toPort := some "25".toList }] := by
  decide

/-! ## What the parser returns -/

theorem lower_of_protocolAtEnd {text protocol : Text}
    (matched : protocolAtEnd text = some protocol) :
    lower protocol = udp ∨ lower protocol = tcp := by
  simp only [protocolAtEnd, Option.bind_eq_bind, Option.bind_eq_some_iff] at matched
  rcases matched with ⟨_, _, matched⟩
  split at matched
  · rename_i isProtocol
    cases matched
    exact isProtocol
  · contradiction

theorem protocol_of_singlePortParse {text : Text} {ruleData : RuleData}
    (parsed : singlePortParse text = .ok ruleData) :
    ruleData.protocol = udp ∨ ruleData.protocol = tcp := by
  unfold singlePortParse at parsed
  split at parsed
  · rename_i matched
    cases parsed
    simp only [fromToProtocolMatch, Option.bind_eq_bind, Option.bind_eq_some_iff] at matched
    rcases matched with ⟨_, _, _, _, _, _, _, _, protocol, atEnd, equal⟩
    cases equal
    exact lower_of_protocolAtEnd atEnd
  · split at parsed
    · rename_i matched
      cases parsed
      simp only [fromProtocolMatch, Option.bind_eq_bind, Option.bind_eq_some_iff] at matched
      rcases matched with ⟨_, _, _, _, protocol, atEnd, equal⟩
      cases equal
      exact lower_of_protocolAtEnd atEnd
    · split at parsed
      · cases parsed
        exact Or.inr rfl
      · split at parsed
        · cases parsed
          exact Or.inr rfl
        · contradiction

theorem access_of_singlePortParse {text : Text} {ruleData : RuleData}
    (parsed : singlePortParse text = .ok ruleData) : ruleData.access = .allow := by
  unfold singlePortParse at parsed
  repeat' split at parsed
  all_goals cases parsed
  all_goals rfl

theorem name_of_singlePortParse {text : Text} {ruleData : RuleData}
    (parsed : singlePortParse text = .ok ruleData) : ruleData.name = none := by
  unfold singlePortParse at parsed
  repeat' split at parsed
  all_goals cases parsed
  all_goals rfl

private theorem exists_of_mem_mapM {α β : Type} {f : α → Except PyException β} {items : List α}
    {results : List β} (mapped : items.mapM f = .ok results) {result : β}
    (member : result ∈ results) : ∃ item ∈ items, f item = .ok result := by
  induction items generalizing results with
  | nil =>
      cases mapped
      simp at member
  | cons item items ih =>
      rw [List.mapM_cons] at mapped
      cases first : f item with
      | error e =>
          rw [first] at mapped
          cases mapped
      | ok head =>
          cases rest : items.mapM f with
          | error e =>
              rw [first, rest] at mapped
              cases mapped
          | ok tail =>
              rw [first, rest] at mapped
              cases mapped
              rcases List.mem_cons.mp member with rfl | later
              · exact ⟨item, List.mem_cons_self, first⟩
              · rcases ih rest later with ⟨other, otherMem, equal⟩
                exact ⟨other, List.mem_cons_of_mem item otherMem, equal⟩

/-- Every parsed rule is a TCP or a UDP rule. -/
theorem protocol_of_parsePortGroupAttribute {portsAttribute : Text} {ruleDatas : List RuleData}
    (parsed : parsePortGroupAttribute portsAttribute = .ok ruleDatas) {ruleData : RuleData}
    (member : ruleData ∈ ruleDatas) :
    ruleData.protocol = udp ∨ ruleData.protocol = tcp := by
  rcases exists_of_mem_mapM parsed member with ⟨segment, _, single⟩
  exact protocol_of_singlePortParse single

/-- Every parsed rule allows traffic. -/
theorem access_of_parsePortGroupAttribute {portsAttribute : Text} {ruleDatas : List RuleData}
    (parsed : parsePortGroupAttribute portsAttribute = .ok ruleDatas) {ruleData : RuleData}
    (member : ruleData ∈ ruleDatas) : ruleData.access = .allow := by
  rcases exists_of_mem_mapM parsed member with ⟨segment, _, single⟩
  exact access_of_singlePortParse single

/-- No parsed rule has a name of its own. -/
theorem name_of_parsePortGroupAttribute {portsAttribute : Text} {ruleDatas : List RuleData}
    (parsed : parsePortGroupAttribute portsAttribute = .ok ruleDatas) {ruleData : RuleData}
    (member : ruleData ∈ ruleDatas) : ruleData.name = none := by
  rcases exists_of_mem_mapM parsed member with ⟨segment, _, single⟩
  exact name_of_singlePortParse single

end AzureShell.RulesAttributeParser
