import AzureShell.Naming.NameProvider
import AzureShell.Net.Cidr

/-!
# Names of subnets

A subnet of a sandbox is named after the reservation and the block.  Reservation
ids all have the same length and contain no underscore, so an id that occurs
anywhere in the name of a subnet is the one the name starts with.
-/

namespace AzureShell

open Net

namespace NameProviderService

/-- A GUID in its usual form: 36 hexadecimal digits and dashes. -/
structure IsGuid (id : Text) : Prop where
  length : id.length = 36
  digits : ∀ c ∈ id, isHexDigit c = true ∨ c = '-'

theorem isGuid_of_all {id : Text} (length : id.length = 36)
    (digits : id.all (fun c => isHexDigit c || c == '-') = true) : IsGuid id where
  length := length
  digits := by
    intro c member
    simpa using List.all_eq_true.mp digits c member

theorem IsGuid.not_mem {id : Text} (isGuid : IsGuid id) {c : Char} (notHex : isHexDigit c = false)
    (notDash : c ≠ '-') : c ∉ id := by
  intro member
  rcases isGuid.digits c member with isHex | isDash
  · rw [notHex] at isHex
    contradiction
  · exact notDash isDash

theorem formatSubnetName_eq {id : Text} (isGuid : IsGuid id) (block : CidrText) :
    formatSubnetName id block.text = id ++ '_' :: block.dashed := by
  have unchanged : (id ++ '_' :: block.text).filter (· ≠ ' ') = id ++ '_' :: block.text := by
    apply List.filter_eq_self.mpr
    intro c member
    simp only [ne_eq, decide_not, Bool.not_eq_true', decide_eq_false_iff_not]
    rintro rfl
    rcases List.mem_append.mp member with inId | inBlock
    · exact isGuid.not_mem (by decide) (by decide) inId
    · rcases List.mem_cons.mp inBlock with isMark | inBlock
      · exact absurd isMark (by decide)
      · exact block.not_mem_text (by decide) (by decide) (by decide) inBlock
  have noSlash : '/' ∉ id := isGuid.not_mem (by decide) (by decide)
  rw [formatSubnetName, unchanged, Text.replace_append, Text.replace_eq_self noSlash]
  rfl

/-- The name of a subnet determines its reservation and its block. -/
theorem formatSubnetName_inj {id other : Text} (isGuid : IsGuid id) (otherIsGuid : IsGuid other)
    {block otherBlock : CidrText}
    (same : formatSubnetName id block.text = formatSubnetName other otherBlock.text) :
    id = other ∧ block.text = otherBlock.text := by
  rw [formatSubnetName_eq isGuid, formatSubnetName_eq otherIsGuid] at same
  rcases List.append_inj same (isGuid.length.trans otherIsGuid.length.symm) with ⟨sameId, sameRest⟩
  exact ⟨sameId, CidrText.text_eq_of_dashed_eq (List.cons.inj sameRest).2⟩

/-- The name of a subnet contains the id of its own reservation only. -/
theorem infix_formatSubnetName_iff {id owner : Text} (isGuid : IsGuid id)
    (ownerIsGuid : IsGuid owner) (block : CidrText) :
    id <:+: formatSubnetName owner block.text ↔ id = owner := by
  have noMark : '_' ∉ id := isGuid.not_mem (by decide) (by decide)
  rw [formatSubnetName_eq ownerIsGuid, Text.infix_append_cons_iff noMark]
  constructor
  · rintro (inOwner | inBlock)
    · exact inOwner.eq_of_length (isGuid.length.trans ownerIsGuid.length.symm)
    · have short := block.length_dashed_lt
      have fits := inBlock.length_le
      rw [isGuid.length] at fits
      omega
  · rintro rfl
    exact Or.inl (List.infix_refl id)

end NameProviderService

end AzureShell
