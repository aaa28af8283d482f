import AzureShell.Naming.NameProvider
import Mathlib.Data.List.TakeWhile

/-!
# Which generated names are well formed

A generated name fits its maximum length, consists of letters, digits and
dashes, and ends in a dash and its postfix.  It should not begin with a dash
either, but the one substitution that removes special characters removes only
the dashes at the very start of the app name.  A dash behind a special character
survives and comes to stand at the beginning.
-/

namespace AzureShell.NameProviderService

open Text

/-- A dash stands behind a special character and before every letter and
digit. -/
def HasDashBehindSpecial (name : Text) : Prop :=
  '-' ∈ (name.takeWhile (!·.isAlphanum)).dropWhile (· = '-')

instance (name : Text) : Decidable (HasDashBehindSpecial name) :=
  inferInstanceAs (Decidable (_ ∈ _))

/-- What the generated name of an app is meant to be. -/
structure IsWellFormed (resourcePostfix : Text) (maxLength : Nat) (generated : Text) : Prop where
  length_le : generated.length ≤ maxLength
  isNameChar_of_mem : ∀ c ∈ generated, isNameChar c = true
  ends_in_postfix : '-' :: resourcePostfix <:+ generated
  not_begins_with_dash : generated.head? ≠ some '-'

/-! ## The first character -/

/-- Leading dashes are no letters or digits. -/
theorem dropWhile_dash_takeWhile (name : Text) :
    (name.takeWhile (!·.isAlphanum)).dropWhile (· = '-') =
      (name.dropWhile (· = '-')).takeWhile (!·.isAlphanum) := by
  induction name with
  | nil => rfl
  | cons c name ih =>
      by_cases isDash : c = '-'
      · subst c
        simpa [show '-'.isAlphanum = false from rfl] using ih
      · cases isAlphanum : c.isAlphanum
        · simp [isDash, isAlphanum]
        · simp [isDash, isAlphanum]

/-- The filter keeps a dash in front if and only if no letter or digit comes
before it. -/
theorem head?_filter_isNameChar_iff (text : Text) :
    (text.filter isNameChar).head? = some '-' ↔ '-' ∈ text.takeWhile (!·.isAlphanum) := by
  induction text with
  | nil => simp
  | cons c text ih =>
      cases isAlphanum : c.isAlphanum
      · by_cases isDash : c = '-'
        · simp [isNameChar, isDash, show '-'.isAlphanum = false from rfl]
        · have otherDash : '-' ≠ c := fun same => isDash same.symm
          simpa [isNameChar, isAlphanum, isDash, otherDash] using ih
      · have notDash : c ≠ '-' := by
          rintro rfl
          contradiction
        simp [isNameChar, isAlphanum, notDash]

theorem head?_replaceSpecialCharacters_iff (name : Text) :
    (replaceSpecialCharacters name).head? = some '-' ↔ HasDashBehindSpecial name := by
  rw [HasDashBehindSpecial, dropWhile_dash_takeWhile]
  exact head?_filter_isNameChar_iff _

/-- A letter or digit of the name is kept. -/
theorem mem_replaceSpecialCharacters {name : Text} {c : Char} (member : c ∈ name)
    (isAlphanum : c.isAlphanum = true) : c ∈ replaceSpecialCharacters name := by
  rw [← List.takeWhile_append_dropWhile (p := (· = '-')) (l := name)] at member
  refine List.mem_filter.mpr ⟨?_, by simp [isNameChar, isAlphanum]⟩
  rcases List.mem_append.mp member with leading | kept
  · have isDash : c = '-' := by simpa using List.mem_takeWhile_imp leading
    subst c
    contradiction
  · exact kept

/-- Dropping the trailing dash of a name that is a dash puts the separator in its
place, so the first character is the name's in any case. -/
theorem head?_dropTrailingDash_append (c : Char) (rest resourcePostfix : Text) :
    (dropTrailingDash (c :: rest) ++ '-' :: resourcePostfix).head? = some c := by
  rw [dropTrailingDash]
  cases rest with
  | nil =>
      by_cases isDash : c = '-'
      · simp [isDash]
      · simp [isDash]
  | cons next rest =>
      split
      · simp
      · simp

/-! ## Generated names -/

section

variable {name resourcePostfix : Text} {maxLength : Nat}

theorem length_generateName_le (given : resourcePostfix ≠ [])
    (long : resourcePostfix.length + 2 ≤ maxLength) (uniqueString name : Text) :
    (generateName uniqueString name (some resourcePostfix) maxLength).length ≤ maxLength := by
  have shorter := (dropTrailingDash_isPrefix ((replaceSpecialCharacters name).take
    (maxLength - (resourcePostfix.length + 1)))).length_le
  have taken := List.length_take_le (maxLength - (resourcePostfix.length + 1))
    (replaceSpecialCharacters name)
  rw [generateName_eq given, List.length_append, List.length_cons]
  omega

theorem isNameChar_of_mem_generateName (given : resourcePostfix ≠ [])
    (alphanumeric : ∀ c ∈ resourcePostfix, c.isAlphanum = true) (uniqueString name : Text)
    {c : Char} (member : c ∈ generateName uniqueString name (some resourcePostfix) maxLength) :
    isNameChar c = true := by
  rw [generateName_eq given] at member
  rcases List.mem_append.mp member with inName | inTail
  · exact isNameChar_of_mem_shortened inName
  · rcases List.mem_cons.mp inTail with rfl | inPostfix
    · rfl
    · simp [isNameChar, alphanumeric c inPostfix]

/-- The generated name begins as the cleaned app name does. -/
theorem head?_generateName (given : resourcePostfix ≠ [])
    (long : resourcePostfix.length + 2 ≤ maxLength)
    (hasLetterOrDigit : ∃ c ∈ name, c.isAlphanum = true) (uniqueString : Text) :
    (generateName uniqueString name (some resourcePostfix) maxLength).head? =
      (replaceSpecialCharacters name).head? := by
  rcases hasLetterOrDigit with ⟨letter, member, isAlphanum⟩
  have kept := mem_replaceSpecialCharacters member isAlphanum
  rw [generateName_eq given]
  cases cleaned : replaceSpecialCharacters name with
  | nil => simp [cleaned] at kept
  | cons c rest =>
      obtain ⟨count, room⟩ := Nat.exists_eq_add_of_lt
        (show 0 < maxLength - (resourcePostfix.length + 1) by omega)
      rw [room, Nat.zero_add, List.take_succ_cons]
      exact head?_dropTrailingDash_append c _ resourcePostfix

/-- A generated name is well formed if and only if the app name has no dash
behind a special character and before every letter and digit. -/
theorem generateName_isWellFormed_iff (uniqueString : Text)
    (hasLetterOrDigit : ∃ c ∈ name, c.isAlphanum = true) (given : resourcePostfix ≠ [])
    (alphanumeric : ∀ c ∈ resourcePostfix, c.isAlphanum = true)
    (long : resourcePostfix.length + 2 ≤ maxLength) :
    IsWellFormed resourcePostfix maxLength
        (generateName uniqueString name (some resourcePostfix) maxLength) ↔
      ¬ HasDashBehindSpecial name := by
  have first := head?_generateName given long hasLetterOrDigit uniqueString
  constructor
  · intro wellFormed dashBehind
    apply wellFormed.not_begins_with_dash
    rw [first]
    exact (head?_replaceSpecialCharacters_iff name).mpr dashBehind
  · intro noDashBehind
    refine ⟨length_generateName_le given long uniqueString name, fun c member =>
      isNameChar_of_mem_generateName given alphanumeric uniqueString name member, ?_, ?_⟩
    · rw [generateName_eq given]
      exact List.suffix_append _ _
    · rw [first]
      exact fun begins => noDashBehind ((head?_replaceSpecialCharacters_iff name).mp begins)

end

theorem generateName_isWellFormed_iff_example :
    IsWellFormed ['1', 'f'] 24
        (generateName [] ['-', 'm', 'y', ' ', '-', 'a', 'p', 'p'] (some ['1', 'f']) 24) ↔
      ¬ HasDashBehindSpecial ['-', 'm', 'y', ' ', '-', 'a', 'p', 'p'] :=
  generateName_isWellFormed_iff [] ⟨'m', by simp, rfl⟩ (by simp) (by simp) (by simp)

/-- The app name `_-app` gets a name that begins with a dash. -/
theorem generateName_not_isWellFormed :
    ¬ ∀ (uniqueString name resourcePostfix : Text) (maxLength : Nat),
      (∃ c ∈ name, c.isAlphanum = true) → resourcePostfix ≠ [] →
      (∀ c ∈ resourcePostfix, c.isAlphanum = true) → resourcePostfix.length + 2 ≤ maxLength →
      IsWellFormed resourcePostfix maxLength
        (generateName uniqueString name (some resourcePostfix) maxLength) := by
  intro allWellFormed
  have wellFormed := allWellFormed [] ['_', '-', 'a', 'p', 'p'] ['1', 'f'] 24
    ⟨'a', by simp, rfl⟩ (by simp) (by simp) (by simp)
  exact wellFormed.not_begins_with_dash rfl

end AzureShell.NameProviderService
