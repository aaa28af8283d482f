import AzureShell.Text.Core

/-!
# Generated resource names

`generate_name` keeps the letters, digits and dashes of an app name, shortens
it, and appends a dash and a postfix.  The postfix is the head of a UUID: eight
hexadecimal digits.
-/

namespace AzureShell.NameProviderService

open Text

def isNameChar (c : Char) : Bool :=
  c.isAlphanum || c = '-'

/-- `re.sub("[^a-zA-Z0-9-]|^-+", "", name)`: only dashes at the very start of the
original name are removed. -/
def replaceSpecialCharacters (name : Text) : Text :=
  (name.dropWhile (· = '-')).filter isNameChar

/-- `generate_name`; `uniqueString` is what `generate_short_unique_string` would
return, used when no postfix is given. -/
def generateName (uniqueString name : Text) (resourcePostfix : Option Text) (maxLength : Nat) :
    Text :=
  let name := replaceSpecialCharacters name
  let resourcePostfix := match resourcePostfix with
    | some (c :: rest) => c :: rest
    | _ => uniqueString
  let maxNameLength := maxLength - (resourcePostfix.length + 1)
  let truncatedName := name.take maxNameLength
  let truncatedName :=
    if truncatedName.getLast? = some '-' then truncatedName.dropLast else truncatedName
  truncatedName ++ '-' :: resourcePostfix

/-- `normalize_name`, for a name that is not empty. -/
def normalizeName (name : Text) : Text :=
  replace ' ' '-' (lower name)

/-- `format_subnet_name`. -/
def formatSubnetName (resourceGroupName subnetCidr : Text) : Text :=
  replace '/' '-' ((resourceGroupName ++ '_' :: subnetCidr).filter (· ≠ ' '))

def isHexDigit (c : Char) : Bool :=
  c.isDigit || ('a' ≤ c && c ≤ 'f') || ('A' ≤ c && c ≤ 'F')

/-- Eight hexadecimal digits. -/
def IsPostfix (resourcePostfix : Text) : Prop :=
  resourcePostfix.length = 8 ∧ resourcePostfix.all isHexDigit = true

instance (resourcePostfix : Text) : Decidable (IsPostfix resourcePostfix) :=
  inferInstanceAs (Decidable (_ ∧ _))

/-- The text ends in a dash and a postfix. -/
def EndsInPostfix (name : Text) : Prop :=
  ∃ stem resourcePostfix, name = stem ++ '-' :: resourcePostfix ∧ IsPostfix resourcePostfix

theorem IsPostfix.isHexDigit_of_mem {resourcePostfix : Text}
    (isPostfix : IsPostfix resourcePostfix) {c : Char} (member : c ∈ resourcePostfix) :
    isHexDigit c = true :=
  List.all_eq_true.mp isPostfix.2 c member

/-- A run of digits that a character other than a hexadecimal digit ends within
eight characters does not start with a postfix. -/
theorem not_postfix_prefix {resourcePostfix digits rest : Text}
    (isPostfix : IsPostfix resourcePostfix) (short : digits.length < 8)
    (ends : ∀ c ∈ rest.head?, isHexDigit c = false) :
    ¬ resourcePostfix <+: digits ++ rest := by
  rintro ⟨after, split⟩
  cases rest with
  | nil =>
      have lengths := congrArg List.length split
      simp [isPostfix.1] at lengths
      omega
  | cons c rest =>
      have inside : digits.length < resourcePostfix.length := by rw [isPostfix.1]; exact short
      have atEnd := congrArg (fun text : Text => text[digits.length]?) split
      simp only [List.getElem?_append_left inside, List.getElem?_append_right (le_refl _),
        Nat.sub_self, List.getElem?_cons_zero] at atEnd
      have isHex := isPostfix.isHexDigit_of_mem (List.mem_of_getElem? atEnd)
      rw [ends c rfl] at isHex
      contradiction

/-- A dash and a postfix do not occur from a dash on that a short run of digits
follows, unless they occur later. -/
theorem not_dash_postfix_infix {resourcePostfix left digits rest : Text}
    (isPostfix : IsPostfix resourcePostfix) (noDash : '-' ∉ left) (short : digits.length < 8)
    (ends : ∀ c ∈ rest.head?, isHexDigit c = false)
    (later : ¬ '-' :: resourcePostfix <:+: digits ++ rest) :
    ¬ '-' :: resourcePostfix <:+: left ++ '-' :: (digits ++ rest) := by
  intro occurs
  rcases (separator_cons_infix_iff noDash).mp occurs with behind | further
  · exact not_postfix_prefix isPostfix short ends behind
  · exact later further

/-- Where a name occurs, so do a dash and its postfix. -/
theorem EndsInPostfix.dash_postfix_infix {name text : Text} (isName : EndsInPostfix name)
    (occurs : name <:+: text) :
    ∃ resourcePostfix, IsPostfix resourcePostfix ∧ '-' :: resourcePostfix <:+: text := by
  rcases isName with ⟨stem, resourcePostfix, rfl, isPostfix⟩
  have tail : '-' :: resourcePostfix <:+: stem ++ '-' :: resourcePostfix :=
    (List.suffix_append _ _).isInfix
  exact ⟨resourcePostfix, isPostfix, tail.trans occurs⟩

/-! ## Generated names -/

/-- The names `generate_name` produces with a postfix of eight hexadecimal
digits. -/
def IsGeneratedName (generated : Text) : Prop :=
  ∃ uniqueString name resourcePostfix maxLength, IsPostfix resourcePostfix ∧
    generated = generateName uniqueString name (some resourcePostfix) maxLength

theorem isNameChar_of_isHexDigit {c : Char} (isHex : isHexDigit c = true) :
    isNameChar c = true := by
  simp only [isHexDigit, Bool.or_eq_true, Bool.and_eq_true, decide_eq_true_eq] at isHex
  suffices isAlphanum : c.isAlphanum = true by simp [isNameChar, isAlphanum]
  rcases isHex with (isDigit | ⟨low, high⟩) | ⟨low, high⟩
  · exact Bool.or_eq_true_iff.mpr (Or.inr isDigit)
  · have below : 'f' ≤ 'z' := by decide
    have isLower : c.isLower = true :=
      Bool.and_eq_true_iff.mpr ⟨decide_eq_true low, decide_eq_true (Char.le_trans high below)⟩
    exact Bool.or_eq_true_iff.mpr (Or.inl (Bool.or_eq_true_iff.mpr (Or.inr isLower)))
  · have below : 'F' ≤ 'Z' := by decide
    have isUpper : c.isUpper = true := decide_eq_true ⟨low, Char.le_trans high below⟩
    exact Bool.or_eq_true_iff.mpr (Or.inl (Bool.or_eq_true_iff.mpr (Or.inl isUpper)))

/-- A shortened name without the dash it may end in. -/
def dropTrailingDash (name : Text) : Text :=
  if name.getLast? = some '-' then name.dropLast else name

theorem dropTrailingDash_isPrefix (name : Text) : dropTrailingDash name <+: name := by
  rw [dropTrailingDash]
  split
  · exact List.dropLast_prefix name
  · exact List.prefix_refl name

/-- With a postfix at hand no unique string is needed. -/
theorem generateName_eq {resourcePostfix : Text} (given : resourcePostfix ≠ [])
    (uniqueString name : Text) (maxLength : Nat) :
    generateName uniqueString name (some resourcePostfix) maxLength =
      dropTrailingDash ((replaceSpecialCharacters name).take
        (maxLength - (resourcePostfix.length + 1))) ++ '-' :: resourcePostfix := by
  cases resourcePostfix with
  | nil => contradiction
  | cons first rest => rfl

/-- The shortened name is made of letters, digits and dashes. -/
theorem isNameChar_of_mem_shortened {name : Text} {count : Nat} {c : Char}
    (member : c ∈ dropTrailingDash ((replaceSpecialCharacters name).take count)) :
    isNameChar c = true :=
  (List.mem_filter.mp (List.mem_of_mem_take ((dropTrailingDash_isPrefix _).subset member))).2

/-- A generated name is a stem of name characters, a dash and a postfix. -/
theorem IsGeneratedName.shape {generated : Text} (isGenerated : IsGeneratedName generated) :
    EndsInPostfix generated ∧ ∀ c ∈ generated, isNameChar c = true := by
  rcases isGenerated with ⟨uniqueString, name, resourcePostfix, maxLength, isPostfix, rfl⟩
  have given : resourcePostfix ≠ [] := by
    rintro rfl
    exact absurd isPostfix.1 (by decide)
  rw [generateName_eq given]
  refine ⟨⟨_, resourcePostfix, rfl, isPostfix⟩, ?_⟩
  intro c member
  rcases List.mem_append.mp member with inName | inTail
  · exact isNameChar_of_mem_shortened inName
  · rcases List.mem_cons.mp inTail with rfl | inPostfix
    · rfl
    · exact isNameChar_of_isHexDigit (isPostfix.isHexDigit_of_mem inPostfix)

/-- Other characters than letters, digits and dashes do not occur in a generated
name. -/
theorem IsGeneratedName.not_mem {generated : Text} (isGenerated : IsGeneratedName generated)
    {c : Char} (other : isNameChar c = false) : c ∉ generated := by
  intro member
  rw [isGenerated.shape.2 c member] at other
  contradiction

theorem IsGeneratedName.dash_mem {generated : Text} (isGenerated : IsGeneratedName generated) :
    '-' ∈ generated := by
  rcases isGenerated.shape.1 with ⟨stem, resourcePostfix, rfl, _⟩
  exact List.mem_append_right stem List.mem_cons_self

end AzureShell.NameProviderService
