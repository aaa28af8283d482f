import AzureShell.Azure.Model
import AzureShell.Text.Segments

/-!
# Decoding resource ids

The parser of resource ids takes a resource's name from the end of its id.  The
group and the image it finds by greedy regular expressions in any letter case,
which look for a label and a slash anywhere: a provider or a group whose own
text ends in `resourcegroups` is mistaken for the label.
-/

namespace AzureShell.AzureResourceIdParser

open Text

/-! ## The words of an id -/

def subscriptionsWord : Text :=
  "subscriptions".toList

def resourceGroupsWord : Text :=
  "resourcegroups".toList

def providersWord : Text :=
  "providers".toList

def imagesWord : Text :=
  "images".toList

/-! ## The parser -/

/-- `(?P<group_name>[^/]*)/.*` behind the label. -/
def groupNameFound (rest : Text) : Option Text :=
  if rest.contains '/' then some (rest.takeWhile (· ≠ '/')) else none

/-- `(?P<image_name>[^/]*).*` behind the label. -/
def imageNameFound (rest : Text) : Option Text :=
  some (rest.takeWhile (· ≠ '/'))

/-- `AzureResourceIdParser.get_image_name`. -/
def getImageName (resourceId : Text) : Text :=
  (lastMatch (behindKeyword imagesWord imageNameFound) resourceId).getD []

/-- The id of a resource, with the label of the group in some letter case. -/
def resourceId (label subscription group provider type name : Text) : Text :=
  path [subscriptionsWord, subscription, label, group, providersWord, provider, type,
    name]

/-- The segment ends in the label of the group, in any letter case. -/
def EndsInLabel (segment : Text) : Prop :=
  resourceGroupsWord <:+ lower segment

instance (segment : Text) : Decidable (EndsInLabel segment) :=
  inferInstanceAs (Decidable (_ <:+ _))

/-- The parser reads the group, the name and the name of an image off an id. -/
structure IsDecoded (id group type name : Text) : Prop where
  group_eq : getResourceGroupName id = .ok group
  name_eq : getNameFromResourceId id = name
  image_eq : type = imagesWord → getImageName id = name

/-! ## The two searches -/

theorem groupNameAt_eq :
    groupNameAt = behindKeyword resourceGroupsWord groupNameFound := by
  funext text
  rw [groupNameAt, behindKeyword]
  by_cases labelled : "resourcegroups/".toList <+: lower text
  · have keyword : resourceGroupsWord ++ ['/'] <+: lower text := labelled
    simp only [labelled, true_and, if_pos keyword, groupNameFound, List.contains_iff_mem]
    rfl
  · have noKeyword : ¬ resourceGroupsWord ++ ['/'] <+: lower text := labelled
    simp only [labelled, false_and, if_neg noKeyword, if_false]

theorem lastGroupName_eq (text : Text) :
    lastGroupName text = lastMatch (behindKeyword resourceGroupsWord groupNameFound) text := by
  induction text with
  | nil => rfl
  | cons c rest ih => rw [lastGroupName, lastMatch, ih, groupNameAt_eq]

theorem groupNameFound_of_noSlash {name : Text} (noSlash : '/' ∉ name) :
    groupNameFound name = none := by
  simp [groupNameFound, noSlash]

theorem groupNameFound_append_path {segment : Text} (noSlash : '/' ∉ segment) (next : Text)
    (rest : List Text) : groupNameFound (segment ++ path (next :: rest)) = some segment := by
  rw [groupNameFound, takeWhile_append_path noSlash, if_pos (by simp)]

theorem imageNameFound_of_noSlash {name : Text} (noSlash : '/' ∉ name) :
    imageNameFound name = some name := by
  have whole := takeWhile_append_path noSlash []
  rw [path_nil, List.append_nil] at whole
  rw [imageNameFound, whole]

/-! ## Ids of resources -/

section

variable {label subscription group provider type name : Text}

theorem isSegment_subscriptionsWord : IsSegment subscriptionsWord :=
  isSegment_of_all rfl

theorem isSegment_resourceGroupsWord : IsSegment resourceGroupsWord :=
  isSegment_of_all rfl

theorem isSegment_providersWord : IsSegment providersWord :=
  isSegment_of_all rfl

theorem isSegment_imagesWord : IsSegment imagesWord :=
  isSegment_of_all rfl

/-- A label in another letter case is a segment as well. -/
theorem isSegment_of_isLabel (isLabel : lower label = resourceGroupsWord) :
    IsSegment label := by
  have mem_lower : ∀ {c : Char}, c ∈ label → c.toLower ∈ resourceGroupsWord := by
    intro c member
    rw [← isLabel]
    exact List.mem_map_of_mem member
  constructor
  · rintro rfl
    exact isSegment_resourceGroupsWord.nonempty isLabel.symm
  · intro member
    exact isSegment_resourceGroupsWord.noSlash (mem_lower member)
  · intro member
    exact isSegment_resourceGroupsWord.noNewline (mem_lower member)

theorem not_endsInLabel_providersWord : ¬ EndsInLabel providersWord := by
  decide

/-- The name is read from the end of the id. -/
theorem getNameFromResourceId_resourceId (isName : IsSegment name) :
    getNameFromResourceId (resourceId label subscription group provider type name) = name := by
  have split : resourceId label subscription group provider type name =
      path [subscriptionsWord, subscription, label, group, providersWord, provider,
        type] ++ ['/'] ++ name := by
    simp [resourceId]
  rw [split]
  exact getNameFromResourceId_append List.getLast?_concat isName.nonempty isName.noSlash

theorem areSegments_resourceId (isLabel : lower label = resourceGroupsWord)
    (isSubscription : IsSegment subscription) (isGroup : IsSegment group)
    (isProvider : IsSegment provider) (isType : IsSegment type) (isName : IsSegment name) :
    ∀ segment ∈ [subscriptionsWord, subscription, label, group, providersWord, provider,
      type, name], IsSegment segment := by
  simp only [List.forall_mem_cons]
  exact ⟨isSegment_subscriptionsWord, isSubscription, isSegment_of_isLabel isLabel, isGroup,
    isSegment_providersWord, isProvider, isType, isName, by simp⟩

/-- The group is read behind the last segment that ends in the label. -/
theorem getResourceGroupName_resourceId (isLabel : lower label = resourceGroupsWord)
    (isSubscription : IsSegment subscription) (isGroup : IsSegment group)
    (isProvider : IsSegment provider) (isType : IsSegment type) (isName : IsSegment name) :
    getResourceGroupName (resourceId label subscription group provider type name) =
      .ok (if EndsInLabel provider then type
        else if EndsInLabel group then providersWord else group) := by
  have found : lastGroupName (resourceId label subscription group provider type name) =
      some (if EndsInLabel provider then type
        else if EndsInLabel group then providersWord else group) := by
    have endsInLabel : resourceGroupsWord <:+ lower label := isLabel ▸ List.suffix_refl _
    have noProviders : ¬ resourceGroupsWord <:+ lower providersWord := not_endsInLabel_providersWord
    rw [lastGroupName_eq, resourceId, lastMatch_path isSegment_resourceGroupsWord.nonempty
      isSegment_resourceGroupsWord.noSlash
      (areSegments_resourceId isLabel isSubscription isGroup isProvider isType isName)]
    simp only [lastBehind, foundIn, path_nil, List.append_nil, if_pos endsInLabel,
      groupNameFound_of_noSlash isName.noSlash, groupNameFound_append_path isType.noSlash,
      groupNameFound_append_path isProvider.noSlash,
      groupNameFound_append_path isSegment_providersWord.noSlash,
      groupNameFound_append_path isGroup.noSlash, if_neg noProviders, ite_self, Option.none_or,
      EndsInLabel]
    by_cases providerEnds : resourceGroupsWord <:+ lower provider
    · simp [providerEnds]
    · by_cases groupEnds : resourceGroupsWord <:+ lower group
      · simp [providerEnds, groupEnds]
      · simp [providerEnds, groupEnds]
  rw [getResourceGroupName, found]

/-- The name of an image is read behind the type `images`. -/
theorem getImageName_resourceId (isLabel : lower label = resourceGroupsWord)
    (isSubscription : IsSegment subscription) (isGroup : IsSegment group)
    (isProvider : IsSegment provider) (isName : IsSegment name) :
    getImageName (resourceId label subscription group provider imagesWord name) = name := by
  have endsInImages : imagesWord <:+ lower imagesWord := List.suffix_refl _
  rw [getImageName, resourceId, lastMatch_path isSegment_imagesWord.nonempty
    isSegment_imagesWord.noSlash
    (areSegments_resourceId isLabel isSubscription isGroup isProvider isSegment_imagesWord isName)]
  simp only [lastBehind, foundIn, path_nil, List.append_nil, if_pos endsInImages,
    imageNameFound_of_noSlash isName.noSlash, ite_self, Option.none_or, Option.some_or,
    Option.getD_some]

/-- The segments behind the label are told apart from it, or agree with what is
read in their place. -/
def IsUnambiguous (group provider type : Text) : Prop :=
  (¬ EndsInLabel provider ∧ ¬ EndsInLabel group) ∨ (EndsInLabel provider ∧ type = group)

/-- A resource id is decoded if and only if neither its provider nor its group
ends in the label, or the provider does and the type is the group's name. -/
theorem isDecoded_resourceId_iff (isLabel : lower label = resourceGroupsWord)
    (isSubscription : IsSegment subscription) (isGroup : IsSegment group)
    (isProvider : IsSegment provider) (isType : IsSegment type) (isName : IsSegment name) :
    IsDecoded (resourceId label subscription group provider type name) group type name ↔
      IsUnambiguous group provider type := by
  have read := getResourceGroupName_resourceId isLabel isSubscription isGroup isProvider isType
    isName
  have group_iff : getResourceGroupName
      (resourceId label subscription group provider type name) = .ok group ↔
        IsUnambiguous group provider type := by
    rw [read, Except.ok.injEq, IsUnambiguous]
    by_cases providerEnds : EndsInLabel provider
    · simp [providerEnds]
    · by_cases groupEnds : EndsInLabel group
      · have notProviders : providersWord ≠ group := by
          rintro rfl
          exact not_endsInLabel_providersWord groupEnds
        simp only [providerEnds, groupEnds, if_true, if_false, notProviders, not_true, and_false,
          false_and, or_false]
      · simp [providerEnds, groupEnds]
  constructor
  · intro decoded
    exact group_iff.mp decoded.group_eq
  · intro unambiguous
    refine ⟨group_iff.mpr unambiguous, getNameFromResourceId_resourceId isName, ?_⟩
    rintro rfl
    exact getImageName_resourceId isLabel isSubscription isGroup isProvider isName

end

theorem isDecoded_resourceId_iff_example :
    IsDecoded (resourceId "resourceGroups".toList ['s'] ['g'] ['p'] imagesWord ['n'])
        ['g'] imagesWord ['n'] ↔
      IsUnambiguous ['g'] ['p'] imagesWord :=
  isDecoded_resourceId_iff rfl (isSegment_of_all rfl) (isSegment_of_all rfl)
    (isSegment_of_all rfl) (isSegment_of_all rfl)
    (isSegment_of_all rfl)

/-- Of a resource in the group `MyResourceGroups` the parser reads the group
`providers`. -/
theorem resourceId_not_isDecoded :
    ¬ ∀ label subscription group provider type name : Text,
      lower label = resourceGroupsWord → IsSegment subscription → IsSegment group →
      IsSegment provider → IsSegment type → IsSegment name →
      IsDecoded (resourceId label subscription group provider type name) group type name := by
  intro allDecoded
  have isGroup : IsSegment "MyResourceGroups".toList := isSegment_of_all rfl
  have isOther : IsSegment ['x'] := isSegment_of_all rfl
  have decoded := allDecoded "resourceGroups".toList ['x'] "MyResourceGroups".toList ['x'] ['x']
    ['x'] rfl isOther isGroup isOther isOther isOther
  have read := decoded.group_eq
  rw [getResourceGroupName_resourceId rfl isOther isGroup isOther isOther isOther,
    if_neg (by decide), if_pos (by decide)] at read
  have same := Except.ok.inj read
  revert same
  decide

end AzureShell.AzureResourceIdParser
