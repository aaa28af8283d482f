import AzureShell.Azure.Service
import AzureShell.Text.UrlParse

/-!
# The addresses of blobs

`parse_blob_url` reads the container and the blob off the end of the path, while
the address of a blob fixes them from its start.  A blob whose name contains a
slash is taken for another blob in another container, and the deletion of a
machine asks to delete that one.
-/

namespace AzureShell

open Prog Text

/-- `AzureBlobUrlModel`. -/
structure AzureBlobUrlModel where
  storageName : Text
  containerName : Text
  blobName : Text
deriving DecidableEq, Repr

namespace StorageService

/-- `parse_blob_url`. -/
def parseBlobUrl (blobUrl : Text) : Except PyException AzureBlobUrlModel :=
  match urlparse blobUrl with
  | .error message => .error (.valueError message)
  | .ok parsedBlobUrl =>
      match (parsedBlobUrl.path.splitOn '/').reverse with
      | blobName :: containerName :: _ =>
          .ok ⟨parsedBlobUrl.netloc.takeWhile (· ≠ '.'), containerName, blobName⟩
      | _ => .error (.indexError "list index out of range".toList)

/-- `delete_blob`; the blob service is made with the keys of the account. -/
def deleteBlob (storageName containerName blobName : Text) : Shell Unit :=
  send (.deleteDisk (.vhd storageName containerName blobName))

end StorageService

/-- `_delete_vhd_disk`. -/
def DeleteAzureVMOperation.deleteVhdDisk (vhdUrl : Text) : Shell Unit := do
  let urlModel ← ofExcept (StorageService.parseBlobUrl vhdUrl)
  StorageService.deleteBlob urlModel.storageName urlModel.containerName urlModel.blobName

namespace StorageService

/-- The host of a storage account, behind its name. -/
def blobHost : Text :=
  ".blob.core.windows.net".toList

/-- The address of a blob. -/
def blobUrl (storageName containerName blobName : Text) : Text :=
  httpsUrl (storageName ++ blobHost) (containerName ++ '/' :: blobName)

/-- The address of a blob is read back, and a deletion addresses that blob. -/
structure RoundTrips (storageName containerName blobName : Text) : Prop where
  parse_eq : parseBlobUrl (blobUrl storageName containerName blobName) =
    .ok ⟨storageName, containerName, blobName⟩
  delete_eq : DeleteAzureVMOperation.deleteVhdDisk (blobUrl storageName containerName blobName) =
    deleteBlob storageName containerName blobName

/-- The names keep clear of what delimits the parts of a URL, and that of the
account also after its normalization. -/
structure ArePlain (storageName containerName blobName : Text) : Prop where
  blobNoSlash : '/' ∉ blobName
  containerNoFragment : '#' ∉ containerName
  containerNoQuery : '?' ∉ containerName
  storageNoFragment : '#' ∉ storageName
  storageNoQuery : '?' ∉ storageName
  storageBrackets : '[' ∈ storageName ↔ ']' ∈ storageName
  storageNormal : ∀ c ∈ storageName, normalizesToDelimiter c = false

/-- The names that the format of a blob address allows. -/
structure AreNames (storageName containerName blobName : Text) : Prop where
  storageNoDot : '.' ∉ storageName
  storageNoSlash : '/' ∉ storageName
  containerNoSlash : '/' ∉ containerName
  blobNoQuery : '?' ∉ blobName
  blobNoFragment : '#' ∉ blobName
  blobNoParams : ';' ∉ blobName

/-! ## What a blob address is never parsed into -/

/-- A parsed container and blob are parts of the path of the parsed URL. -/
theorem parseBlobUrl_eq_ok {url : Text} {model : AzureBlobUrlModel}
    (isParsed : parseBlobUrl url = .ok model) :
    ∃ parsed, urlparse url = .ok parsed ∧
      model.storageName = parsed.netloc.takeWhile (· ≠ '.') ∧
      model.containerName ∈ parsed.path.splitOn '/' ∧ model.blobName ∈ parsed.path.splitOn '/' := by
  rw [parseBlobUrl] at isParsed
  cases parse : urlparse url with
  | error message => simp [parse] at isParsed
  | ok parsed =>
      rw [parse] at isParsed
      dsimp only at isParsed
      cases parts : (parsed.path.splitOn '/').reverse with
      | nil => simp [parts] at isParsed
      | cons blobName front =>
          cases front with
          | nil => simp [parts] at isParsed
          | cons containerName front =>
              rw [parts] at isParsed
              have model_eq := Except.ok.inj isParsed
              subst model
              have mem_parts : ∀ part ∈ blobName :: containerName :: front,
                  part ∈ parsed.path.splitOn '/' := fun part member =>
                List.mem_reverse.mp (parts ▸ member)
              exact ⟨parsed, rfl, rfl, mem_parts _ (by simp), mem_parts _ (by simp)⟩

theorem eq_false_of_mem_netloc {test : Char → Bool} {storageName : Text}
    (host : blobHost.all (!test ·) = true) (name : ∀ c ∈ storageName, test c = false) :
    ∀ c ∈ storageName ++ blobHost, test c = false := by
  intro c member
  rcases List.mem_append.mp member with inName | inHost
  · exact name c inName
  · simpa using List.all_eq_true.mp host c inHost

theorem mem_netloc_iff (c : Char) (notInHost : blobHost.contains c = false) (storageName : Text) :
    c ∈ storageName ++ blobHost ↔ c ∈ storageName := by
  have absent : c ∉ blobHost := by simpa using notInHost
  simp [absent]

/-! ## The round trip -/

variable {storageName containerName blobName : Text}

/-- Names that are read back are plain. -/
theorem ArePlain.of_parse (parse_eq : parseBlobUrl (blobUrl storageName containerName blobName) =
    .ok ⟨storageName, containerName, blobName⟩) : ArePlain storageName containerName blobName := by
  rcases parseBlobUrl_eq_ok parse_eq with ⟨parsed, isParsed, storage_eq, inContainer, inBlob⟩
  rcases urlparse_eq_ok isParsed with ⟨pathCut, isNetloc⟩
  have noDelimiter : ∀ c ∈ storageName, isDelimiter c = false := by
    intro c member
    have fromNetloc : c ∈ parsed.netloc.takeWhile (· ≠ '.') := storage_eq ▸ member
    exact isNetloc.noDelimiter c ((List.takeWhile_prefix _).subset fromNetloc)
  have netloc_eq : parsed.netloc = storageName ++ blobHost :=
    urlparse_httpsUrl_eq_ok (eq_false_of_mem_netloc rfl noDelimiter) isParsed
  rw [netloc_eq] at isNetloc
  have brackets := isNetloc.brackets
  rw [mem_netloc_iff '[' rfl, mem_netloc_iff ']' rfl] at brackets
  constructor
  · exact (mem_splitOn inBlob).1
  · exact fun member => pathCut.1 ((mem_splitOn inContainer).2 member)
  · exact fun member => pathCut.2 ((mem_splitOn inContainer).2 member)
  · exact fun member => absurd (noDelimiter _ member) (by simp [isDelimiter])
  · exact fun member => absurd (noDelimiter _ member) (by simp [isDelimiter])
  · exact brackets
  · exact fun c member => isNetloc.normal c (List.mem_append_left _ member)

/-- Plain names are read back. -/
theorem ArePlain.parse (plain : ArePlain storageName containerName blobName)
    (names : AreNames storageName containerName blobName) :
    parseBlobUrl (blobUrl storageName containerName blobName) =
      .ok ⟨storageName, containerName, blobName⟩ := by
  have noDelimiter : ∀ c ∈ storageName, isDelimiter c = false := by
    intro c member
    simp only [isDelimiter, Bool.or_eq_false_iff, decide_eq_false_iff_not]
    refine ⟨⟨?_, ?_⟩, ?_⟩
    · exact fun same => names.storageNoSlash (same ▸ member)
    · exact fun same => plain.storageNoQuery (same ▸ member)
    · exact fun same => plain.storageNoFragment (same ▸ member)
  have isNetloc : IsNetloc (storageName ++ blobHost) := by
    constructor
    · exact eq_false_of_mem_netloc rfl noDelimiter
    · rw [mem_netloc_iff '[' rfl, mem_netloc_iff ']' rfl]
      exact plain.storageBrackets
    · exact eq_false_of_mem_netloc rfl plain.storageNormal
  have path_eq : dropParams (beforeQuery ('/' :: (containerName ++ '/' :: blobName))) =
      '/' :: (containerName ++ '/' :: blobName) := by
    rw [beforeQuery_of_not_mem (by simp [plain.containerNoFragment, names.blobNoFragment])
      (by simp [plain.containerNoQuery, names.blobNoQuery])]
    have dropped := dropParams_append_cons ('/' :: containerName) plain.blobNoSlash
    rwa [takeWhile_ne_of_not_mem names.blobNoParams] at dropped
  have parts : ('/' :: (containerName ++ '/' :: blobName)).splitOn '/' =
      [[], containerName, blobName] := by
    have atStart : ('/' :: (containerName ++ '/' :: blobName)).splitOn '/' =
        List.splitOn '/' [] ++ (containerName ++ '/' :: blobName).splitOn '/' :=
      List.splitOn_append_cons_self [] _
    rw [atStart, List.splitOn_append_cons_self, List.splitOn_eq_singleton names.containerNoSlash,
      List.splitOn_eq_singleton plain.blobNoSlash, List.splitOn_nil]
    rfl
  have account : (storageName ++ blobHost).takeWhile (· ≠ '.') = storageName := by
    have atDot : blobHost.takeWhile (· ≠ '.') = [] := rfl
    rw [List.takeWhile_append_of_pos, atDot, List.append_nil]
    · intro c member
      simp only [ne_eq, decide_not, Bool.not_eq_true', decide_eq_false_iff_not]
      exact fun same => names.storageNoDot (same ▸ member)
  rw [parseBlobUrl, blobUrl, urlparse_httpsUrl isNetloc, path_eq]
  simp only [parts, account, List.reverse_cons, List.reverse_nil, List.nil_append,
    List.cons_append]

/-- Plain names of a blob address are read back, and a deletion addresses that
blob. -/
theorem AreNames.roundTrips (names : AreNames storageName containerName blobName)
    (plain : ArePlain storageName containerName blobName) :
    RoundTrips storageName containerName blobName where
  parse_eq := plain.parse names
  delete_eq := by
    rw [DeleteAzureVMOperation.deleteVhdDisk, plain.parse names]
    rfl

/-- A blob address names one blob. -/
theorem blobUrl_injective {otherStorage otherContainer otherBlob : Text}
    (names : AreNames storageName containerName blobName)
    (otherNames : AreNames otherStorage otherContainer otherBlob)
    (same : blobUrl storageName containerName blobName =
      blobUrl otherStorage otherContainer otherBlob) :
    storageName = otherStorage ∧ containerName = otherContainer ∧ blobName = otherBlob := by
  have netlocNoSlash : ∀ {account : Text}, '/' ∉ account → '/' ∉ account ++ blobHost :=
    fun absent member => absent ((mem_netloc_iff '/' rfl _).mp member)
  have located : (storageName ++ blobHost) ++ '/' :: (containerName ++ '/' :: blobName) =
      (otherStorage ++ blobHost) ++ '/' :: (otherContainer ++ '/' :: otherBlob) :=
    List.append_cancel_left ((List.append_assoc _ _ _).symm.trans
      (same.trans (List.append_assoc _ _ _)))
  have account := append_cons_left_inj (netlocNoSlash names.storageNoSlash)
    (netlocNoSlash otherNames.storageNoSlash) located
  rw [account] at located
  have path := List.tail_eq_of_cons_eq (List.append_cancel_left located)
  have container := append_cons_left_inj names.containerNoSlash otherNames.containerNoSlash path
  rw [container] at path
  have blob := List.tail_eq_of_cons_eq (List.append_cancel_left path)
  exact ⟨List.append_cancel_right account, container, blob⟩

/-- The address of a blob is read back if and only if its names are plain. -/
theorem blobUrl_roundTrips_iff (storageNoDot : '.' ∉ storageName)
    (storageNoSlash : '/' ∉ storageName) (containerNoSlash : '/' ∉ containerName)
    (blobNoQuery : '?' ∉ blobName) (blobNoFragment : '#' ∉ blobName)
    (blobNoParams : ';' ∉ blobName) :
    RoundTrips storageName containerName blobName ↔
      ArePlain storageName containerName blobName := by
  constructor
  · intro roundTrips
    exact ArePlain.of_parse roundTrips.parse_eq
  · intro plain
    have names : AreNames storageName containerName blobName := ⟨storageNoDot, storageNoSlash,
      containerNoSlash, blobNoQuery, blobNoFragment, blobNoParams⟩
    exact names.roundTrips plain

theorem blobUrl_roundTrips_iff_example :
    RoundTrips ['s', 'a'] ['v', 'h', 'd', 's'] ['o', 's', '.', 'v', 'h', 'd'] ↔
      ArePlain ['s', 'a'] ['v', 'h', 'd', 's'] ['o', 's', '.', 'v', 'h', 'd'] :=
  blobUrl_roundTrips_iff (by simp) (by simp) (by simp) (by simp) (by simp) (by simp)

/-- The blob `a/b` of a container is taken for the blob `b` of the container
`a`. -/
theorem blobUrl_not_roundTrips :
    ¬ ∀ storageName containerName blobName : Text,
      '.' ∉ storageName → '/' ∉ storageName → containerName ≠ [] → '/' ∉ containerName →
      blobName ≠ [] → '?' ∉ blobName → '#' ∉ blobName → ';' ∉ blobName →
      RoundTrips storageName containerName blobName := by
  intro allRoundTrip
  have roundTrips := allRoundTrip ['s'] ['c'] ['a', '/', 'b'] (by simp) (by simp) (by simp)
    (by simp) (by simp) (by simp) (by simp) (by simp)
  exact (ArePlain.of_parse roundTrips.parse_eq).blobNoSlash (by simp)

end StorageService

end AzureShell
