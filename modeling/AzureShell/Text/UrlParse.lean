import AzureShell.Text.Core
import Mathlib.Data.List.TakeWhile

/-!
# URLs as Python 2.7 splits them

`urlparse` takes the scheme off a URL, then the network location between two
slashes and the next delimiter; the path is the rest up to the fragment, the
query and the parameters of its last segment.  A network location with one
bracket, or with a character that is normalized to a delimiter, is refused.
Only the parts that a caller reads are kept here.
-/

namespace AzureShell.Text

/-- The parts of a parsed URL. -/
structure ParsedUrl where
  scheme : Text
  netloc : Text
  path : Text
deriving DecidableEq, Repr

/-- `scheme_chars`. -/
def isSchemeChar (c : Char) : Bool :=
  c.isAlphanum || c = '+' || c = '-' || c = '.'

/-- The schemes in `uses_params`. -/
def usesParams : List Text :=
  ["ftp".toList, "hdl".toList, "prospero".toList, "http".toList, "imap".toList, "https".toList,
    "shttp".toList, "rtsp".toList, "rtspu".toList, "sip".toList, "sips".toList, "mms".toList, [],
    "sftp".toList, "tel".toList]

/-- The scheme and the rest; digits behind a colon are a port and no scheme
comes before them. -/
def splitScheme (url : Text) : Text × Text :=
  match url.span (· ≠ ':') with
  | (c :: front, _ :: rest) =>
      let scheme := c :: front
      if scheme = "http".toList ∨
          scheme.all isSchemeChar ∧ (rest.isEmpty ∨ rest.any (!·.isDigit)) then
        (lower scheme, rest)
      else ([], url)
  | _ => ([], url)

/-- A delimiter of the network location. -/
def isDelimiter (c : Char) : Bool :=
  c = '/' || c = '?' || c = '#'

/-- `_splitnetloc`, for what follows the scheme. -/
def splitNetloc : Text → Text × Text
  | '/' :: '/' :: rest => rest.span (!isDelimiter ·)
  | url => ([], url)

/-- `_splitparams`: the path without the parameters of its last segment. -/
def dropParams (path : Text) : Text :=
  let last := lastPart '/' path
  path.take (path.length - last.length) ++ last.takeWhile (· ≠ ';')

/-- The path, up to the fragment and the query. -/
def beforeQuery (rest : Text) : Text :=
  (rest.takeWhile (· ≠ '#')).takeWhile (· ≠ '?')

/-- The characters that expand, in normalization form KC, to a text with one of
`/`, `?`, `#`, `@` and `:`, other than these five themselves. -/
def normalizesToDelimiter (c : Char) : Bool :=
  [0x2047, 0x2048, 0x2049, 0x2100, 0x2101, 0x2105, 0x2106, 0x2A74, 0xFE13, 0xFE16, 0xFE55, 0xFE56,
    0xFE5F, 0xFE6B, 0xFF03, 0xFF0F, 0xFF1A, 0xFF1F, 0xFF20].contains c.toNat

/-- The hexadecimal digits of a character, at least as many as `width`. -/
def hexDigits (width : Nat) (c : Char) : Text :=
  let digits := Nat.toDigits 16 c.toNat
  List.replicate (width - digits.length) '0' ++ digits

/-- A character inside the `repr` of a text. -/
def reprChar (quote c : Char) : Text :=
  let backslash := Char.ofNat 0x5C
  if c = quote ∨ c = backslash then [backslash, c]
  else if c = '\t' then [backslash, 't']
  else if c = '\n' then [backslash, 'n']
  else if c = '\r' then [backslash, 'r']
  else if 0x20 ≤ c.toNat ∧ c.toNat < 0x7F then [c]
  else if c.toNat < 0x100 then backslash :: 'x' :: hexDigits 2 c
  else if c.toNat < 0x10000 then backslash :: 'u' :: hexDigits 4 c
  else backslash :: 'U' :: hexDigits 8 c

/-- `repr` of a `unicode` text. -/
def reprUnicode (text : Text) : Text :=
  let apostrophe := Char.ofNat 0x27
  let quotation := Char.ofNat 0x22
  let quote := if text.contains apostrophe && !text.contains quotation then quotation
    else apostrophe
  'u' :: quote :: text.flatMap (reprChar quote) ++ [quote]

/-- The `ValueError` of `_checknetloc`. -/
def invalidNetloc (netloc : Text) : Text :=
  "netloc ".toList ++ reprUnicode netloc ++
    " contains invalid characters under NFKC normalization".toList

/-- `urlparse` of a `unicode` URL, with the text of its `ValueError`. -/
def urlparse (url : Text) : Except Text ParsedUrl :=
  let schemed := splitScheme url
  let located := splitNetloc schemed.2
  if located.1.contains '[' != located.1.contains ']' then
    .error "Invalid IPv6 URL".toList
  else if located.1.any normalizesToDelimiter then
    -- No delimiter composes with what follows it, so `_checknetloc` finds one in
    -- the normalized text if and only if one of the characters expands to it.
    .error (invalidNetloc located.1)
  else
    let path := beforeQuery located.2
    .ok ⟨schemed.1, located.1, if usesParams.contains schemed.1 then dropParams path else path⟩

/-! ## Parts of a split text -/

/-- The parts of a split text are made of its other characters. -/
theorem mem_splitOn {separator : Char} {text part : Text}
    (member : part ∈ text.splitOn separator) : separator ∉ part ∧ part ⊆ text := by
  induction text generalizing part with
  | nil =>
      rw [List.splitOn_nil, List.mem_singleton] at member
      subst part
      simp
  | cons c text ih =>
      rw [List.splitOn_cons_eq_if_modifyHead] at member
      split at member
      · rcases List.mem_cons.mp member with rfl | later
        · simp
        · exact ⟨(ih later).1, List.subset_cons_of_subset c (ih later).2⟩
      · rename_i other
        cases parts : text.splitOn separator with
        | nil => exact absurd parts (List.splitOn_ne_nil separator text)
        | cons first rest =>
            rw [parts, List.modifyHead_cons, List.mem_cons] at member
            rw [parts] at ih
            rcases member with rfl | later
            · have fromFirst := ih List.mem_cons_self
              have different : separator ≠ c := by
                rintro rfl
                simp at other
              exact ⟨by simp [different, fromFirst.1], List.cons_subset_cons c fromFirst.2⟩
            · have fromRest := ih (List.mem_cons_of_mem first later)
              exact ⟨fromRest.1, List.subset_cons_of_subset c fromRest.2⟩

theorem lastPart_subset (separator : Char) (text : Text) : lastPart separator text ⊆ text := by
  have nonempty := List.splitOn_ne_nil separator text
  rw [lastPart, List.getLastD_eq_getLast?, List.getLast?_eq_some_getLast nonempty]
  exact (mem_splitOn (List.getLast_mem nonempty)).2

/-! ## What no parsed URL contains -/

theorem not_mem_takeWhile (c : Char) (text : Text) : c ∉ text.takeWhile (· ≠ c) := by
  intro member
  simpa using List.mem_takeWhile_imp member

theorem beforeQuery_not_mem (rest : Text) : '#' ∉ beforeQuery rest ∧ '?' ∉ beforeQuery rest := by
  refine ⟨fun member => ?_, not_mem_takeWhile '?' _⟩
  exact not_mem_takeWhile '#' rest ((List.takeWhile_prefix _).subset member)

theorem dropParams_subset (path : Text) : dropParams path ⊆ path := by
  intro c member
  rcases List.mem_append.mp member with inFront | inLast
  · exact List.mem_of_mem_take inFront
  · exact lastPart_subset '/' path ((List.takeWhile_prefix _).subset inLast)

theorem isDelimiter_of_mem_splitNetloc {url : Text} {c : Char} (member : c ∈ (splitNetloc url).1) :
    isDelimiter c = false := by
  rw [splitNetloc.eq_def] at member
  split at member
  · rw [List.span_eq_takeWhile_dropWhile] at member
    simpa using List.mem_takeWhile_imp member
  · simp at member

/-- A network location that a URL can have: no delimiter, both brackets or none,
and no character that is normalized to a delimiter. -/
structure IsNetloc (netloc : Text) : Prop where
  noDelimiter : ∀ c ∈ netloc, isDelimiter c = false
  brackets : '[' ∈ netloc ↔ ']' ∈ netloc
  normal : ∀ c ∈ netloc, normalizesToDelimiter c = false

/-- A parsed URL has a path with no fragment and no query. -/
theorem urlparse_eq_ok {url : Text} {parsed : ParsedUrl} (isParsed : urlparse url = .ok parsed) :
    ('#' ∉ parsed.path ∧ '?' ∉ parsed.path) ∧ IsNetloc parsed.netloc := by
  rw [urlparse] at isParsed
  split at isParsed
  · contradiction
  rename_i brackets
  split at isParsed
  · contradiction
  rename_i normal
  have parsed_eq := Except.ok.inj isParsed
  subst parsed
  have absent := beforeQuery_not_mem (splitNetloc (splitScheme url).2).2
  constructor
  · dsimp only
    split
    · exact ⟨fun member => absent.1 (dropParams_subset _ member),
        fun member => absent.2 (dropParams_subset _ member)⟩
    · exact absent
  · constructor
    · exact fun c member => isDelimiter_of_mem_splitNetloc member
    · simpa using brackets
    · simpa using normal

/-! ## Parsing a given URL -/

/-- A URL with the scheme `https` and a path that is not empty. -/
def httpsUrl (netloc path : Text) : Text :=
  "https://".toList ++ netloc ++ '/' :: path

theorem splitScheme_httpsUrl (netloc path : Text) :
    splitScheme (httpsUrl netloc path) = ("https".toList, '/' :: '/' :: (netloc ++ '/' :: path)) :=
  rfl

theorem splitNetloc_cons {netloc : Text} (noDelimiter : ∀ c ∈ netloc, isDelimiter c = false)
    (rest : Text) :
    splitNetloc ('/' :: '/' :: (netloc ++ '/' :: rest)) = (netloc, '/' :: rest) := by
  have inside : ∀ c ∈ netloc, (!isDelimiter c) = true := fun c member => by
    simp [noDelimiter c member]
  rw [splitNetloc, List.span_eq_takeWhile_dropWhile, List.takeWhile_append_of_pos inside,
    List.dropWhile_append_of_pos inside]
  simp [isDelimiter]

/-- A URL is parsed into the network location it was made with. -/
theorem urlparse_httpsUrl_eq_ok {netloc path : Text} {parsed : ParsedUrl}
    (noDelimiter : ∀ c ∈ netloc, isDelimiter c = false)
    (isParsed : urlparse (httpsUrl netloc path) = .ok parsed) : parsed.netloc = netloc := by
  rw [urlparse, splitScheme_httpsUrl] at isParsed
  simp only [splitNetloc_cons noDelimiter] at isParsed
  split at isParsed
  · contradiction
  split at isParsed
  · contradiction
  rw [← Except.ok.inj isParsed]

theorem urlparse_httpsUrl {netloc : Text} (isNetloc : IsNetloc netloc) (path : Text) :
    urlparse (httpsUrl netloc path) =
      .ok ⟨"https".toList, netloc, dropParams (beforeQuery ('/' :: path))⟩ := by
  have hasParams : usesParams.contains "https".toList = true := rfl
  have brackets : (netloc.contains '[' != netloc.contains ']') = false := by
    rw [bne_eq_false_iff_eq, Bool.eq_iff_iff, List.contains_iff_mem, List.contains_iff_mem]
    exact isNetloc.brackets
  have normal : netloc.any normalizesToDelimiter = false := by
    rw [List.any_eq_false]
    intro c member
    rw [isNetloc.normal c member]
    exact Bool.false_ne_true
  rw [urlparse, splitScheme_httpsUrl]
  simp only [splitNetloc_cons isNetloc.noDelimiter, brackets, normal, hasParams, if_true,
    Bool.false_eq_true, if_false]

theorem takeWhile_ne_of_not_mem {c : Char} {text : Text} (absent : c ∉ text) :
    text.takeWhile (· ≠ c) = text := by
  rw [List.takeWhile_eq_self_iff]
  intro d member
  simp only [ne_eq, decide_not, Bool.not_eq_true', decide_eq_false_iff_not]
  rintro rfl
  exact absent member

theorem beforeQuery_of_not_mem {rest : Text} (noFragment : '#' ∉ rest) (noQuery : '?' ∉ rest) :
    beforeQuery rest = rest := by
  rw [beforeQuery, takeWhile_ne_of_not_mem noFragment, takeWhile_ne_of_not_mem noQuery]

theorem dropParams_append_cons (left : Text) {last : Text} (noSlash : '/' ∉ last) :
    dropParams (left ++ '/' :: last) = left ++ '/' :: last.takeWhile (· ≠ ';') := by
  have front : (left ++ '/' :: last).length - last.length = (left ++ ['/']).length := by
    simp
    omega
  rw [dropParams, lastPart_append_cons left noSlash, front,
    show left ++ '/' :: last = (left ++ ['/']) ++ last by simp, List.take_left]
  simp

end AzureShell.Text
