import Mathlib.Data.List.Infix

/-!
# Texts and occurrences

A text is a list of characters.  This module collects the decimal rendering of
numbers and the facts about one text occurring inside another that ownership
arguments by name need: an occurrence cannot straddle a character that the
searched word does not contain.
-/

namespace AzureShell

/-- A character string, as the list of its characters. -/
abbrev Text := List Char

namespace Text

/-- Decimal rendering of a natural number. -/
def ofNat (n : Nat) : Text :=
  Nat.toDigits 10 n

/-- Decimal rendering of an integer. -/
def ofInt : Int → Text
  | .ofNat n => ofNat n
  | .negSucc n => '-' :: ofNat (n + 1)

/-- Replace every occurrence of one character by another. -/
def replace (old new : Char) (text : Text) : Text :=
  text.map fun c => if c = old then new else c

/-- Lower-case the ASCII letters of a text. -/
def lower (text : Text) : Text :=
  text.map Char.toLower

/-- The characters `unicode.strip` removes. -/
def isSpace (c : Char) : Bool :=
  let code := c.toNat
  (9 ≤ code && code ≤ 13) || (28 ≤ code && code ≤ 32) || code = 0x85 || code = 0xA0 ||
    code = 0x1680 || code = 0x180E || (0x2000 ≤ code && code ≤ 0x200A) || code = 0x2028 ||
    code = 0x2029 || code = 0x202F || code = 0x205F || code = 0x3000

/-- Remove white space at both ends. -/
def strip (text : Text) : Text :=
  ((text.dropWhile isSpace).reverse.dropWhile isSpace).reverse

/-- A stripped text does not end in white space. -/
theorem isSpace_getLast?_strip {text : Text} {c : Char} (last : (strip text).getLast? = some c) :
    isSpace c = false := by
  rw [strip, List.getLast?_reverse] at last
  have notDropped := List.head?_dropWhile_not isSpace (text.dropWhile isSpace).reverse
  rw [last] at notDropped
  exact notDropped

/-- The last part of a text split at a separator. -/
def lastPart (separator : Char) (text : Text) : Text :=
  (text.splitOn separator).getLastD []

theorem lastPart_of_not_mem {separator : Char} {text : Text} (notMem : separator ∉ text) :
    lastPart separator text = text := by
  simp [lastPart, List.splitOn_eq_singleton notMem]

theorem lastPart_append_cons {separator : Char} (left : Text) {text : Text}
    (notMem : separator ∉ text) : lastPart separator (left ++ separator :: text) = text := by
  rw [lastPart, List.splitOn_append_cons_self, List.splitOn_eq_singleton notMem,
    List.getLastD_eq_getLast?, List.getLast?_append]
  rfl

/-! ## Decimal renderings -/

theorem ofNat_injective : Function.Injective ofNat := by
  intro m n rendered
  have values := congrArg (fun digits => Nat.ofDigitChars 10 digits 0) rendered
  simpa [ofNat, Nat.ofDigitChars_ten_toDigits] using values

theorem isDigit_of_mem_ofNat {n : Nat} {c : Char} (member : c ∈ ofNat n) :
    c.isDigit = true :=
  Nat.isDigit_of_mem_toDigits (by decide) (by decide) member

theorem not_mem_ofNat {n : Nat} {c : Char} (notDigit : c.isDigit = false) :
    c ∉ ofNat n := by
  intro member
  rw [isDigit_of_mem_ofNat member] at notDigit
  contradiction

theorem ofNat_ne_nil (n : Nat) : ofNat n ≠ [] := by
  exact List.length_pos_iff.mp Nat.length_toDigits_pos

theorem ofInt_injective : Function.Injective ofInt := by
  intro m n rendered
  cases m with
  | ofNat m =>
      cases n with
      | ofNat n => exact congrArg Int.ofNat (ofNat_injective rendered)
      | negSucc n =>
          have member : '-' ∈ ofNat m := by
            rw [show ofNat m = '-' :: ofNat (n + 1) from rendered]
            exact List.mem_cons_self
          exact absurd member (not_mem_ofNat (by decide))
  | negSucc m =>
      cases n with
      | ofNat n =>
          have member : '-' ∈ ofNat n := by
            rw [show ofNat n = '-' :: ofNat (m + 1) from rendered.symm]
            exact List.mem_cons_self
          exact absurd member (not_mem_ofNat (by decide))
      | negSucc n =>
          have digits : ofNat (m + 1) = ofNat (n + 1) := List.tail_eq_of_cons_eq rendered
          have := ofNat_injective digits
          rw [Nat.succ.inj this]

/-! ## Occurrences across a separator -/

/-- A word that avoids the separator occurs in one of the two sides. -/
theorem infix_append_cons_iff {word left right : Text} {separator : Char}
    (avoids : separator ∉ word) :
    word <:+: left ++ separator :: right ↔ word <:+: left ∨ word <:+: right := by
  constructor
  · rintro ⟨before, after, split⟩
    rw [List.append_assoc, List.append_eq_append_iff] at split
    rcases split with ⟨rest, left_eq, split⟩ | ⟨rest, before_eq, split⟩
    · rw [List.append_eq_append_iff] at split
      rcases split with ⟨tail, rest_eq, _⟩ | ⟨tail, word_eq, tail_eq⟩
      · exact Or.inl ⟨before, tail, by simp [left_eq, rest_eq]⟩
      · cases tail with
        | nil => exact Or.inl ⟨before, [], by simp [left_eq, word_eq]⟩
        | cons c tail =>
            simp only [List.cons_append, List.cons.injEq] at tail_eq
            exact absurd (by simp [word_eq, tail_eq.1]) avoids
    · cases rest with
      | nil =>
          cases word with
          | nil => exact Or.inl List.nil_infix
          | cons c word =>
              simp only [List.nil_append, List.cons_append, List.cons.injEq] at split
              exact absurd (by simp [split.1]) avoids
      | cons c rest =>
          simp only [List.cons_append, List.cons.injEq] at split
          exact Or.inr ⟨rest, after, by simp [split.2]⟩
  · rintro (occurs | occurs)
    · exact occurs.trans (List.prefix_append _ _).isInfix
    · exact occurs.trans ((List.suffix_cons _ _).trans (List.suffix_append _ _)).isInfix

/-- A word that starts with a separator occurs after the first separator of the
text: right behind it, or later. -/
theorem separator_cons_infix_iff {word left right : Text} {separator : Char}
    (avoids : separator ∉ left) :
    separator :: word <:+: left ++ separator :: right ↔
      word <+: right ∨ separator :: word <:+: right := by
  induction left with
  | nil => simp [List.infix_cons_iff, List.cons_prefix_cons]
  | cons c left ih =>
      simp only [List.mem_cons, not_or] at avoids
      rw [List.cons_append, List.infix_cons_iff, List.cons_prefix_cons, ih avoids.2]
      simp [avoids.1]

/-- Texts are split at the first separator in one way. -/
theorem append_cons_left_inj {left other right rest : Text} {separator : Char}
    (avoids : separator ∉ left) (otherAvoids : separator ∉ other)
    (same : left ++ separator :: right = other ++ separator :: rest) : left = other := by
  have untilSeparator : ∀ {front back : Text}, separator ∉ front →
      (front ++ separator :: back).takeWhile (· ≠ separator) = front := by
    intro front back absent
    rw [List.takeWhile_append_of_pos]
    · simp
    · intro c member
      simp only [ne_eq, decide_not, Bool.not_eq_true', decide_eq_false_iff_not]
      rintro rfl
      exact absent member
  have fronts := congrArg (List.takeWhile (· ≠ separator)) same
  exact (untilSeparator avoids).symm.trans (fronts.trans (untilSeparator otherAvoids))

/-- Texts are split at the last separator in one way. -/
theorem append_cons_right_inj {left other right rest : Text} {separator : Char}
    (avoids : separator ∉ right) (restAvoids : separator ∉ rest)
    (same : left ++ separator :: right = other ++ separator :: rest) : left = other := by
  have reversed := congrArg List.reverse same
  simp only [List.reverse_append, List.reverse_cons, List.append_assoc, List.singleton_append]
    at reversed
  have ends : right = rest := by
    apply List.reverse_injective
    exact append_cons_left_inj (by simpa using avoids) (by simpa using restAvoids) reversed
  rw [ends] at same
  exact List.append_cancel_right same

/-- A nonempty word does not occur in a text lacking one of its characters. -/
theorem not_infix_of_mem {word text : Text} {c : Char} (member : c ∈ word)
    (absent : c ∉ text) : ¬ word <:+: text :=
  fun occurs => absent (occurs.subset member)

theorem mem_replace_iff {old new c : Char} {text : Text} :
    c ∈ replace old new text ↔ (c ∈ text ∧ c ≠ old) ∨ (c = new ∧ old ∈ text) := by
  simp only [replace, List.mem_map]
  constructor
  · rintro ⟨d, member, rfl⟩
    by_cases isOld : d = old
    · exact Or.inr ⟨by simp [isOld], isOld ▸ member⟩
    · exact Or.inl ⟨by simpa [isOld] using member, by simp [isOld]⟩
  · rintro (⟨member, notOld⟩ | ⟨rfl, member⟩)
    · exact ⟨c, member, by simp [notOld]⟩
    · exact ⟨old, member, by simp⟩

theorem replace_append (old new : Char) (left right : Text) :
    replace old new (left ++ right) = replace old new left ++ replace old new right := by
  simp [replace]

/-- Replacing back undoes a replacement by a character the text did not have. -/
theorem replace_replace {old new : Char} {text : Text} (absent : new ∉ text) :
    replace new old (replace old new text) = text := by
  induction text with
  | nil => rfl
  | cons c text ih =>
      simp only [List.mem_cons, not_or] at absent
      have tail := ih absent.2
      by_cases isOld : c = old
      · simpa [replace, isOld] using tail
      · simpa [replace, isOld, Ne.symm absent.1] using tail

/-- Texts without the new character are told apart after a replacement. -/
theorem replace_inj {old new : Char} {text other : Text} (absent : new ∉ text)
    (otherAbsent : new ∉ other) (same : replace old new text = replace old new other) :
    text = other := by
  have back := congrArg (replace new old) same
  rwa [replace_replace absent, replace_replace otherAbsent] at back

theorem replace_eq_self {old new : Char} {text : Text} (absent : old ∉ text) :
    replace old new text = text := by
  induction text with
  | nil => rfl
  | cons c text ih =>
      simp only [List.mem_cons, not_or] at absent
      simp only [replace, List.map_cons, if_neg (Ne.symm absent.1)]
      exact congrArg (c :: ·) (ih absent.2)

end Text

end AzureShell
