import AzureShell.Text.Core

/-!
# Paths of segments and the keyword before a segment

A path writes each of its segments behind a slash.  A greedy search for a
keyword and a slash, in any letter case, takes the last position that matches;
on a path that is the last segment that ends in the keyword and has a segment
behind it which the search can use.
-/

namespace AzureShell.Text

variable {α : Type}

/-- Every segment behind a slash. -/
def path (segments : List Text) : Text :=
  segments.flatMap ('/' :: ·)

@[simp]
theorem path_nil : path [] = [] :=
  rfl

@[simp]
theorem path_cons (segment : Text) (segments : List Text) :
    path (segment :: segments) = '/' :: (segment ++ path segments) :=
  rfl

/-- A text that stands between two slashes of a path on one line. -/
structure IsSegment (segment : Text) : Prop where
  nonempty : segment ≠ []
  noSlash : '/' ∉ segment
  noNewline : '\n' ∉ segment

theorem isSegment_of_all {segment : Text}
    (check : (!segment.isEmpty && segment.all fun c => c ≠ '/' && c ≠ '\n') = true) :
    IsSegment segment := by
  rw [Bool.and_eq_true] at check
  constructor
  · rintro rfl
    simp at check
  · intro member
    simpa using List.all_eq_true.mp check.2 _ member
  · intro member
    simpa using List.all_eq_true.mp check.2 _ member

/-- The end of a segment is cut off by the slash behind it. -/
theorem takeWhile_append_path {segment : Text} (noSlash : '/' ∉ segment) (rest : List Text) :
    (segment ++ path rest).takeWhile (· ≠ '/') = segment := by
  have inside : ∀ c ∈ segment, decide (c ≠ '/') = true := by
    intro c member
    simp only [decide_eq_true_eq]
    rintro rfl
    exact noSlash member
  rw [List.takeWhile_append_of_pos inside]
  cases rest with
  | nil => simp
  | cons next rest => simp

/-! ## Matches at a position -/

/-- A match of the keyword and a slash, in any letter case, at the start of the
text, with what is found behind them. -/
def behindKeyword (keyword : Text) (found : Text → Option α) (text : Text) : Option α :=
  if keyword ++ ['/'] <+: lower text then found (text.drop (keyword.length + 1)) else none

/-- The match at the last position of the first line that has one. -/
def lastMatch (matchAt : Text → Option α) : Text → Option α
  | [] => none
  | c :: rest => (if c = '\n' then none else lastMatch matchAt rest).or (matchAt (c :: rest))

theorem val_toLower_of_isUpper {c : Char} (isUpper : c.val ≥ 'A'.val ∧ c.val ≤ 'Z'.val) :
    c.toLower.val = c.val + ('a'.val - 'A'.val) := by
  change (dite _ _ _ : Char).val = _
  rw [dif_pos isUpper]

theorem toLower_of_not_isUpper {c : Char} (other : ¬ (c.val ≥ 'A'.val ∧ c.val ≤ 'Z'.val)) :
    c.toLower = c := by
  change (dite _ _ _ : Char) = _
  rw [dif_neg other]

theorem toLower_eq_slash_iff (c : Char) : c.toLower = '/' ↔ c = '/' := by
  constructor
  · intro lowered
    by_cases isUpper : c.val ≥ 'A'.val ∧ c.val ≤ 'Z'.val
    · have lowered_val := val_toLower_of_isUpper isUpper
      rw [lowered] at lowered_val
      have code := congrArg UInt32.toNat lowered_val
      have low := UInt32.le_iff_toNat_le.mp isUpper.1
      have high := UInt32.le_iff_toNat_le.mp isUpper.2
      simp [UInt32.toNat_add] at code low high
      omega
    · rwa [toLower_of_not_isUpper isUpper] at lowered
  · rintro rfl
    rfl

theorem slash_mem_lower_iff (text : Text) : '/' ∈ lower text ↔ '/' ∈ text := by
  simp [lower, toLower_eq_slash_iff]

theorem length_lower (text : Text) : (lower text).length = text.length := by
  simp [lower]

/-- A word and a slash start a text if and only if the word is the text's part
before its first slash. -/
theorem append_slash_prefix_iff {word left : Text} (wordNoSlash : '/' ∉ word)
    (noSlash : '/' ∉ left) (right : Text) :
    word ++ ['/'] <+: left ++ '/' :: right ↔ word = left := by
  constructor
  · rintro ⟨after, split⟩
    rw [List.append_assoc] at split
    exact append_cons_left_inj wordNoSlash noSlash split
  · rintro rfl
    exact ⟨right, by simp⟩

variable {keyword : Text} {found : Text → Option α}

/-- Inside a path the keyword and its slash match where the rest of a segment is
the keyword and another segment follows. -/
theorem behindKeyword_append_path_cons (keywordNoSlash : '/' ∉ keyword) {segment : Text}
    (noSlash : '/' ∉ segment) (next : Text) (rest : List Text) :
    behindKeyword keyword found (segment ++ path (next :: rest)) =
      if keyword = lower segment then found (next ++ path rest) else none := by
  have lowered : lower (segment ++ path (next :: rest)) =
      lower segment ++ '/' :: lower (next ++ path rest) := by
    simp [lower]
  rw [behindKeyword, lowered, if_congr (append_slash_prefix_iff keywordNoSlash
    (mt (slash_mem_lower_iff segment).mp noSlash) _) rfl rfl]
  split
  · rename_i isKeyword
    have consumed : segment.drop (segment.length + 1) = [] :=
      List.drop_of_length_le (Nat.le_succ _)
    rw [isKeyword, length_lower, path_cons]
    simp [List.drop_append, consumed]
  · rfl

/-- Behind the last slash nothing matches. -/
theorem behindKeyword_of_noSlash {text : Text} (noSlash : '/' ∉ text) :
    behindKeyword keyword found text = none := by
  have notPrefix : ¬ keyword ++ ['/'] <+: lower text := by
    intro starts
    exact noSlash ((slash_mem_lower_iff text).mp (starts.subset (by simp)))
  rw [behindKeyword, if_neg notPrefix]

/-! ## Matches in a path -/

/-- What is found in the segments behind a keyword, if there are any. -/
def foundIn (found : Text → Option α) : List Text → Option α
  | [] => none
  | next :: rest => found (next ++ path rest)

/-- What is found behind the last segment that ends in the keyword. -/
def lastBehind (keyword : Text) (found : Text → Option α) : List Text → Option α
  | [] => none
  | segment :: rest =>
      (lastBehind keyword found rest).or
        (if keyword <:+ lower segment then foundIn found rest else none)

theorem behindKeyword_append_path (keywordNoSlash : '/' ∉ keyword) {segment : Text}
    (noSlash : '/' ∉ segment) (rest : List Text) :
    behindKeyword keyword found (segment ++ path rest) =
      if keyword = lower segment then foundIn found rest else none := by
  cases rest with
  | nil => simpa [foundIn] using behindKeyword_of_noSlash noSlash
  | cons next rest => exact behindKeyword_append_path_cons keywordNoSlash noSlash next rest

/-- The positions inside one segment add the match of a keyword at its end. -/
theorem lastMatch_append_path (keywordNonempty : keyword ≠ []) (keywordNoSlash : '/' ∉ keyword)
    {segment : Text} (noSlash : '/' ∉ segment) (noNewline : '\n' ∉ segment) (rest : List Text) :
    lastMatch (behindKeyword keyword found) (segment ++ path rest) =
      (lastMatch (behindKeyword keyword found) (path rest)).or
        (if keyword <:+ lower segment then foundIn found rest else none) := by
  induction segment with
  | nil => simp [lower, keywordNonempty]
  | cons c segment ih =>
      simp only [List.mem_cons, not_or] at noSlash noNewline
      have here : behindKeyword keyword found (c :: segment ++ path rest) =
          if keyword = lower (c :: segment) then foundIn found rest else none :=
        behindKeyword_append_path keywordNoSlash
          (List.not_mem_cons_of_ne_of_not_mem noSlash.1 noSlash.2) rest
      rw [List.cons_append, lastMatch, if_neg (Ne.symm noNewline.1), ih noSlash.2 noNewline.2,
        ← List.cons_append, here]
      have suffix_iff : keyword <:+ lower (c :: segment) ↔
          keyword = lower (c :: segment) ∨ keyword <:+ lower segment := by
        simp [lower, List.suffix_cons_iff]
      by_cases later : keyword <:+ lower segment
      · by_cases whole : keyword = lower (c :: segment)
        · rw [if_pos later, if_pos whole, if_pos (suffix_iff.mpr (Or.inl whole)), Option.or_assoc,
            Option.or_self]
        · rw [if_pos later, if_neg whole, if_pos (suffix_iff.mpr (Or.inr later)), Option.or_none]
      · rw [if_neg later, Option.or_none]
        simp [suffix_iff, later]

/-- On a path the last match lies behind the last segment that ends in the
keyword. -/
theorem lastMatch_path (keywordNonempty : keyword ≠ []) (keywordNoSlash : '/' ∉ keyword)
    {segments : List Text} (areSegments : ∀ segment ∈ segments, IsSegment segment) :
    lastMatch (behindKeyword keyword found) (path segments) =
      lastBehind keyword found segments := by
  induction segments with
  | nil => rfl
  | cons segment rest ih =>
      have isSegment := areSegments segment List.mem_cons_self
      have atSlash : behindKeyword keyword found ('/' :: (segment ++ path rest)) = none := by
        have beforeSlash : behindKeyword keyword found ([] ++ path (segment :: rest)) =
            if keyword = lower [] then foundIn found (segment :: rest) else none :=
          behindKeyword_append_path keywordNoSlash (by simp) (segment :: rest)
        simpa [lower, keywordNonempty] using beforeSlash
      rw [path_cons, lastMatch, atSlash, Option.or_none, if_neg (by simp),
        lastMatch_append_path keywordNonempty keywordNoSlash isSegment.noSlash isSegment.noNewline,
        ih fun other member => areSegments other (List.mem_cons_of_mem segment member), lastBehind]

end AzureShell.Text
