import AzureShell.Text.Core
import Mathlib.Algebra.Group.Nat.Defs

/-!
# IPv4 addresses and address blocks

Dotted addresses and blocks `a.b.c.d/n` are read from their canonical texts:
four decimal octets and a prefix length, without leading zeros.  A text denotes
a block exactly if it is the block's rendering.
-/

namespace AzureShell.Net

/-- Read a decimal number below a bound, written without leading zeros. -/
def number (bound : Nat) (text : Text) : Option (Fin bound) :=
  let n := Nat.ofDigitChars 10 text 0
  if below : n < bound then
    if text = Text.ofNat n then some ⟨n, below⟩ else none
  else
    none

theorem number_eq_some_iff {bound : Nat} {text : Text} {n : Fin bound} :
    number bound text = some n ↔ text = Text.ofNat n := by
  constructor
  · intro isNumber
    simp only [number] at isNumber
    split at isNumber
    · split at isNumber
      · rename_i rendered
        cases isNumber
        exact rendered
      · contradiction
    · contradiction
  · rintro rfl
    have value : Nat.ofDigitChars 10 (Text.ofNat n) 0 = n := by
      simp [Text.ofNat, Nat.ofDigitChars_ten_toDigits]
    simp [number, value]

/-- An IPv4 address, by its octets. -/
structure Address where
  a : Fin 256
  b : Fin 256
  c : Fin 256
  d : Fin 256
deriving DecidableEq, Repr

namespace Address

/-- The address as a 32-bit number. -/
def value (address : Address) : Nat :=
  ((address.a * 256 + address.b) * 256 + address.c) * 256 + address.d

def parse (text : Text) : Option Address :=
  match text.splitOn '.' with
  | [a, b, c, d] => do
      return ⟨← number 256 a, ← number 256 b, ← number 256 c, ← number 256 d⟩
  | _ => none

def render (address : Address) : Text :=
  ['.'].intercalate [Text.ofNat address.a, Text.ofNat address.b, Text.ofNat address.c,
    Text.ofNat address.d]

theorem parse_eq_some_iff {text : Text} {address : Address} :
    parse text = some address ↔ text = address.render := by
  constructor
  · intro parsed
    have joined : ['.'].intercalate (text.splitOn '.') = text :=
      List.intercalate_splitOn '.'
    unfold parse at parsed
    split at parsed
    · rename_i parts
      simp only [Option.bind_eq_bind, Option.bind_eq_some_iff] at parsed
      rcases parsed with ⟨a, aText, b, bText, c, cText, d, dText, equal⟩
      cases equal
      rw [← joined, parts, number_eq_some_iff.mp aText, number_eq_some_iff.mp bText,
        number_eq_some_iff.mp cText, number_eq_some_iff.mp dText]
      rfl
    · contradiction
  · rintro rfl
    have parts : address.render.splitOn '.' = [Text.ofNat address.a, Text.ofNat address.b,
        Text.ofNat address.c, Text.ofNat address.d] := by
      apply List.splitOn_intercalate
      · intro part member
        simp only [List.mem_cons, List.not_mem_nil, or_false] at member
        rcases member with rfl | rfl | rfl | rfl <;> exact Text.not_mem_ofNat (by decide)
      · simp
    simp only [parse, parts, number_eq_some_iff.mpr rfl]
    rfl

/-- The characters of a rendered address. -/
theorem mem_render {address : Address} {c : Char} (member : c ∈ address.render) :
    c = '.' ∨ c.isDigit = true := by
  simp only [render, List.intercalate, List.intersperse, List.flatten_cons, List.flatten_nil,
    List.append_nil, List.mem_append, List.mem_singleton] at member
  rcases member with digit | rfl | digit | rfl | digit | rfl | digit
  · exact Or.inr (Text.isDigit_of_mem_ofNat digit)
  · exact Or.inl rfl
  · exact Or.inr (Text.isDigit_of_mem_ofNat digit)
  · exact Or.inl rfl
  · exact Or.inr (Text.isDigit_of_mem_ofNat digit)
  · exact Or.inl rfl
  · exact Or.inr (Text.isDigit_of_mem_ofNat digit)

theorem not_mem_render {address : Address} {c : Char} (notDot : c ≠ '.')
    (notDigit : c.isDigit = false) : c ∉ address.render := by
  intro member
  rcases mem_render member with dot | digit
  · exact notDot dot
  · rw [notDigit] at digit
    contradiction

end Address

/-- An address block: an address and the number of its leading bits that the
addresses of the block share. -/
structure Cidr where
  address : Address
  length : Fin 33
deriving DecidableEq, Repr

namespace Cidr

def contains (cidr : Cidr) (address : Address) : Bool :=
  address.value / 2 ^ (32 - cidr.length.val) = cidr.address.value / 2 ^ (32 - cidr.length.val)

def parse (text : Text) : Option Cidr :=
  match text.splitOn '/' with
  | [address, length] => do
      return ⟨← Address.parse address, ← number 33 length⟩
  | _ => none

def render (cidr : Cidr) : Text :=
  cidr.address.render ++ '/' :: Text.ofNat cidr.length

/-- A text denotes a block exactly if it is the block's rendering. -/
theorem parse_eq_some_iff {text : Text} {cidr : Cidr} :
    parse text = some cidr ↔ text = cidr.render := by
  constructor
  · intro parsed
    have joined : ['/'].intercalate (text.splitOn '/') = text :=
      List.intercalate_splitOn '/'
    unfold parse at parsed
    split at parsed
    · rename_i address length parts
      simp only [Option.bind_eq_bind, Option.bind_eq_some_iff] at parsed
      rcases parsed with ⟨base, addressText, n, lengthText, equal⟩
      cases equal
      rw [← joined, parts, Address.parse_eq_some_iff.mp addressText,
        number_eq_some_iff.mp lengthText]
      simp [render, List.intercalate]
    · contradiction
  · rintro rfl
    have parts : cidr.render.splitOn '/' = [cidr.address.render, Text.ofNat cidr.length] := by
      have joined : cidr.render =
          ['/'].intercalate [cidr.address.render, Text.ofNat cidr.length] := by
        simp [render, List.intercalate]
      rw [joined]
      apply List.splitOn_intercalate
      · intro part member
        simp only [List.mem_cons, List.not_mem_nil, or_false] at member
        rcases member with rfl | rfl
        · exact Address.not_mem_render (by decide) (by decide)
        · exact Text.not_mem_ofNat (by decide)
      · simp
    simp only [parse, parts, Address.parse_eq_some_iff.mpr rfl, number_eq_some_iff.mpr rfl]
    rfl

/-- A block with a longer prefix lies inside a block that contains its address. -/
theorem contains_of_contains {inner outer : Cidr} (longer : outer.length ≤ inner.length)
    (base : outer.contains inner.address = true) {address : Address}
    (member : inner.contains address = true) : outer.contains address = true := by
  have bits : 2 ^ (32 - outer.length.val) =
      2 ^ (32 - inner.length.val) * 2 ^ (inner.length.val - outer.length.val) := by
    rw [← Nat.pow_add]
    congr 1
    omega
  simp only [contains, decide_eq_true_eq] at base member ⊢
  rw [bits, ← Nat.div_div_eq_div_mul, ← Nat.div_div_eq_div_mul] at base ⊢
  rw [member, base]

end Cidr

/-- A text that denotes a block. -/
structure CidrText where
  text : Text
  cidr : Cidr
  parsed : Cidr.parse text = some cidr

namespace CidrText

/-- The text with a dash for the slash, as it occurs in names. -/
def dashed (block : CidrText) : Text :=
  Text.replace '/' '-' block.text

theorem dashed_eq (block : CidrText) :
    block.dashed = block.cidr.address.render ++ '-' :: Text.ofNat block.cidr.length := by
  have noSlash : '/' ∉ block.cidr.address.render :=
    Address.not_mem_render (by decide) (by decide)
  have noSlash' : '/' ∉ Text.ofNat block.cidr.length := Text.not_mem_ofNat (by decide)
  rw [dashed, Cidr.parse_eq_some_iff.mp block.parsed, Cidr.render, Text.replace_append,
    Text.replace_eq_self noSlash]
  have tail : Text.replace '/' '-' (Text.ofNat block.cidr.length) = _ :=
    Text.replace_eq_self noSlash'
  simpa [Text.replace] using tail

/-- The characters of a block in a name. -/
theorem mem_dashed {block : CidrText} {c : Char} (member : c ∈ block.dashed) :
    c = '-' ∨ c = '.' ∨ c.isDigit = true := by
  rw [dashed_eq, List.mem_append, List.mem_cons] at member
  rcases member with address | dash | length
  · exact Or.inr (Address.mem_render address)
  · exact Or.inl dash
  · exact Or.inr (Or.inr (Text.isDigit_of_mem_ofNat length))

theorem not_mem_dashed {block : CidrText} {c : Char} (notDash : c ≠ '-') (notDot : c ≠ '.')
    (notDigit : c.isDigit = false) : c ∉ block.dashed := by
  intro member
  rcases mem_dashed member with dash | dot | digit
  · exact notDash dash
  · exact notDot dot
  · rw [notDigit] at digit
    contradiction

/-- A block in a name starts with a digit. -/
theorem exists_dashed_eq_cons (block : CidrText) :
    ∃ c rest, block.dashed = c :: rest ∧ c.isDigit = true := by
  have shape : ∃ tail, block.dashed = Text.ofNat block.cidr.address.a ++ tail := by
    rw [dashed_eq]
    exact ⟨_, List.append_assoc (Text.ofNat block.cidr.address.a) _ _⟩
  rcases shape with ⟨tail, shape⟩
  cases digits : Text.ofNat block.cidr.address.a with
  | nil => exact absurd digits (Text.ofNat_ne_nil _)
  | cons c rest =>
      refine ⟨c, rest ++ tail, ?_, ?_⟩
      · rw [shape, digits]
        rfl
      · have member : c ∈ Text.ofNat block.cidr.address.a := by
          rw [digits]
          exact List.mem_cons_self
        exact Text.isDigit_of_mem_ofNat member

/-- The characters of the text of a block. -/
theorem not_mem_text {block : CidrText} {c : Char} (notSlash : c ≠ '/') (notDot : c ≠ '.')
    (notDigit : c.isDigit = false) : c ∉ block.text := by
  intro member
  rw [Cidr.parse_eq_some_iff.mp block.parsed, Cidr.render, List.mem_append, List.mem_cons]
    at member
  rcases member with inAddress | isSlash | inLength
  · exact Address.not_mem_render notDot notDigit inAddress
  · exact notSlash isSlash
  · exact Text.not_mem_ofNat notDigit inLength

/-- A block in a name has at most 18 characters. -/
theorem length_dashed_lt (block : CidrText) : block.dashed.length < 19 := by
  have octet : ∀ n : Fin 256, (Text.ofNat n).length ≤ 3 := by decide +kernel
  have bits : ∀ n : Fin 33, (Text.ofNat n).length ≤ 2 := by decide
  have a := octet block.cidr.address.a
  have b := octet block.cidr.address.b
  have c := octet block.cidr.address.c
  have d := octet block.cidr.address.d
  have n := bits block.cidr.length
  rw [dashed_eq]
  simp only [Address.render, List.intercalate, List.intersperse, List.flatten_cons,
    List.flatten_nil, List.append_nil, List.length_append, List.length_cons, List.length_nil]
  omega

theorem text_eq_of_dashed_eq {first second : CidrText} (equal : first.dashed = second.dashed) :
    first.text = second.text := by
  have noDash : ∀ block : CidrText, '-' ∉ block.text := fun block =>
    block.not_mem_text (by decide) (by decide) (by decide)
  exact Text.replace_inj (noDash first) (noDash second) equal

end CidrText

end AzureShell.Net
