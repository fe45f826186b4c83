import Mathlib.Data.String.Basic

/-
This file proves that texts are ordered as their bytes are.

Texts are compared character by character, and that is the order in which types are kept and
written out. The bytes of a text are those of its characters one after the other, one to four bytes
for each. Two different characters differ in a byte that both have, and in the first such byte the
greater character has the greater one: the first byte tells how many there are, more for greater
characters, and among characters with equally many bytes these are the digits of the character, the
leading ones first. So neither character runs into what stands behind the other, and the order of
the first characters that differ is the order of the first bytes that differ.
-/

namespace ParamChain.Text

/-- The bytes of a text. -/
def bytes (text : String) : List UInt8 :=
  text.toUTF8.data.toList

theorem bytes_eq (text : String) : bytes text = text.toList.flatMap String.utf8EncodeChar := by
  have encoded : text.toByteArray = text.toList.utf8Encode := by
    rw [← String.toByteArray_ofList, String.ofList_toList]
  rw [bytes, String.toUTF8_eq_toByteArray, encoded, List.utf8Encode, List.toList_data_toByteArray]

/-! ### The first byte that differs -/

/-- At the first place where the two differ both have a byte, and the second has the greater one. -/
inductive PartsBelow : List UInt8 → List UInt8 → Prop
  | here {x y : UInt8} (below : x < y) (xs ys : List UInt8) : PartsBelow (x :: xs) (y :: ys)
  | later (x : UInt8) {xs ys : List UInt8} (parts : PartsBelow xs ys) :
      PartsBelow (x :: xs) (x :: ys)

/-- What stands behind the two does not matter. -/
theorem PartsBelow.append_lt {first second : List UInt8} (parts : PartsBelow first second)
    (behind behind' : List UInt8) : first ++ behind < second ++ behind' := by
  induction parts with
  | here below xs ys =>
    rw [List.cons_append, List.cons_append, List.cons_lt_cons_iff]
    exact Or.inl below
  | later x _ inductionHypothesis =>
    rw [List.cons_append, List.cons_append, List.cons_lt_cons_iff]
    exact Or.inr ⟨rfl, inductionHypothesis⟩

theorem ofNat_lt_ofNat {m n : Nat} (below : m < n) (byte : n < 256) :
    UInt8.ofNat m < UInt8.ofNat n := by
  rw [UInt8.lt_iff_toNat_lt, UInt8.toNat_ofNat_of_lt' (Nat.lt_trans below byte),
    UInt8.toNat_ofNat_of_lt' byte]
  exact below

/-- A number in front decides, and where it is the same what stands behind it does. -/
theorem partsBelow_cons {m n : Nat} {xs ys : List UInt8} (byte : n < 256)
    (first : m < n ∨ m = n ∧ PartsBelow xs ys) :
    PartsBelow (UInt8.ofNat m :: xs) (UInt8.ofNat n :: ys) := by
  rcases first with below | ⟨rfl, parts⟩
  · exact .here (ofNat_lt_ofNat below byte) xs ys
  · exact .later _ parts

/-! ### Bytes of characters -/

/-- The last `count` digits of a number to the base 64, each in a byte with the mark of a later
one. -/
def trailing : Nat → Nat → List UInt8
  | 0, _ => []
  | count + 1, n => UInt8.ofNat (n / 64 ^ count % 64 + 128) :: trailing count n

/-- The last digits of two numbers are ordered as the numbers that they make up. -/
theorem partsBelow_trailing {count m n : Nat} (below : m % 64 ^ count < n % 64 ^ count) :
    PartsBelow (trailing count m) (trailing count n) := by
  induction count with
  | zero => simp [Nat.mod_one] at below
  | succ count inductionHypothesis =>
    rw [Nat.mod_pow_succ, Nat.mod_pow_succ] at below
    have digit : n / 64 ^ count % 64 < 64 := Nat.mod_lt _ (by decide)
    refine partsBelow_cons (by omega) ?_
    rcases Nat.lt_trichotomy (m / 64 ^ count % 64) (n / 64 ^ count % 64) with less | same | more
    · exact Or.inl (Nat.add_lt_add_right less 128)
    · rw [same] at below ⊢
      exact Or.inr ⟨rfl, inductionHypothesis (Nat.lt_of_add_lt_add_right below)⟩
    · have outweighs :
          64 ^ count * (n / 64 ^ count % 64 + 1) ≤ 64 ^ count * (m / 64 ^ count % 64) :=
        Nat.mul_le_mul_left _ more
      have last : n % 64 ^ count < 64 ^ count := Nat.mod_lt _ (Nat.pow_pos (by decide))
      rw [Nat.mul_add, Nat.mul_one] at outweighs
      omega

/-- How many bytes follow the first one. -/
def trailingCount (n : Nat) : Nat :=
  if n ≤ 0x7f then 0 else if n ≤ 0x7ff then 1 else if n ≤ 0xffff then 2 else 3

/-- The mark by which a first byte tells how many follow it. -/
def mark : Nat → Nat
  | 0 => 0
  | 1 => 0xc0
  | 2 => 0xe0
  | _ => 0xf0

/-- The first byte has a mark and the leading digits. -/
def firstByte (n : Nat) : Nat :=
  n / 64 ^ trailingCount n + mark (trailingCount n)

theorem toNat_lt (c : Char) : c.toNat < 0x110000 := by
  rcases c.valid with low | ⟨-, high⟩
  · exact Nat.lt_trans low (by decide)
  · exact high

/-- The leading digits of a character fit into what the mark leaves of its first byte. -/
theorem utf8EncodeChar_eq (c : Char) :
    String.utf8EncodeChar c =
      UInt8.ofNat (firstByte c.toNat) :: trailing (trailingCount c.toNat) c.toNat := by
  have valid := toNat_lt c
  have unfolded : String.utf8EncodeChar c = _ := String.utf8EncodeChar.eq_1 c
  simp only [Char.toNat_val] at unfolded
  rw [unfolded, firstByte, trailingCount]
  split_ifs with one two three
  · simp [mark, trailing]
  · simp [mark, trailing, Nat.mod_eq_of_lt (show c.toNat / 64 < 32 by omega)]
  · simp [mark, trailing, Nat.mod_eq_of_lt (show c.toNat / 4096 < 16 by omega)]
  · simp [mark, trailing, Nat.mod_eq_of_lt (show c.toNat / 262144 < 8 by omega)]

theorem firstByte_lt {n : Nat} (valid : n < 0x110000) : firstByte n < 256 := by
  rw [firstByte, trailingCount]
  split_ifs with one two three <;> simp only [mark, Nat.reducePow] <;> omega

theorem trailingCount_le {m n : Nat} (below : m < n) : trailingCount m ≤ trailingCount n := by
  rw [trailingCount, trailingCount]
  split_ifs <;> omega

/-- A number with fewer bytes has a smaller first one. -/
theorem firstByte_lt_firstByte {m n : Nat} (fewer : trailingCount m < trailingCount n) :
    firstByte m < firstByte n := by
  rw [trailingCount, trailingCount] at fewer
  rw [firstByte, firstByte, trailingCount, trailingCount]
  split_ifs at fewer ⊢ <;> simp only [mark, Nat.reducePow] <;> omega

/-- A greater character has a greater byte where the two first differ. -/
theorem partsBelow_of_lt {c d : Char} (below : c < d) :
    PartsBelow (String.utf8EncodeChar c) (String.utf8EncodeChar d) := by
  have numbers : c.toNat < d.toNat := UInt32.lt_iff_toNat_lt.1 (Char.lt_def.1 below)
  rw [utf8EncodeChar_eq, utf8EncodeChar_eq]
  refine partsBelow_cons (firstByte_lt (toNat_lt d)) ?_
  rcases Nat.lt_or_eq_of_le (trailingCount_le numbers) with fewer | asMany
  · exact Or.inl (firstByte_lt_firstByte fewer)
  · rw [firstByte, firstByte, asMany]
    generalize trailingCount d.toNat = count
    rcases Nat.lt_or_eq_of_le (Nat.div_le_div_right (c := 64 ^ count) numbers.le) with less | same
    · exact Or.inl (Nat.add_lt_add_right less _)
    · refine Or.inr ⟨congrArg (· + mark count) same, partsBelow_trailing ?_⟩
      rw [← Nat.div_add_mod c.toNat (64 ^ count), ← Nat.div_add_mod d.toNat (64 ^ count), same]
        at numbers
      exact Nat.lt_of_add_lt_add_left numbers

/-! ### Bytes of texts -/

/-- The first characters that differ decide for the bytes as well. -/
theorem flatMap_lt {first second : List Char} (below : first < second) :
    first.flatMap String.utf8EncodeChar < second.flatMap String.utf8EncodeChar := by
  induction below with
  | nil =>
    rw [List.flatMap_nil, List.flatMap_cons, utf8EncodeChar_eq, List.cons_append]
    exact List.Lex.nil
  | rel less =>
    rw [List.flatMap_cons, List.flatMap_cons]
    exact (partsBelow_of_lt less).append_lt _ _
  | cons _ inductionHypothesis =>
    rw [List.flatMap_cons, List.flatMap_cons]
    exact List.append_left_lt inductionHypothesis

/-- Texts are ordered as their bytes are. -/
theorem bytes_le_iff {s t : String} : bytes s ≤ bytes t ↔ s ≤ t := by
  have mono {s t : String} (below : s < t) : bytes s < bytes t := by
    rw [bytes_eq, bytes_eq]
    exact flatMap_lt (String.lt_iff_toList_lt.1 below)
  constructor
  · intro ordered
    exact le_of_not_gt fun above => ordered (mono above)
  · intro ordered above
    rcases lt_or_eq_of_le ordered with below | rfl
    · exact List.lt_asymm (mono below) above
    · exact List.lt_irrefl _ above

end ParamChain.Text
