/-
  Reading bytes as UTF-8.

  A character is a lead byte followed by up to three continuation bytes; the
  lead byte fixes their number and the bounds of the first of them, which is
  what rules out overlong forms, surrogates and values past U+10FFFF. Where the
  bytes break these rules, the longest start of a character that was read so
  far counts as one fault. `decode?` refuses a text with a fault,
  `decodeLossy` puts U+FFFD for each.
-/

namespace MetricIngest.Text.Utf8

/-- What a lead byte announces: the bits it carries itself, the number of
continuation bytes, and the bounds of the first of them. -/
structure Lead where
  bits : Nat
  more : Nat
  low : UInt8
  high : UInt8
deriving Repr, DecidableEq

/-- What the byte announces as the first byte of a character, if it can be one. -/
def lead? (b : UInt8) : Option Lead :=
  if b < 0x80 then some ⟨b.toNat, 0, 0x80, 0xBF⟩
  else if b < 0xC2 then none
  else if b < 0xE0 then some ⟨b.toNat % 0x20, 1, 0x80, 0xBF⟩
  else if b < 0xF0 then
    some ⟨b.toNat % 0x10, 2, if b = 0xE0 then 0xA0 else 0x80, if b = 0xED then 0x9F else 0xBF⟩
  else if b < 0xF5 then
    some ⟨b.toNat % 0x08, 3, if b = 0xF0 then 0x90 else 0x80, if b = 0xF4 then 0x8F else 0xBF⟩
  else none

/-- Read `more` continuation bytes, the first of them within the given bounds.
The character is missing when one of them is; the second part is what follows
the bytes that were read. -/
def continuation (bits : Nat) : (more : Nat) → (low high : UInt8) → List UInt8 →
    Option Char × List UInt8
  | 0, _, _, bytes => (some (Char.ofNat bits), bytes)
  | _ + 1, _, _, [] => (none, [])
  | more + 1, low, high, b :: bytes =>
    if low ≤ b ∧ b ≤ high then
      continuation (bits * 0x40 + b.toNat % 0x40) more 0x80 0xBF bytes
    else (none, b :: bytes)

theorem length_continuation_le (bits more : Nat) (low high : UInt8) (bytes : List UInt8) :
    (continuation bits more low high bytes).2.length ≤ bytes.length := by
  induction more generalizing bits low high bytes with
  | zero => simp [continuation]
  | succ more ih =>
    cases bytes with
    | nil => simp [continuation]
    | cons b bytes =>
      simp only [continuation]
      split
      · exact Nat.le_trans (ih _ _ _ _) (by simp)
      · simp

/-- Read one character that begins with byte `b`: the character, or nothing for
a fault, and the bytes after what was read. -/
def next (b : UInt8) (bytes : List UInt8) : Option Char × List UInt8 :=
  match lead? b with
  | none => (none, bytes)
  | some lead => continuation lead.bits lead.more lead.low lead.high bytes

theorem length_next_le (b : UInt8) (bytes : List UInt8) :
    (next b bytes).2.length ≤ bytes.length := by
  unfold next
  split
  · simp
  · exact length_continuation_le _ _ _ _ _

/-- The characters of the bytes, with nothing in place of each fault. -/
def decode : List UInt8 → List (Option Char)
  | [] => []
  | b :: bytes => (next b bytes).1 :: decode (next b bytes).2
termination_by bytes => bytes.length
decreasing_by
  have := length_next_le b bytes
  simp only [List.length_cons]
  omega

/-- The character that stands for bytes that are no text. -/
def replacement : Char := '\uFFFD'

/-- The characters of the bytes, U+FFFD for each fault. -/
def decodeLossy (bytes : List UInt8) : List Char :=
  (decode bytes).map fun c => c.getD replacement

/-- The characters of the bytes, if there is no fault. -/
def decode? (bytes : List UInt8) : Option (List Char) :=
  (decode bytes).mapM id

/-- The bytes of a string. -/
def encode (s : String) : List UInt8 :=
  s.toUTF8.toList

end MetricIngest.Text.Utf8
