/-
  The bytes that are a text are the bytes of one.

  A lead byte and the continuation bytes behind it stand for a character just when they are its
  bytes (`next_eq_some_iff`); the bounds of the first continuation byte are what makes
  this hold in both directions. So bytes read without a fault are the bytes of the text that was
  read, and no others are (`decode?_eq_some_iff`).
-/
import MetricIngest.Text.Utf8
import Mathlib.Data.Char
import Mathlib.Data.UInt

namespace MetricIngest.Text.Utf8

variable {b : UInt8} {bits : Nat} {low high : UInt8} {bytes rest : List UInt8} {c : Char}
  {cs : List Char}

/-! ### The bytes of a text -/

theorem byteArray_toList_loop (bytes : ByteArray) (i : Nat) (acc : List UInt8) :
    ByteArray.toList.loop bytes i acc = acc.reverse ++ bytes.data.toList.drop i := by
  fun_induction ByteArray.toList.loop bytes i acc with
  | case1 i acc hlt ih =>
    have hlength : i < bytes.data.toList.length := by simpa using hlt
    have hget : bytes.get! i = bytes.data.toList[i] := by
      cases bytes
      simp only [ByteArray.get!, Array.getElem_toList]
      exact getElem!_pos _ i _
    rw [ih, List.drop_eq_getElem_cons hlength, hget]
    simp
  | case2 i acc hlt =>
    rw [List.drop_eq_nil_of_le (by simpa using Nat.le_of_not_lt hlt), List.append_nil]

theorem encode_ofList (cs : List Char) :
    encode (String.ofList cs) = cs.flatMap String.utf8EncodeChar := by
  rw [encode, String.toUTF8_eq_toByteArray, String.toByteArray_ofList, ByteArray.toList,
    byteArray_toList_loop]
  simp [List.utf8Encode]

theorem encode_eq (s : String) : encode s = s.toList.flatMap String.utf8EncodeChar := by
  rw [← encode_ofList, String.ofList_toList]

/-! ### Lead bytes and continuation bytes -/

theorem continuation_succ_eq_some_iff {more : Nat} :
    continuation bits (more + 1) low high bytes = (some c, rest) ↔
      ∃ b tail, bytes = b :: tail ∧ low.toNat ≤ b.toNat ∧ b.toNat ≤ high.toNat ∧
        continuation (bits * 0x40 + b.toNat % 0x40) more 0x80 0xBF tail = (some c, rest) := by
  cases bytes with
  | nil => simp [continuation]
  | cons b tail =>
    simp only [continuation, UInt8.le_iff_toNat_le]
    split
    · simp_all
    · simp_all

theorem continuation_zero_eq_some_iff :
    continuation bits 0 low high bytes = (some c, rest) ↔ Char.ofNat bits = c ∧ bytes = rest := by
  simp [continuation]

/-- One byte. -/
theorem next_one (h : b.toNat < 0x80) :
    next b bytes = (some c, rest) ↔ Char.ofNat b.toNat = c ∧ bytes = rest := by
  have hlead : lead? b = some ⟨b.toNat, 0, 0x80, 0xBF⟩ := by
    simp only [lead?, UInt8.lt_iff_toNat_lt, UInt8.reduceToNat]
    rw [if_pos h]
  simp only [next, hlead, continuation_zero_eq_some_iff]

theorem next_two (h : 0xC2 ≤ b.toNat ∧ b.toNat < 0xE0) :
    next b bytes = (some c, rest) ↔ ∃ b₁, bytes = b₁ :: rest ∧ 0x80 ≤ b₁.toNat ∧ b₁.toNat ≤ 0xBF ∧
      Char.ofNat (b.toNat % 0x20 * 0x40 + b₁.toNat % 0x40) = c := by
  have hlead : lead? b = some ⟨b.toNat % 0x20, 1, 0x80, 0xBF⟩ := by
    simp only [lead?, UInt8.lt_iff_toNat_lt, UInt8.reduceToNat]
    rw [if_neg (by omega), if_neg (by omega), if_pos (by omega)]
  simp only [next, hlead, continuation_succ_eq_some_iff, continuation_zero_eq_some_iff]
  constructor
  · rintro ⟨b₁, _, rfl, hlow, hhigh, hc, rfl⟩
    exact ⟨b₁, rfl, hlow, hhigh, hc⟩
  · rintro ⟨b₁, rfl, hlow, hhigh, hc⟩
    exact ⟨b₁, _, rfl, hlow, hhigh, hc, rfl⟩

theorem next_three (h : 0xE0 ≤ b.toNat ∧ b.toNat < 0xF0) :
    next b bytes = (some c, rest) ↔ ∃ b₁ b₂, bytes = b₁ :: b₂ :: rest ∧
      (0x80 ≤ b₁.toNat ∧ b₁.toNat ≤ 0xBF ∧ (b.toNat = 0xE0 → 0xA0 ≤ b₁.toNat) ∧
        (b.toNat = 0xED → b₁.toNat ≤ 0x9F)) ∧
      (0x80 ≤ b₂.toNat ∧ b₂.toNat ≤ 0xBF) ∧
      Char.ofNat ((b.toNat % 0x10 * 0x40 + b₁.toNat % 0x40) * 0x40 + b₂.toNat % 0x40) = c := by
  obtain ⟨low, high, hlead, hbounds⟩ : ∃ low high, lead? b = some ⟨b.toNat % 0x10, 2, low, high⟩ ∧
      ∀ n, low.toNat ≤ n ∧ n ≤ high.toNat ↔ 0x80 ≤ n ∧ n ≤ 0xBF ∧ (b.toNat = 0xE0 → 0xA0 ≤ n) ∧
        (b.toNat = 0xED → n ≤ 0x9F) := by
    refine ⟨if b = 0xE0 then 0xA0 else 0x80, if b = 0xED then 0x9F else 0xBF, ?_, fun n => ?_⟩
    · simp only [lead?, UInt8.lt_iff_toNat_lt, UInt8.reduceToNat]
      rw [if_neg (by omega), if_neg (by omega), if_neg (by omega), if_pos (by omega)]
    · simp only [← UInt8.toNat_inj, UInt8.reduceToNat]
      split <;> split <;> simp only [UInt8.reduceToNat] <;> omega
  simp only [next, hlead, continuation_succ_eq_some_iff, continuation_zero_eq_some_iff,
    UInt8.reduceToNat]
  constructor
  · rintro ⟨b₁, _, rfl, hlow, hhigh, b₂, _, rfl, hlow', hhigh', hc, rfl⟩
    exact ⟨b₁, b₂, rfl, (hbounds _).mp ⟨hlow, hhigh⟩, ⟨hlow', hhigh'⟩, hc⟩
  · rintro ⟨b₁, b₂, rfl, h₁, ⟨hlow', hhigh'⟩, hc⟩
    obtain ⟨hlow, hhigh⟩ := (hbounds _).mpr h₁
    exact ⟨b₁, _, rfl, hlow, hhigh, b₂, _, rfl, hlow', hhigh', hc, rfl⟩

theorem next_four (h : 0xF0 ≤ b.toNat ∧ b.toNat < 0xF5) :
    next b bytes = (some c, rest) ↔ ∃ b₁ b₂ b₃, bytes = b₁ :: b₂ :: b₃ :: rest ∧
      (0x80 ≤ b₁.toNat ∧ b₁.toNat ≤ 0xBF ∧ (b.toNat = 0xF0 → 0x90 ≤ b₁.toNat) ∧
        (b.toNat = 0xF4 → b₁.toNat ≤ 0x8F)) ∧
      (0x80 ≤ b₂.toNat ∧ b₂.toNat ≤ 0xBF) ∧ (0x80 ≤ b₃.toNat ∧ b₃.toNat ≤ 0xBF) ∧
      Char.ofNat (((b.toNat % 0x08 * 0x40 + b₁.toNat % 0x40) * 0x40 + b₂.toNat % 0x40) * 0x40
        + b₃.toNat % 0x40) = c := by
  obtain ⟨low, high, hlead, hbounds⟩ : ∃ low high, lead? b = some ⟨b.toNat % 0x08, 3, low, high⟩ ∧
      ∀ n, low.toNat ≤ n ∧ n ≤ high.toNat ↔ 0x80 ≤ n ∧ n ≤ 0xBF ∧ (b.toNat = 0xF0 → 0x90 ≤ n) ∧
        (b.toNat = 0xF4 → n ≤ 0x8F) := by
    refine ⟨if b = 0xF0 then 0x90 else 0x80, if b = 0xF4 then 0x8F else 0xBF, ?_, fun n => ?_⟩
    · simp only [lead?, UInt8.lt_iff_toNat_lt, UInt8.reduceToNat]
      rw [if_neg (by omega), if_neg (by omega), if_neg (by omega), if_neg (by omega),
        if_pos (by omega)]
    · simp only [← UInt8.toNat_inj, UInt8.reduceToNat]
      split <;> split <;> simp only [UInt8.reduceToNat] <;> omega
  simp only [next, hlead, continuation_succ_eq_some_iff, continuation_zero_eq_some_iff,
    UInt8.reduceToNat]
  constructor
  · rintro ⟨b₁, _, rfl, hlow, hhigh, b₂, _, rfl, hlow₂, hhigh₂, b₃, _, rfl, hlow₃, hhigh₃, hc, rfl⟩
    exact ⟨b₁, b₂, b₃, rfl, (hbounds _).mp ⟨hlow, hhigh⟩, ⟨hlow₂, hhigh₂⟩, ⟨hlow₃, hhigh₃⟩, hc⟩
  · rintro ⟨b₁, b₂, b₃, rfl, h₁, ⟨hlow₂, hhigh₂⟩, ⟨hlow₃, hhigh₃⟩, hc⟩
    obtain ⟨hlow, hhigh⟩ := (hbounds _).mpr h₁
    exact ⟨b₁, _, rfl, hlow, hhigh, b₂, _, rfl, hlow₂, hhigh₂, b₃, _, rfl, hlow₃, hhigh₃, hc, rfl⟩

/-- Other bytes begin no character. -/
theorem next_none (h : (0x80 ≤ b.toNat ∧ b.toNat < 0xC2) ∨ 0xF5 ≤ b.toNat) :
    next b bytes = (none, bytes) := by
  have hlead : lead? b = none := by
    simp only [lead?, UInt8.lt_iff_toNat_lt, UInt8.reduceToNat]
    rw [if_neg (by omega)]
    obtain h | h := h
    · rw [if_pos h.2]
    · rw [if_neg (by omega), if_neg (by omega), if_neg (by omega), if_neg (by omega)]
  simp only [next, hlead]

/-! ### Characters -/

/-- Numbers that are no surrogates are those of characters. -/
theorem toNat_ofNat {n : Nat} (h : n < 0xD800 ∨ 0xDFFF < n ∧ n < 0x110000) :
    (Char.ofNat n).val.toNat = n := by
  rw [Char.ofNat, dif_pos h]
  rfl

theorem toNat_byte {n : Nat} (h : n < 256) : (UInt8.ofNat n).toNat = n :=
  UInt8.toNat_ofNat_of_lt' h

/-- **What is read is a character** whose bytes these are. -/
theorem eq_utf8EncodeChar_of_next (h : next b bytes = (some c, rest)) :
    b :: bytes = String.utf8EncodeChar c ++ rest := by
  have hb := b.toNat_lt
  by_cases hone : b.toNat < 0x80
  · obtain ⟨rfl, rfl⟩ := (next_one hone).mp h
    simp only [String.utf8EncodeChar, toNat_ofNat (Or.inl (show b.toNat < 0xD800 by omega))]
    rw [if_pos (by omega), UInt8.ofNat_toNat, List.singleton_append]
  by_cases htwo : 0xC2 ≤ b.toNat ∧ b.toNat < 0xE0
  · obtain ⟨b₁, rfl, hlow, hhigh, rfl⟩ := (next_two htwo).mp h
    rw [String.utf8EncodeChar, toNat_ofNat (by omega)]
    rw [if_neg (by omega), if_pos (by omega)]
    simp only [List.cons_append, List.nil_append, List.cons.injEq, ← UInt8.toNat_inj,
      UInt8.toNat_ofNat', and_true]
    omega
  by_cases hthree : 0xE0 ≤ b.toNat ∧ b.toNat < 0xF0
  · obtain ⟨b₁, b₂, rfl, h₁, h₂, rfl⟩ := (next_three hthree).mp h
    rw [String.utf8EncodeChar, toNat_ofNat (by omega)]
    rw [if_neg (by omega), if_neg (by omega), if_pos (by omega)]
    simp only [List.cons_append, List.nil_append, List.cons.injEq, ← UInt8.toNat_inj,
      UInt8.toNat_ofNat', and_true]
    omega
  by_cases hfour : 0xF0 ≤ b.toNat ∧ b.toNat < 0xF5
  · obtain ⟨b₁, b₂, b₃, rfl, h₁, h₂, h₃, rfl⟩ := (next_four hfour).mp h
    rw [String.utf8EncodeChar, toNat_ofNat (by omega)]
    rw [if_neg (by omega), if_neg (by omega), if_neg (by omega)]
    simp only [List.cons_append, List.nil_append, List.cons.injEq, ← UInt8.toNat_inj,
      UInt8.toNat_ofNat', and_true]
    omega
  · rw [next_none (by omega)] at h
    cases h

/-- **The bytes of a character** are read as it. -/
theorem next_of_eq_utf8EncodeChar (h : b :: bytes = String.utf8EncodeChar c ++ rest) :
    next b bytes = (some c, rest) := by
  have hvalid : c.val.toNat < 0xD800 ∨ 0xDFFF < c.val.toNat ∧ c.val.toNat < 0x110000 := c.valid
  have hc : Char.ofNat c.val.toNat = c := Char.ofNat_toNat c
  rw [String.utf8EncodeChar] at h
  generalize c.val.toNat = n at h hc hvalid
  subst hc
  split at h
  · obtain ⟨rfl, rfl⟩ := List.cons.inj h
    have hb : (UInt8.ofNat n).toNat = n := toNat_byte (by omega)
    rw [next_one (by omega), hb]
    exact ⟨rfl, rfl⟩
  split at h
  · obtain ⟨rfl, rfl⟩ := List.cons.inj h
    have hb : (UInt8.ofNat (n / 64 % 32 + 192)).toNat = _ := toNat_byte (by omega)
    have hb₁ : (UInt8.ofNat (n % 64 + 128)).toNat = _ := toNat_byte (by omega)
    rw [next_two (by omega)]
    refine ⟨_, rfl, by omega, by omega, congrArg Char.ofNat ?_⟩
    omega
  split at h
  · obtain ⟨rfl, rfl⟩ := List.cons.inj h
    have hb : (UInt8.ofNat (n / 4096 % 16 + 224)).toNat = _ := toNat_byte (by omega)
    have hb₁ : (UInt8.ofNat (n / 64 % 64 + 128)).toNat = _ := toNat_byte (by omega)
    have hb₂ : (UInt8.ofNat (n % 64 + 128)).toNat = _ := toNat_byte (by omega)
    rw [next_three (by omega)]
    refine ⟨_, _, rfl, by omega, by omega, congrArg Char.ofNat ?_⟩
    omega
  · obtain ⟨rfl, rfl⟩ := List.cons.inj h
    have hb : (UInt8.ofNat (n / 262144 % 8 + 240)).toNat = _ := toNat_byte (by omega)
    have hb₁ : (UInt8.ofNat (n / 4096 % 64 + 128)).toNat = _ := toNat_byte (by omega)
    have hb₂ : (UInt8.ofNat (n / 64 % 64 + 128)).toNat = _ := toNat_byte (by omega)
    have hb₃ : (UInt8.ofNat (n % 64 + 128)).toNat = _ := toNat_byte (by omega)
    rw [next_four (by omega)]
    refine ⟨_, _, _, rfl, by omega, by omega, by omega, congrArg Char.ofNat ?_⟩
    omega

theorem next_eq_some_iff :
    next b bytes = (some c, rest) ↔ b :: bytes = String.utf8EncodeChar c ++ rest :=
  ⟨eq_utf8EncodeChar_of_next, next_of_eq_utf8EncodeChar⟩

/-! ### Texts -/

theorem decode?_nil : decode? [] = some [] := by
  simp [decode?, decode]

/-- Characters are read one after the other. -/
theorem decode?_cons_eq_some_iff : decode? (b :: bytes) = some cs ↔
    ∃ c rest cs', next b bytes = (some c, rest) ∧ decode? rest = some cs' ∧ cs = c :: cs' := by
  simp only [decode?, decode, List.mapM_cons]
  obtain ⟨first, rest⟩ := next b bytes
  cases first with
  | none => simp
  | some c =>
    simp only [id_eq, Option.bind_eq_bind, Option.bind_some, Option.bind_eq_some_iff]
    constructor
    · rintro ⟨cs', hrest, heq⟩
      exact ⟨c, rest, cs', rfl, hrest, (Option.some.inj heq).symm⟩
    · rintro ⟨c', rest', cs', heq, hrest, rfl⟩
      cases heq
      exact ⟨cs', hrest, rfl⟩

/-- **What is read without a fault** is the text whose bytes these are. -/
theorem decode?_eq_some_iff : decode? bytes = some cs ↔ encode (String.ofList cs) = bytes := by
  rw [encode_ofList]
  induction cs generalizing bytes with
  | nil =>
    cases bytes with
    | nil => simp [decode?_nil]
    | cons b bytes => simp [decode?_cons_eq_some_iff]
  | cons c cs ih =>
    rw [List.flatMap_cons]
    cases bytes with
    | nil => simp [decode?_nil, String.utf8EncodeChar_ne_nil]
    | cons b bytes =>
      simp only [decode?_cons_eq_some_iff, next_eq_some_iff]
      constructor
      · rintro ⟨c', rest, cs', hbytes, hrest, heq⟩
        cases heq
        rw [hbytes, ih.mp hrest]
      · intro h
        exact ⟨c, _, cs, h.symm, ih.mpr rfl, rfl⟩

/-! ### Bytes that are characters -/

/-- **A byte below `0x80`** stands in no longer character. -/
theorem utf8EncodeChar_of_mem (hmem : b ∈ String.utf8EncodeChar c) (h : b.toNat < 0x80) :
    String.utf8EncodeChar c = [b] := by
  rw [String.utf8EncodeChar] at hmem ⊢
  split at hmem
  · rename_i hone
    rw [if_pos hone, List.mem_singleton.mp hmem]
  · -- All bytes of a longer character carry a mark.
    have hall : ∀ n m : Nat, 0x80 ≤ m → n + m < 0x100 → b ≠ UInt8.ofNat (n + m) := by
      rintro n m hm hlt rfl
      rw [toNat_byte hlt] at h
      omega
    exfalso
    split at hmem
    · simp only [List.mem_cons, List.not_mem_nil, or_false] at hmem
      obtain hb | hb := hmem <;> exact hall _ _ (by omega) (by omega) hb
    split at hmem
    all_goals
      simp only [List.mem_cons, List.not_mem_nil, or_false] at hmem
    · obtain hb | hb | hb := hmem <;> exact hall _ _ (by omega) (by omega) hb
    · obtain hb | hb | hb | hb := hmem <;> exact hall _ _ (by omega) (by omega) hb

/-- It stands for a character of its own. -/
theorem utf8EncodeChar_eq_singleton_iff (hb : b.toNat < 0x80) :
    String.utf8EncodeChar c = [b] ↔ c = Char.ofNat b.toNat := by
  have hnext : next b [] = (some c, []) ↔ [b] = String.utf8EncodeChar c ++ [] := next_eq_some_iff
  rw [next_one hb, List.append_nil] at hnext
  rw [eq_comm, ← hnext, eq_comm]
  exact and_iff_left rfl

/-- The byte of a character below `0x80`. -/
def byteOf (c : Char) : UInt8 := UInt8.ofNat c.toNat

theorem toNat_byteOf (h : c.toNat < 0x80) : (byteOf c).toNat = c.toNat := toNat_byte (by omega)

/-- **A text of characters below `0x80`** has a byte for each. -/
theorem encode_of_forall_lt (h : ∀ c ∈ cs, c.toNat < 0x80) :
    encode (String.ofList cs) = cs.map byteOf := by
  rw [encode_ofList, List.map_eq_flatMap]
  refine List.flatMap_congr fun c hc => ?_
  have hbyte := toNat_byteOf (h c hc)
  rw [utf8EncodeChar_eq_singleton_iff (hbyte.symm ▸ h c hc), hbyte, Char.ofNat_toNat]

theorem mem_encode_iff {s : String} (hb : b.toNat < 0x80) :
    b ∈ encode s ↔ Char.ofNat b.toNat ∈ s.toList := by
  rw [encode_eq, List.mem_flatMap]
  constructor
  · rintro ⟨c, hc, hmem⟩
    exact (utf8EncodeChar_eq_singleton_iff hb).mp (utf8EncodeChar_of_mem hmem hb) ▸ hc
  · intro hc
    refine ⟨_, hc, ?_⟩
    rw [(utf8EncodeChar_eq_singleton_iff hb).mpr rfl]
    exact List.mem_singleton_self b

/-- **A text whose bytes end in a byte below `0x80`** ends in its character. -/
theorem encode_eq_append_iff (hb : b.toNat < 0x80) : encode (String.ofList cs) = bytes ++ [b] ↔
    ∃ cs', cs = cs' ++ [Char.ofNat b.toNat] ∧ encode (String.ofList cs') = bytes := by
  simp only [encode_ofList]
  constructor
  · intro h
    obtain rfl | ⟨cs', c, rfl⟩ := List.eq_nil_or_concat cs
    · simp at h
    · rw [List.concat_eq_append, List.flatMap_append, List.flatMap_singleton] at h
      have hlast : b ∈ String.utf8EncodeChar c := by
        have hlast := congrArg List.getLast? h
        rw [List.getLast?_concat, List.getLast?_append_of_ne_nil _ String.utf8EncodeChar_ne_nil]
          at hlast
        exact List.mem_of_getLast? hlast
      have hsingle := utf8EncodeChar_of_mem hlast hb
      rw [hsingle] at h
      exact ⟨cs', by rw [List.concat_eq_append, (utf8EncodeChar_eq_singleton_iff hb).mp hsingle],
        List.append_cancel_right h⟩
  · rintro ⟨cs', rfl, rfl⟩
    rw [List.flatMap_append, List.flatMap_singleton, (utf8EncodeChar_eq_singleton_iff hb).mpr rfl]

theorem decode?_append_byte (hb : b.toNat < 0x80) (bytes : List UInt8) :
    decode? (bytes ++ [b]) = (decode? bytes).map (· ++ [Char.ofNat b.toNat]) := by
  refine Option.ext fun cs => ?_
  simp only [decode?_eq_some_iff, encode_eq_append_iff hb, Option.map_eq_some_iff]
  exact exists_congr fun cs' => by rw [and_comm, eq_comm (a := cs)]

end MetricIngest.Text.Utf8
