/-
  A line feed at the end of a line does not matter.

  The line feed is a character of its own, whatever bytes stand before it, for it
  continues none that they begin. And line ends are not part of a line, so a line gives
  the same with the line feed that ends it as without.
-/
import MetricIngest.Line.Decoder

namespace MetricIngest

/-! ### The bytes of a line -/

namespace Text.Utf8

/-- The bounds of a continuation byte leave out the line feed. -/
theorem low_of_lead? {b : UInt8} {lead : Lead} (h : lead? b = some lead) :
    ¬ lead.low ≤ newline := by
  have h80 : ¬ (0x80 : UInt8) ≤ newline := by decide
  have h90 : ¬ (0x90 : UInt8) ≤ newline := by decide
  have hA0 : ¬ (0xA0 : UInt8) ≤ newline := by decide
  unfold lead? at h
  split at h
  · cases h
    exact h80
  · split at h
    · cases h
    · split at h
      · cases h
        exact h80
      · split at h
        · cases h
          dsimp only
          split
          · exact hA0
          · exact h80
        · split at h
          · cases h
            dsimp only
            split
            · exact h90
            · exact h80
          · cases h

/-- A line feed behind continuation bytes is left over. -/
theorem continuation_append_newline (bits more : Nat) {low high : UInt8} (hlow : ¬ low ≤ newline)
    (bytes : List UInt8) : continuation bits more low high (bytes ++ [newline]) =
      ((continuation bits more low high bytes).1,
        (continuation bits more low high bytes).2 ++ [newline]) := by
  induction more generalizing bits low high bytes with
  | zero => rfl
  | succ more ih =>
    cases bytes with
    | nil => simp [continuation, hlow]
    | cons b bytes =>
      simp only [List.cons_append, continuation]
      split
      · exact ih _ (by decide) _
      · rfl

theorem next_append_newline (b : UInt8) (bytes : List UInt8) :
    next b (bytes ++ [newline]) = ((next b bytes).1, (next b bytes).2 ++ [newline]) := by
  unfold next
  split
  · rfl
  · exact continuation_append_newline _ _ (low_of_lead? ‹_›) _

/-- **A line feed is a character of its own**, whatever stands before it. -/
theorem decode_append_newline (bytes : List UInt8) :
    decode (bytes ++ [newline]) = decode bytes ++ [some '\n'] := by
  induction bytes using decode.induct with
  | case1 =>
    rw [List.nil_append, decode, decode]
    have hnext : next newline [] = (some '\n', []) := by decide
    rw [hnext, decode, List.nil_append]
  | case2 b bytes ih =>
    rw [List.cons_append, decode, next_append_newline, decode, ih, List.cons_append]

theorem decodeLossy_append_newline (bytes : List UInt8) :
    decodeLossy (bytes ++ [newline]) = decodeLossy bytes ++ ['\n'] := by
  rw [decodeLossy, decode_append_newline, List.map_append]
  rfl

end Text.Utf8

/-! ### What a line gives -/

theorem Line.body_append_newline (cs : List Char) : body (cs ++ ['\n']) = body cs := by
  simp [body, Text.dropEndWhile]

namespace Decoder

variable (d : Decoder) (now : Timestamp)

/-- **A line gives the same** with the line feed that ends it. -/
theorem decodeBytes_append_newline (line : List UInt8) :
    d.decodeBytes now (line ++ [Text.newline]) = d.decodeBytes now line := by
  rw [decodeBytes, decodeBytes, Text.Utf8.decodeLossy_append_newline, decode, decode,
    Line.ofChars?, Line.ofChars?, Line.body_append_newline]

/-- The lines of an input give the same whether they are cut before or after their line
feeds. -/
theorem filterMap_readPieces (fails : Bool) (bytes : List UInt8) :
    (Text.readPieces fails bytes).filterMap (d.decodeBytes now) =
      (Text.readLines fails bytes).filterMap (d.decodeBytes now) := by
  rw [Text.readPieces, Text.readLines, List.filterMap_append, List.filterMap_append,
    List.filterMap_map]
  have hline : d.decodeBytes now ∘ (· ++ [Text.newline]) = d.decodeBytes now :=
    funext (d.decodeBytes_append_newline now)
  rw [hline]

end Decoder

end MetricIngest
