/-
  Cutting bytes into lines.

  A line ends at a line feed, which is not part of it. What follows the last
  line feed is a line of its own unless it is empty, or reading breaks off after it
  with a failure. `readLines_append_newline` says that a line feed ends a line
  whatever follows.
-/

namespace MetricIngest.Text

/-- The byte that ends a line. -/
def newline : UInt8 := 0x0A

/-- The lines of the bytes and the rest after the last line feed. -/
def cutLines : List UInt8 → List (List UInt8) × List UInt8
  | [] => ([], [])
  | b :: bytes =>
    let (lines, rest) := cutLines bytes
    if b = newline then ([] :: lines, rest)
    else
      match lines with
      | [] => ([], b :: rest)
      | line :: lines => ((b :: line) :: lines, rest)

/-- The lines of the bytes that one gets to read: if reading fails after them, a rest that
no line feed ends is none of them. -/
def readLines (fails : Bool) (bytes : List UInt8) : List (List UInt8) :=
  (cutLines bytes).1 ++ (if fails ∨ (cutLines bytes).2 = [] then [] else [(cutLines bytes).2])

/-- The lines of the bytes, with a rest that no line feed ends as the last one. -/
def lines (bytes : List UInt8) : List (List UInt8) := readLines false bytes

/-- The lines that one gets to read, each with the line feed that ends it, if one does. -/
def readPieces (fails : Bool) (bytes : List UInt8) : List (List UInt8) :=
  (cutLines bytes).1.map (· ++ [newline])
    ++ (if fails ∨ (cutLines bytes).2 = [] then [] else [(cutLines bytes).2])

theorem cutLines_append_newline {line : List UInt8} (h : newline ∉ line) (bytes : List UInt8) :
    cutLines (line ++ newline :: bytes) = (line :: (cutLines bytes).1, (cutLines bytes).2) := by
  induction line with
  | nil => simp [cutLines]
  | cons b line ih =>
    simp only [List.mem_cons, not_or] at h
    simp [cutLines, ih h.2, Ne.symm h.1]

theorem readLines_append_newline (fails : Bool) {line : List UInt8} (h : newline ∉ line)
    (bytes : List UInt8) :
    readLines fails (line ++ newline :: bytes) = line :: readLines fails bytes := by
  simp [readLines, cutLines_append_newline h]

/-- As many lines are cut with their line feeds as without. -/
theorem length_readPieces (fails : Bool) (bytes : List UInt8) :
    (readPieces fails bytes).length = (readLines fails bytes).length := by
  simp [readPieces, readLines]

theorem cutLines_of_notMem {bytes : List UInt8} (h : newline ∉ bytes) :
    cutLines bytes = ([], bytes) := by
  induction bytes with
  | nil => rfl
  | cons b bytes ih =>
    simp only [List.mem_cons, not_or] at h
    simp [cutLines, ih h.2, Ne.symm h.1]

/-- Bytes without a line feed are a single line, or none. -/
theorem readLines_of_notMem (fails : Bool) {bytes : List UInt8} (h : newline ∉ bytes) :
    readLines fails bytes = if fails ∨ bytes = [] then [] else [bytes] := by
  simp [readLines, cutLines_of_notMem h]

end MetricIngest.Text
