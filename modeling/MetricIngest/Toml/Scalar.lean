/-
  Reading the parts of a TOML text that hold no other values: blanks, comments,
  strings, numbers, dates and times.

  A reader gives what it read and the rest of the text, or nothing when the text
  does not begin with what it reads.
-/
import MetricIngest.Number.Numeral
import MetricIngest.Text.Split
import MetricIngest.Toml.Value
import MetricIngest.Unicode.CodePoints

namespace MetricIngest.Toml

/-- A reader of the beginning of a text. -/
abbrev Reader (α : Type) := List Char → Option (α × List Char)

/-- Read pieces until `stop` finds the end, with what the end holds. The number
of pieces is bounded. -/
def piecesUntil {α β : Type} (stop : Reader β) (piece : Reader α) :
    Nat → Reader (List α × β)
  | 0, _ => none
  | n + 1, cs =>
    match stop cs with
    | some (last, rest) => some (([], last), rest)
    | none =>
      match piece cs with
      | none => none
      | some (a, rest) =>
        (piecesUntil stop piece n rest).map fun ((as, last), rest) => ((a :: as, last), rest)

/-! ### Blanks and comments -/

/-- Whether a character is a blank within a line. -/
def isBlank (c : Char) : Bool := c = ' ' || c = '\t'

/-- Whether a character may stand in a comment or a string: no control other
than the tab. -/
def isPlain (c : Char) : Bool := c = '\t' || (0x20 ≤ c.toNat && c.toNat ≠ 0x7F)

/-- The text after its leading blanks. -/
def skipBlanks (cs : List Char) : List Char := cs.dropWhile isBlank

/-- The text after a line break. -/
def afterBreak? : List Char → Option (List Char)
  | '\n' :: cs => some cs
  | '\r' :: '\n' :: cs => some cs
  | _ => none

/-- The text after a comment, if there is one here. -/
def skipComment : List Char → List Char
  | '#' :: cs => cs.dropWhile isPlain
  | cs => cs

/-- The text of the next line, when nothing but blanks and a comment is left of
this one. -/
def afterLine? (cs : List Char) : Option (List Char) :=
  match skipComment (skipBlanks cs) with
  | [] => some []
  | rest => afterBreak? rest

/-- The text after blanks and line breaks. -/
def skipSpace : List Char → List Char
  | ' ' :: cs => skipSpace cs
  | '\t' :: cs => skipSpace cs
  | '\n' :: cs => skipSpace cs
  | '\r' :: '\n' :: cs => skipSpace cs
  | cs => cs

/-- The text after blanks, line breaks and comments, of which each ends its line. -/
def skipFiller : Nat → List Char → Option (List Char)
  | 0, _ => none
  | n + 1, cs =>
    match skipSpace cs with
    | '#' :: rest => (afterLine? ('#' :: rest)).bind (skipFiller n)
    | rest => some rest

/-! ### Strings -/

/-- The scalar value of a number of hexadecimal digits. -/
def scalar (count : Nat) : Reader Char := fun cs =>
  let digits := cs.take count
  if digits.length = count ∧ digits.all Char.isHexDigit then
    let n := digits.foldl (fun n c => n * 16 + (Unicode.CodePoints.hexDigit? c).getD 0) 0
    if h : n.isValidChar then some (⟨n.toUInt32, by
        have hlt : n < UInt32.size := by
          rcases h with h | h
          · exact Nat.lt_trans h (by decide)
          · exact Nat.lt_trans h.2 (by decide)
        simpa [UInt32.isValidChar, Nat.toUInt32, UInt32.toNat_ofNat_of_lt' hlt] using h⟩,
      cs.drop count)
    else none
  else none

/-- What an escape stands for, read after its backslash. -/
def escape : Reader Char
  | 'b' :: cs => some ('\x08', cs)
  | 't' :: cs => some ('\t', cs)
  | 'n' :: cs => some ('\n', cs)
  | 'f' :: cs => some ('\x0C', cs)
  | 'r' :: cs => some ('\r', cs)
  | '"' :: cs => some ('"', cs)
  | '\\' :: cs => some ('\\', cs)
  | 'u' :: cs => scalar 4 cs
  | 'U' :: cs => scalar 8 cs
  | _ => none

/-- A piece of a string between double quotes. -/
def basicPiece : Reader (List Char)
  | '\\' :: cs => (escape cs).map fun (c, rest) => ([c], rest)
  | c :: cs => if isPlain c then some ([c], cs) else none
  | [] => none

/-- A piece of a string between single quotes. -/
def literalPiece : Reader (List Char)
  | c :: cs => if isPlain c then some ([c], cs) else none
  | [] => none

/-- A piece of a string over several lines. A line break is a line feed; after a
backslash it is nothing, together with all blanks and line breaks around it. -/
def longPiece (piece : Reader (List Char)) (joins : Bool) : Reader (List Char) := fun cs =>
  match afterBreak? cs with
  | some rest => some (['\n'], rest)
  | none =>
    match cs with
    | '\\' :: rest =>
      match (if joins then afterBreak? (skipBlanks rest) else none) with
      | some rest => some ([], skipSpace rest)
      | none => piece cs
    | _ => piece cs

/-- The end of a string: its quote. -/
def quoteEnd (quote : Char) : Reader (List Char)
  | c :: cs => if c = quote then some ([], cs) else none
  | [] => none

/-- The end of a string over several lines: three quotes, before which up to two
more belong to the string. -/
def longEnd (quote : Char) : Reader (List Char) := fun cs =>
  let run := (cs.takeWhile (· = quote)).length
  if 3 ≤ run then
    let extra := min (run - 3) 2
    some (List.replicate extra quote, cs.drop (extra + 3))
  else none

/-- The text of pieces up to an end. -/
def stringBody (stop piece : Reader (List Char)) : Reader String := fun cs =>
  (piecesUntil stop piece (cs.length + 1) cs).map fun ((parts, last), rest) =>
    (String.ofList (parts.flatten ++ last), rest)

/-- A string on one line. -/
def shortString : Reader String
  | '"' :: cs => stringBody (quoteEnd '"') basicPiece cs
  | '\'' :: cs => stringBody (quoteEnd '\'') literalPiece cs
  | _ => none

/-- The text after a line break that is the first thing in it. -/
def dropBreak (cs : List Char) : List Char := (afterBreak? cs).getD cs

/-- A string of either kind. -/
def string : Reader String
  | '"' :: '"' :: '"' :: cs => stringBody (longEnd '"') (longPiece basicPiece true) (dropBreak cs)
  | '\'' :: '\'' :: '\'' :: cs =>
    stringBody (longEnd '\'') (longPiece literalPiece false) (dropBreak cs)
  | cs => shortString cs

/-! ### Numbers -/

/-- A run of digits, with single underscores between them. -/
def digitRun (isDigit : Char → Bool) : Reader (List Char) := fun cs =>
  let isPart (c : Char) : Bool := isDigit c || c = '_'
  let parts := Text.pieces '_' (cs.takeWhile isPart)
  if parts.any List.isEmpty then none else some (parts.flatten, cs.dropWhile isPart)

/-- Digits in front of which no needless zero stands. -/
def wholeRun : Reader (List Char) := fun cs =>
  match digitRun Numeral.isDigit cs with
  | some ('0' :: _ :: _, _) => none
  | r => r

/-- A sign, as it is written. -/
def sign : List Char → List Char × List Char
  | '+' :: cs => (['+'], cs)
  | '-' :: cs => (['-'], cs)
  | cs => ([], cs)

/-- The exponent of a number, as it is written without underscores. -/
def exponent : Reader (List Char)
  | c :: cs =>
    if c = 'e' ∨ c = 'E' then
      let (mark, rest) := sign cs
      (digitRun Numeral.isDigit rest).map fun (digits, rest) => ('e' :: mark ++ digits, rest)
    else none
  | [] => none

/-- What follows the whole part of a number that is not whole. -/
def fraction : Reader (List Char)
  | '.' :: cs =>
    match digitRun Numeral.isDigit cs with
    | none => none
    | some (digits, rest) =>
      match rest with
      | 'e' :: _ | 'E' :: _ =>
        (exponent rest).map fun (e, rest) => ('.' :: digits ++ e, rest)
      | _ => some ('.' :: digits, rest)
  | cs => exponent cs

/-- The digits of a base that a letter names. -/
def base? : Char → Option (Nat × (Char → Bool))
  | 'x' => some (16, Char.isHexDigit)
  | 'o' => some (8, fun c => '0' ≤ c && c ≤ '7')
  | 'b' => some (2, fun c => c = '0' || c = '1')
  | _ => none

/-- A whole number, if a signed 64-bit word holds it. -/
def word (n : Int) : Option Value :=
  if -0x8000000000000000 ≤ n ∧ n < 0x8000000000000000 then some (.integer n) else none

/-- A number that is not whole, from its text. One that is too large to be
finite is none. -/
def floatOf (cs : List Char) : Option Value :=
  match Numeral.general? cs with
  | none => none
  | some x => if x = .infinity false then none else some (.float x)

/-- The values that no digits can write. -/
def named : Reader Value := fun cs =>
  let (mark, rest) := sign cs
  match rest with
  | 'i' :: 'n' :: 'f' :: rest => some (.float (.infinity (mark = ['-'])), rest)
  | 'n' :: 'a' :: 'n' :: rest => some (.float .nan, rest)
  | _ => none

/-- A number in base ten. -/
def decimal : Reader Value := fun cs =>
  let (mark, rest) := sign cs
  match wholeRun rest with
  | none => none
  | some (digits, rest) =>
    match rest with
    | '.' :: _ | 'e' :: _ | 'E' :: _ => do
      let (part, rest) ← fraction rest
      return (← floatOf (mark ++ digits ++ part), rest)
    | _ => do
      let n := Numeral.digitsValue digits
      return (← word (if mark = ['-'] then -(n : Int) else n), rest)

/-- A number. -/
def number : Reader Value
  | '0' :: c :: cs =>
    match base? c with
    | none => decimal ('0' :: c :: cs)
    | some (radix, isDigit) => do
      let (digits, rest) ← digitRun isDigit cs
      let n := digits.foldl (fun n c => n * radix + (Unicode.CodePoints.hexDigit? c).getD 0) 0
      return (← word n, rest)
  | cs => (named cs).orElse fun _ => decimal cs

/-! ### Dates and times -/

/-- A number of a fixed count of digits. -/
def fixed (count : Nat) : Reader Nat := fun cs =>
  (Numeral.natural? (cs.take count)).bind fun n =>
    if (cs.take count).length = count then some (n, cs.drop count) else none

/-- The text after a character. -/
def expect (c : Char) : List Char → Option (List Char)
  | d :: cs => if c = d then some cs else none
  | [] => none

/-- The number of days of a month. -/
def daysIn (year month : Nat) : Nat :=
  if month = 2 then (if year % 4 = 0 ∧ (year % 100 ≠ 0 ∨ year % 400 = 0) then 29 else 28)
  else if month ∈ [4, 6, 9, 11] then 30 else 31

/-- The text after a day of the calendar. -/
def afterDate? (cs : List Char) : Option (List Char) := do
  let (year, cs) ← fixed 4 cs
  let (month, cs) ← fixed 2 (← expect '-' cs)
  let (day, cs) ← fixed 2 (← expect '-' cs)
  if 1 ≤ month ∧ month ≤ 12 ∧ 1 ≤ day ∧ day ≤ daysIn year month then some cs else none

/-- The text after an hour and a minute. -/
def afterMinutes? (cs : List Char) : Option (List Char) := do
  let (hour, cs) ← fixed 2 cs
  let (minute, cs) ← fixed 2 (← expect ':' cs)
  if hour ≤ 23 ∧ minute ≤ 59 then some cs else none

/-- The text after a fraction of a second, if there is one here. -/
def skipFraction : List Char → List Char
  | '.' :: cs =>
    if (cs.takeWhile Numeral.isDigit).isEmpty then '.' :: cs else cs.dropWhile Numeral.isDigit
  | cs => cs

/-- The text after a time of day. -/
def afterTime? (cs : List Char) : Option (List Char) := do
  let cs ← afterMinutes? cs
  let (second, cs) ← fixed 2 (← expect ':' cs)
  if second ≤ 60 then some (skipFraction cs) else none

/-- The text after the distance to universal time, if there is one here. -/
def afterOffset? : List Char → Option (List Char)
  | 'Z' :: cs | 'z' :: cs => some cs
  | '+' :: cs | '-' :: cs => afterMinutes? cs
  | cs => some cs

/-- The text after a date with an optional time of day. -/
def afterMoment? (cs : List Char) : Option (List Char) :=
  match afterDate? cs with
  | none => afterTime? cs
  | some [] => some []
  | some (c :: rest) =>
    if c = 'T' ∨ c = 't' ∨ c = ' ' then
      match afterTime? rest with
      | none => some (c :: rest)
      | some rest => afterOffset? rest
    else some (c :: rest)

/-- A date, a time or both. -/
def moment : Reader Value := fun cs =>
  (afterMoment? cs).map fun rest =>
    (.moment (String.ofList (cs.take (cs.length - rest.length))), rest)

end MetricIngest.Toml
