/-
  Making a file and writing it, as two steps.

  A file is made by opening it anew, which only works while nothing is there. Whoever has made a
  file may write it from its beginning later, whatever somebody else has put there meanwhile.
-/
import Mathlib.Algebra.GroupWithZero.Nat
import MetricIngest.Storage.FileTree

namespace MetricIngest.FileTree

/-- A path leads to a place in a directory that is there, where a file is or can be made. -/
structure PlaceFor (t : FileTree) (path : String) (full : List String) : Prop where
  located : t.locate path = .ok (.named full false)
  isDirectory_eq : t.isDirectory full = false

/-- Make an empty file, unless something is there: its full name, and the tree with it. -/
def openNew (t : FileTree) (path : String) : Except IoError (Option (List String × FileTree)) :=
  match t.locate path with
  | .error e => .error e
  | .ok .dots => .ok none
  | .ok (.named full slash) =>
    if slash then .error .isDirectory
    else if t.isDirectory full || (t.file? full).isSome then .ok none
    else .ok (some (full, t.put full []))

/-- What is left of a text behind its first bytes. A character of which only some bytes are left
is gone. -/
def afterBytes : Nat → List Char → List Char
  | _, [] => []
  | n, c :: text => if n = 0 then c :: text else afterBytes (n - c.utf8Size) text

/-- A text with another one written over its beginning. -/
def writtenOver (text before : List Char) : List Char :=
  text ++ afterBytes (text.map Char.utf8Size).sum before

/-- Write a text over the beginning of a file. -/
def writeOver (t : FileTree) (full : List String) (text : List Char) : FileTree :=
  t.put full (writtenOver text ((t.file? full).getD []))

@[simp]
theorem writtenOver_nil (text : List Char) : writtenOver text [] = text := by
  simp [writtenOver, afterBytes]

/-- Only the last text of a file counts. -/
@[simp]
theorem put_put (t : FileTree) (full : List String) (text more : List Char) :
    (t.put full text).put full more = t.put full more := by
  simp [put, List.filter_filter]

/-- **Making a file with a text** is making it and then writing it, if nothing happens in
between. -/
theorem createNew_eq (t : FileTree) (path : String) (text : List Char) :
    t.createNew path text = (t.openNew path).map fun opened =>
      match opened with
      | none => t
      | some (full, made) => made.writeOver full text := by
  unfold createNew openNew
  cases t.locate path with
  | error e => rfl
  | ok place =>
    cases place with
    | dots => rfl
    | named full slash =>
      dsimp only
      split
      · rfl
      · split
        · rfl
        · have hmade : (t.put full []).file? full = some [] := by simp [put, file?]
          simp [Except.map, writeOver, hmade]

end MetricIngest.FileTree
