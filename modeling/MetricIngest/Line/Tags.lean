/-
  Tags as they are written in a line.

  A piece of the fields of a line is a tag if there is a key before its first equals sign; of
  several tags with one key the last one counts. `tagsText` writes tags with commas between them,
  which can be read again if each of them is `Taggable`, and `taggedText` writes the whole line.
-/
import MetricIngest.Line.Form

namespace MetricIngest.Line

/-! ### Reading tags -/

/-- A piece that is a tag: a key that is not empty, the first equals sign, and a value. -/
structure IsTag (piece : List Char) (key value : String) : Prop where
  key_ne : key ≠ ""
  first : '=' ∉ key.toList
  glued : piece = key.toList ++ '=' :: value.toList

/-- What the last tag with a key says, if there is one among some pieces. -/
def LastTag (pieces : List (List Char)) (key value : String) : Prop :=
  ∃ before piece after, pieces = before ++ piece :: after ∧ IsTag piece key value ∧
    ∀ other ∈ after, ∀ value', ¬IsTag other key value'

/-! ### Writing tags -/

/-- A tag that can be written: a key that is not empty and holds neither a comma nor an equals sign,
a value without a comma, and no white space in either. -/
structure Taggable (tag : String × String) : Prop where
  key_ne : tag.1 ≠ ""
  key_unbroken : Unbroken tag.1.toList
  key_seps : ',' ∉ tag.1.toList ∧ '=' ∉ tag.1.toList
  value_unbroken : Unbroken tag.2.toList
  value_sep : ',' ∉ tag.2.toList

/-- The text of a tag. -/
def tagText (tag : String × String) : List Char := tag.1.toList ++ '=' :: tag.2.toList

/-- The text of tags, with commas between them. -/
def tagsText (tags : List (String × String)) : List Char := Text.glue ',' (tags.map tagText)

/-- The text of a tagged line, whose value may have its mark. -/
def taggedText (name fields value : List Char) (marked : Bool) : List Char :=
  name ++ ',' :: (fields ++ ' ' :: ((if marked then valueMark else []) ++ value))

end MetricIngest.Line
