/-
  Languages of patterns.

  Rules are given with patterns, and how these are written and found is a matter
  of their own. A language says which texts are patterns and in which texts each
  of them is found; rules and tables are made of the patterns of any language.
-/

namespace MetricIngest

/-- For each text that is a pattern, the texts in which it is found. -/
class PatternLanguage where
  finder? (pattern : String) : Option (String → Bool)

end MetricIngest
