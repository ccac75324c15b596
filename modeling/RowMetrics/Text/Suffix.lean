/-!
Suffixes of texts, compared character by character.
-/

namespace RowMetrics

namespace Text

/-- `s` without the suffix `suffix`, if `s` ends with it. -/
def stripSuffix? (s suffix : String) : Option String :=
  if suffix.toList.isSuffixOf s.toList then
    some (String.ofList (s.toList.take (s.length - suffix.length)))
  else none

def endsWith (s suffix : String) : Bool := suffix.toList.isSuffixOf s.toList

example : stripSuffix? "Queries_delta" "_delta" = some "Queries" := by decide
example : stripSuffix? "x" "_delta" = none := by decide

end Text

end RowMetrics
