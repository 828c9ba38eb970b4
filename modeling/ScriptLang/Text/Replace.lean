/-!
# Replacing parts of a text

Every occurrence of one list in another, from left to right and without overlaps, makes way for a
third.
-/

namespace ScriptLang.Text

/-- The list with every occurrence of `old`, which is not empty, replaced by `new`. -/
def replaceList (old new : List Char) (nonempty : old ≠ []) (cs : List Char) : List Char :=
  match cs with
  | [] => []
  | c :: rest =>
    if old.isPrefixOf (c :: rest) then
      new ++ replaceList old new nonempty ((c :: rest).drop old.length)
    else c :: replaceList old new nonempty rest
termination_by cs.length
decreasing_by
  · have := List.length_pos_iff.2 nonempty
    simp only [List.length_drop, List.length_cons]
    omega
  · simp

/-- The text with every occurrence of `old` replaced by `new`; the text itself if `old` is empty. -/
def replace (s old new : String) : String :=
  if h : old.toList ≠ [] then String.ofList (replaceList old.toList new.toList h s.toList) else s

end ScriptLang.Text
