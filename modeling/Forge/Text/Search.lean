/-!
# Parts of a text

Whether a text starts with, ends with or holds another one, and texts with parts replaced.
-/

namespace Forge.Text

/-- Whether `cs` holds `part` as a run of consecutive characters. -/
def hasRun (part : List Char) : List Char → Bool
  | [] => part.isPrefixOf []
  | c :: cs => part.isPrefixOf (c :: cs) || hasRun part cs

/-- Whether `part` stands somewhere in `s`. -/
def hasPart (part s : String) : Bool :=
  hasRun part.toList s.toList

/-- Whether `s` starts with `start`. -/
def startsWith (start s : String) : Bool :=
  start.toList.isPrefixOf s.toList

/-- Whether `s` ends with `last`. -/
def endsWith (last s : String) : Bool :=
  last.toList.isSuffixOf s.toList

/-- The text with every run `old` replaced, from the left; `old` is not empty. -/
def replaceRuns (old new : List Char) : List Char → List Char
  | [] => []
  | c :: cs =>
    if old.isPrefixOf (c :: cs) then new ++ replaceRuns old new (cs.drop (old.length - 1))
    else c :: replaceRuns old new cs
termination_by cs => cs.length
decreasing_by all_goals simp +arith

/-- The text `s` with every part `old` replaced. -/
def replaceParts (old new s : String) : String :=
  String.ofList (replaceRuns old.toList new.toList s.toList)

end Forge.Text
