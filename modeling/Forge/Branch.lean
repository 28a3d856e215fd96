import Forge.Text.Search

/-!
# Branch names

A branch name goes to the version control system as an argument and becomes part of the name of a
reference. `Branch.isValid` accepts the names that are safe in both places.
-/

namespace Forge.Branch

/-- Characters that no branch name holds: controls, the blank, and those with a meaning in
expressions that name revisions or files. -/
def isForbidden (c : Char) : Bool :=
  decide (c.toNat ≤ 0x20) || c.toNat == 0x7f ||
    c == '~' || c == '^' || c == ':' || c == '?' || c == '*' || c == '[' || c == '\\'

/-- Whether a text can name a branch. -/
def isValid (name : String) : Bool :=
  name != "" && name != "@" &&
    !(Text.startsWith "-" name || Text.startsWith "/" name || Text.startsWith "." name) &&
    !(Text.endsWith "/" name || Text.endsWith "." name || Text.endsWith ".lock" name) &&
    !(Text.hasPart ".." name || Text.hasPart "//" name || Text.hasPart "@\x7b" name ||
      Text.hasPart "/." name) &&
    !name.toList.any isForbidden

end Forge.Branch
