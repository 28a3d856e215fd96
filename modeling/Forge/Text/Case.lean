import Forge.Text.CaseTable

/-!
# Lower and upper case

Case changes follow the full mappings: one character may become several, and a capital sigma
becomes the final form at the end of a word. The end of a word is found by passing over the
characters that are ignored for case.
-/

namespace Forge.Text

/-- Characters that are passed over when the end of a word is sought. -/
def isCaseIgnorable (c : Char) : Bool :=
  CodeRange.anyContains caseIgnorableRanges c

/-- Characters that have a case. -/
def isCased (c : Char) : Bool :=
  CodeRange.anyContains casedRanges c

/-- Whether a sigma ends its word: `before` is the text before it, last character first, and
`after` the text after it. -/
def endsWord (before after : List Char) : Bool :=
  (match before.dropWhile isCaseIgnorable with
    | c :: _ => isCased c
    | [] => false) &&
  (match after.dropWhile isCaseIgnorable with
    | c :: _ => !isCased c
    | [] => true)

/-- The lower case of one character, a sigma taken as one inside a word. -/
def lowerChar (c : Char) : List Char :=
  if c = 'İ' then ['i', '\u0307'] else [CodeShift.applyAll lowerShifts c]

/-- The lower case of `cs` after the text `before`, last character first. -/
def lowerAfter (before : List Char) : List Char → List Char
  | [] => []
  | c :: cs =>
    (if c = 'Σ' then [if endsWord before cs then 'ς' else 'σ'] else lowerChar c) ++
      lowerAfter (c :: before) cs

/-- The text in lower case. -/
def lower (s : String) : String :=
  String.ofList (lowerAfter [] s.toList)

/-- The upper case of one character. -/
def upperChar (c : Char) : List Char :=
  match upperExpansions.find? (fun e => e.1 == c.toNat) with
  | some e => e.2.map Char.ofNat
  | none => [CodeShift.applyAll upperShifts c]

/-- The text in upper case. -/
def upper (s : String) : String :=
  String.ofList (s.toList.flatMap upperChar)

end Forge.Text
