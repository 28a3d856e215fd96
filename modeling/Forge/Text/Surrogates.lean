import Forge.Text.Quoted

/-!
# Texts without a UTF-8 form

A text that comes from outside, an argument or a variable above all, may hold lone surrogates: code
points from 0xd800 to 0xdfff, which are no characters and have no UTF-8 form. In their place stand
2048 characters in a row. Which ones is left open but for that they are taken from the areas for
private use, where characters are neither blank nor printed nor have a case, as surrogates are
not. What holds for every choice holds for every text: there is a choice that it does not use.
-/

namespace Forge.Text

/-- The characters that stand for lone surrogates, by the number of the first. -/
structure Surrogates where
  first : Nat
  isPrivate : 0xf0000 ≤ first
deriving DecidableEq, Repr

/-- Why a text has no UTF-8 form: the first surrogates in a row, by where they start, how many they
are, and the code point of the first of them. -/
structure EncodeFault where
  position : Nat
  length : Nat
  code : Nat
deriving DecidableEq, Repr

/-- A fault in words. -/
def EncodeFault.message (f : EncodeFault) : String :=
  if f.length = 1 then
    "'utf-8' codec can't encode character '\\u" ++ String.ofList (hexDigits 4 f.code) ++
      "' in position " ++ toString f.position ++ ": surrogates not allowed"
  else
    "'utf-8' codec can't encode characters in position " ++ toString f.position ++ "-" ++
      toString (f.position + f.length - 1) ++ ": surrogates not allowed"

namespace Surrogates

instance : Inhabited Surrogates := ⟨0xf0000, Nat.le_refl _⟩

/-- How many surrogates there are. -/
def count : Nat := 0x800

/-- Whether a character stands for a surrogate. -/
def holds (s : Surrogates) (c : Char) : Bool :=
  decide (s.first ≤ c.toNat) && decide (c.toNat < s.first + count)

/-- The code point of the surrogate that a character stands for. -/
def code (s : Surrogates) (c : Char) : Nat := 0xd800 + (c.toNat - s.first)

/-- The character that stands for the surrogate of a code point. -/
def character (s : Surrogates) (code : Nat) : Char := Char.ofNat (s.first + (code - 0xd800))

/-- What keeps a text from having a UTF-8 form. -/
def fault? (s : Surrogates) (text : String) : Option EncodeFault :=
  match text.toList.dropWhile fun c => !s.holds c with
  | [] => none
  | c :: cs => some {
      position := (text.toList.takeWhile fun c => !s.holds c).length
      length := 1 + (cs.takeWhile s.holds).length
      code := s.code c }

end Surrogates

end Forge.Text
