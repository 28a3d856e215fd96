/-!
# Text from bytes

A text file is a sequence of bytes in UTF-8. `decode` answers the characters, or the first place
where the bytes stop being one: a byte that starts no character, a byte that does not continue the
one before it, or the end of the bytes inside a character. Overlong forms and surrogates count as
a second byte that does not continue the first.
-/

namespace Forge.Text.Utf8

/-- Why bytes are no text. -/
inductive Reason where
  | invalidStart
  | invalidContinuation
  | unexpectedEnd
deriving DecidableEq, Repr

/-- The words for a reason. -/
def Reason.message : Reason → String
  | .invalidStart => "invalid start byte"
  | .invalidContinuation => "invalid continuation byte"
  | .unexpectedEnd => "unexpected end of data"

/-- The first faulty bytes: where they start, how many they are, and the first of them. -/
structure Fault where
  position : Nat
  length : Nat
  byte : Nat
  reason : Reason
deriving DecidableEq, Repr

/-- A fault in words. -/
def Fault.message (f : Fault) : String :=
  if f.length = 1 then
    let d (n : Nat) : Char := if n < 10 then Char.ofNat (48 + n) else Char.ofNat (87 + n)
    "'utf-8' codec can't decode byte 0x" ++ String.ofList [d (f.byte / 16), d (f.byte % 16)] ++
      " in position " ++ toString f.position ++ ": " ++ f.reason.message
  else
    "'utf-8' codec can't decode bytes in position " ++ toString f.position ++ "-" ++
      toString (f.position + f.length - 1) ++ ": " ++ f.reason.message

/-- Whether a byte can stand inside a character. -/
def isContinuation (b : Nat) : Bool := b / 64 == 2

/-- Whether `b` can be the second byte of a character that starts with `a`. -/
def isSecond (a b : Nat) : Bool :=
  isContinuation b &&
    (if a = 0xe0 then decide (0xa0 ≤ b)
     else if a = 0xed then decide (b < 0xa0)
     else if a = 0xf0 then decide (0x90 ≤ b)
     else if a = 0xf4 then decide (b < 0x90)
     else true)

/-- The number of bytes of a character that starts with `a`, if one does. -/
def width? (a : Nat) : Option Nat :=
  if a < 0x80 then some 1
  else if a < 0xc2 then none
  else if a < 0xe0 then some 2
  else if a < 0xf0 then some 3
  else if a < 0xf5 then some 4
  else none

/-- The first character of the bytes and its width, or why there is none and how many bytes are
faulty. -/
def first : List Nat → Except (Reason × Nat) (Char × Nat)
  | [] => .error (.unexpectedEnd, 0)
  | a :: r =>
    match width? a, r with
    | none, _ => .error (.invalidStart, 1)
    | some 1, _ => .ok (Char.ofNat a, 1)
    | some 2, b :: _ =>
      if isSecond a b then .ok (Char.ofNat ((a % 32) * 64 + b % 64), 2)
      else .error (.invalidContinuation, 1)
    | some 3, b :: r =>
      if isSecond a b then
        match r with
        | c :: _ =>
          if isContinuation c then
            .ok (Char.ofNat (((a % 16) * 64 + b % 64) * 64 + c % 64), 3)
          else .error (.invalidContinuation, 2)
        | [] => .error (.unexpectedEnd, 2)
      else .error (.invalidContinuation, 1)
    | some _, b :: r =>
      if isSecond a b then
        match r with
        | c :: r =>
          if isContinuation c then
            match r with
            | d :: _ =>
              if isContinuation d then
                .ok (Char.ofNat ((((a % 8) * 64 + b % 64) * 64 + c % 64) * 64 + d % 64), 4)
              else .error (.invalidContinuation, 3)
            | [] => .error (.unexpectedEnd, 3)
          else .error (.invalidContinuation, 2)
        | [] => .error (.unexpectedEnd, 2)
      else .error (.invalidContinuation, 1)
    | some _, [] => .error (.unexpectedEnd, 1)

/-- The characters of the bytes from `position` on; `fuel` bounds their number. -/
def decodeFrom (position : Nat) : Nat → List Nat → Except Fault (List Char)
  | 0, _ => .ok []
  | _, [] => .ok []
  | fuel + 1, a :: r =>
    match first (a :: r) with
    | .error (reason, length) => .error ⟨position, length, a, reason⟩
    | .ok (c, n) => (decodeFrom (position + n) fuel ((a :: r).drop n)).map (c :: ·)

/-- The text that the bytes encode. -/
def decode (bytes : List Nat) : Except Fault String :=
  (decodeFrom 0 bytes.length bytes).map String.ofList

end Forge.Text.Utf8
