import Forge.Number.Decimal

/-!
# Deadlines

A caller's timeout becomes a point on the monotonic clock, and every later step gets what is left
until then. The arithmetic of times is a parameter: the program counts doubles of seconds, and the
laws of deadlines are stated for exact numbers.
-/

namespace Forge

/-- Times and durations: a zero, sum and difference, two comparisons, and the text of a duration in
messages. A duration that is no number compares false with everything. -/
class TimeScale (τ : Type) where
  zero : τ
  add : τ → τ → τ
  sub : τ → τ → τ
  lt : τ → τ → Bool
  le : τ → τ → Bool
  text : τ → String

namespace TimeScale

variable {τ : Type} [TimeScale τ]

/-- The duration, or zero if it is not above zero. -/
def nonneg (t : τ) : τ :=
  if lt (zero : τ) t then t else zero

/-- The second duration if it is the shorter one, else the first. -/
def shorter (a b : τ) : τ :=
  if lt b a then b else a

end TimeScale

instance : TimeScale Binary64 where
  zero := Binary64.zeroOf false
  add := Binary64.add
  sub := Binary64.sub
  lt := Binary64.lt
  le := Binary64.le
  text := Binary64.generalText

/-- A point in time that ends an operation, or none. -/
structure Deadline (τ : Type) where
  expiresAt : Option τ
deriving Repr

namespace Deadline

variable {τ : Type} [TimeScale τ]

/-- The deadline that lies `timeout` after `now`; a negative timeout counts as zero. -/
def after (now : τ) (timeout : Option τ) : Deadline τ :=
  ⟨timeout.map fun t => TimeScale.add now (TimeScale.nonneg t)⟩

/-- What is left at `now`, never less than zero. -/
def remaining (d : Deadline τ) (now : τ) : Option τ :=
  d.expiresAt.map fun e => TimeScale.nonneg (TimeScale.sub e now)

/-- Whether the deadline has come. -/
def expired (d : Deadline τ) (now : τ) : Bool :=
  match d.expiresAt with
  | some e => TimeScale.le e now
  | none => false

/-- The shorter of a timeout and of what is left. -/
def cap (d : Deadline τ) (now : τ) (timeout : Option τ) : Option τ :=
  match d.remaining now, timeout with
  | none, t => t
  | some r, none => some r
  | some r, some t => some (TimeScale.shorter r t)

end Deadline

end Forge
