import Forge.Proofs.Reachable

/-!
# Surroundings that fail in any way

In a `World.Step` a working tree refuses a call only with an error that `Error.isExternal`, and the
store can always be opened. A tree that is not as careful may fail with other errors, and so may the
opening of the store (`Error.isOpening`): its directory or its file cannot be used, or the time that
it is to wait has too many milliseconds. A `World.Turn` is a step in which these fail with any error
of a class `faults` besides; the worlds that turns lead to are `World.Attained`, the reachable ones
among them.
-/

namespace Forge

variable {τ : Type} {faults : Error → Prop}

/-- The errors with which the store cannot be opened. -/
def Error.isOpening : Error → Bool
  | .waitTooLong => true
  | e => e.isFileFault

/-- The error with which the surroundings refuse a transaction before its first statement: a report
of the engine, or one of a class that keeps the store from being opened. -/
def Refuses (faults : Error → Prop) (e : Error) : Prop :=
  (∃ report, e = .engine report) ∨ e.isOpening = true ∧ faults e

/-- The answers that a request can get, locks aside, where calls on a working tree and the opening
of the store may also fail with the errors of a class. -/
def Reply (faults : Error → Prop) : {β : Type} → Request τ β → β → Store → Store → Prop
  | _, .tree _, b, s, s' => (∀ e, b = .error e → e.isExternal = true ∨ faults e) ∧ s' = s
  | _, .transact write limit body, b, s, s' =>
    (∃ e, b = .error e ∧ e.isOpening = true ∧ faults e) ∧ s' = s ∨
      Exchange (.transact write limit body) b s s'
  | _, r, b, s, s' => Exchange r b s s'

/-- What a world answers is a reply with any class of faults besides. -/
theorem Exchange.reply {β : Type} {r : Request τ β} {b : β} {s s' : Store}
    (h : Exchange r b s s') : Reply faults r b s s' := by
  cases r with
  | tree call => exact ⟨fun e he => .inl (h.1 e he), h.2⟩
  | transact write limit body => exact .inr h
  | _ => exact h

/-- A transaction is refused, or answered with what its statements return or fail with. -/
theorem Reply.transact {α : Type} {write : Bool} {limit : Option τ} {body : Int → Transaction α}
    {b : Except Error α} {s s' : Store} (h : Reply faults (.transact write limit body) b s s') :
    (∃ e, b = .error e ∧ Refuses faults e) ∧ s' = s ∨
      ∃ now, Transaction.fits now = true ∧
        ((∃ a, b = .ok a ∧ (body now).Returns s a s') ∨
          ∃ e, b = .error e ∧ s' = s ∧ (body now).Fails s e) := by
  rcases h with ⟨⟨e, rfl, opening, allowed⟩, same⟩ | h
  · exact .inl ⟨⟨e, rfl, .inr ⟨opening, allowed⟩⟩, same⟩
  · exact (Exchange.transact h).imp_left fun ⟨⟨report, he⟩, same⟩ =>
      ⟨⟨_, he, .inl ⟨report, rfl⟩⟩, same⟩

theorem Reply.mono {faults' : Error → Prop} {β : Type} {r : Request τ β} {b : β} {s s' : Store}
    (h : Reply faults r b s s') (sub : ∀ e, faults e → faults' e) : Reply faults' r b s s' := by
  cases r with
  | tree call => exact ⟨fun e he => (h.1 e he).imp_right (sub e), h.2⟩
  | transact write limit body =>
    exact h.imp_left fun ⟨⟨e, he, opening, allowed⟩, same⟩ =>
      ⟨⟨e, he, opening, sub e allowed⟩, same⟩
  | _ => exact h

namespace World

variable [TimeScale τ] {directory : Option String} {w w' : World τ}

/-- A step of a world in which working trees and the opening of the store may fail with the errors
of a class besides. -/
inductive Turn (directory : Option String) (faults : Error → Prop) : World τ → World τ → Prop
  | begin {w : World τ} {process : Nat} {policy : Policy τ} {op : Operation τ}
      (shared : policy.lockDirectory = directory) (alone : directory = none → process = 0) :
      Turn directory faults w
        { w with calls := w.calls ++ [⟨process, op, (op.action policy).run, {}⟩] }
  | answer {w : World τ} {i : Nat} {c : Call τ} {β : Type} {r : Request τ β}
      {next : β → Program τ (Except Error Answer)} {b : β} {s : Store} {l : Locks}
      (call : w.calls[i]? = some c) (asks : c.rest = .ask r next)
      (reply : Reply faults r b w.store s) (grant : w.locks.Grants i c.process r b l) :
      Turn directory faults w
        { store := s
          locks := l
          calls := w.calls.set i
            { c with rest := next b, journal := c.journal.note r b w.store s }
          log := ⟨i, c.operation, c.journal.opened, r, b, w.store, s⟩ :: w.log }

/-- The second world comes from the first by turns. -/
def Turns (directory : Option String) (faults : Error → Prop) : World τ → World τ → Prop :=
  Relation.ReflTransGen (Turn directory faults)

/-- The world comes from an empty store by turns. -/
def Attained (directory : Option String) (faults : Error → Prop) (w : World τ) : Prop :=
  ∃ surrogates, Turns directory faults (fresh (.empty surrogates)) w

theorem Step.turn {allowed : Operation τ → Prop} (h : Step directory allowed w w') :
    Turn directory faults w w' := by
  cases h with
  | begin ok shared alone => exact .begin shared alone
  | answer call asks exchange grant => exact .answer call asks exchange.reply grant

theorem Run.turns {allowed : Operation τ → Prop} (h : Run directory allowed w w') :
    Turns directory faults w w' :=
  Relation.ReflTransGen.mono (fun _ _ hs => Step.turn hs) _ _ h

/-- A world that is reached is attained without further faults. -/
theorem Reachable.attained (h : w.Reachable directory) : w.Attained directory faults :=
  h.imp fun _ => Run.turns

theorem Attained.turns (h : w.Attained directory faults) (hw : Turns directory faults w w') :
    w'.Attained directory faults :=
  h.imp fun _ turns => Relation.ReflTransGen.trans turns hw

/-- A call of the next world was there before, has just begun, or has had its request answered. -/
theorem Turn.call_cases {i : Nat} {c' : Call τ} (h : Turn directory faults w w')
    (hc : w'.calls[i]? = some c') :
    w.calls[i]? = some c' ∨
      (∃ policy : Policy τ, policy.lockDirectory = directory ∧
        c'.rest = (c'.operation.action policy).run ∧ c'.journal = {}) ∨
      ∃ (c : Call τ) (β : Type) (r : Request τ β) (next : β → Program τ (Except Error Answer))
        (b : β), w.calls[i]? = some c ∧ c.rest = .ask r next ∧
          Reply faults r b w.store w'.store ∧ w.locks.Grants i c.process r b w'.locks ∧
          c' = { c with rest := next b, journal := c.journal.note r b w.store w'.store } := by
  cases h with
  | @begin process policy op shared alone =>
    rcases call_of_concat hc with hc | ⟨-, rfl⟩
    · exact .inl hc
    · exact .inr (.inl ⟨policy, shared, rfl, rfl⟩)
  | @answer k c β r next b s l call asks reply grant =>
    rcases call_of_set hc with ⟨rfl, rfl⟩ | ⟨-, hc⟩
    · exact .inr (.inr ⟨c, β, r, next, b, call, asks, reply, grant, rfl⟩)
    · exact .inl hc

end World

end Forge
