import Forge.Cli.Run
import Forge.Git.Tree

/-!
# Sessions that are alone

A session may have its surroundings to itself: nobody else writes to the store or holds a lock, no
time passes while it runs, and no other program can be started, so that every run of git ends
before it has begun. `Session.runAlone` carries out such a session on a store.
-/

namespace Forge.Cli

/-- What a session that is alone has around it. Log records have the latest first. -/
structure Alone where
  now : Int
  database : String
  connected : Bool
  store : Store
  records : List (Int × LogRecord)

namespace Alone

/-- The surroundings with one more log record. -/
def log (s : Alone) (r : LogRecord) : Alone :=
  { s with records := (s.now, r) :: s.records }

/-- Makes sure that the tables are there. -/
def connect (s : Alone) : Alone :=
  if s.connected then s
  else { s.log (schemaReady s.database) with connected := true }

/-- The refusal of every run of another program. -/
def noPrograms : SystemError := .plain "no other program can be started"

/-- Answers a request. -/
def answer {β : Type} : Request Binary64 β → Alone → β × Alone
  | .clock, s => (Binary64.zeroOf false, s)
  | .transact _ _ body, s =>
    let s := s.connect
    let (r, store) := (body s.now).commit s.store
    (r, { s with store })
  | .openTree _, s => ((), s)
  | .tree _, s => (.error (.external noPrograms.message), s)
  | .process _, s => (.unstartable noPrograms, s)
  | .takeLock .., s => (.ok true, s)
  | .dropLock _, s => ((), s)
  | .takeFile .., s => (.ok true, s)
  | .dropFile _, s => ((), s)
  | .log r, s => ((), s.log r)

end Alone

/-- Carries out a session on a store at a time of day. Answers its end and the store after it. -/
def Session.runAlone (session : Session) (host : Host) (now : Int) (store : Store) :
    Finish × Store :=
  match session.task host with
  | .error failure => (failure.finish, store)
  | .ok action =>
    let settings := session.settings
    let git : Git.Checkout := ⟨settings.git, ".", settings.mailDomain⟩
    let (r, s) := (Git.carryOutAll git action.run).run Alone.answer
      ⟨now, settings.database.text, false, store, []⟩
    (session.withRecords s.records.reverse (session.finish r), s.store)

end Forge.Cli
