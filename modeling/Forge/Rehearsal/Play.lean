import Forge.Rehearsal.Stage

/-!
# Playing a rehearsal

`play` carries out steps one after another. A step that makes further steps happen during a merge
goes one level deeper; `depth` bounds the levels.
-/

namespace Forge.Rehearsal

namespace Stage

/-- The calls of one transaction. The later calls are still made after one that fails, on what its
statements have left. -/
def playCalls : List (Int × StoreCall) → Stage → List (Except Error Answer) × Stage
  | [], s => ([], s)
  | (tick, call) :: rest, s =>
    let s := s.pass tick
    let (r, store) := (call.body s.now).run s.store
    let s := { s with store }
    let s := match r, call.record? with
      | .ok _, some record => s.log record
      | _, _ => s
    let (rs, s) := playCalls rest s
    (r :: rs, s)

/-- Several calls in one transaction. -/
def playTransaction (setup : Setup) (write keep : Bool) (calls : List (Int × StoreCall))
    (s : Stage) : Except Error Result × Stage :=
  let s := s.connect setup
  if write && s.storeHeld then (.error (.engine .locked), s)
  else
    let (answers, s') := playCalls calls s
    (.ok (.transaction keep answers), if keep then s' else { s' with store := s.store })

/-- Takes a table away. -/
def dropTable (setup : Setup) (name : String) (s : Stage) : Except Error Result × Stage :=
  let s := s.connect setup
  match TableName.ofText? name with
  | some table =>
    if s.store.withdrawn.contains table then (.error (.engine (.noSuchTable name)), s)
    else (.ok (.answer .nothing), { s with store := s.store.withdraw table })
  | none => (.error (.engine (.noSuchTable name)), s)

/-- Takes the lock of a working tree for a later step to give back. -/
def holdLock (setup : Setup) (repoId : Int) (own : Bool) (s : Stage) : Stage :=
  let s := if own then
      { s with handle := { s.handle with taken := repoId :: s.handle.taken } }
    else s
  let s := match setup.policy.lockDirectory with
    | some directory =>
      ({ s with files := repoId :: s.files }).log
        ⟨.debug, .locks, WorkingTree.acquiredText directory repoId⟩
    | none => s
  { s with held := (repoId, own) :: s.held }

/-- Gives back the lock that was taken last. -/
def releaseLock (s : Stage) : Stage :=
  match s.held with
  | (repoId, own) :: held =>
    let s := if own then s.dropLock repoId else s
    { s.dropFile repoId with held }
  | [] => s

/-- The result of an action with an answer. -/
def answered (r : Except Error Answer × Stage) : Except Error Result × Stage :=
  (r.1.map .answer, r.2)

/-- Does what a step says. -/
def playDeed (play : Player) (setup : Setup) (s : Stage) : Deed → Except Error Result × Stage
  | .operation op => answered (s.perform play setup (op.action setup.policy))
  | .arrangeTree changes =>
    (.ok (.answer .nothing), { s with tree := changes.foldl Change.apply s.tree })
  | .treeRecords => (.ok (.treeRecords s.treeRecords.reverse), { s with treeRecords := [] })
  | .now => (.ok (.now s.now), s)
  | .dump =>
    let (r, s) := s.transact setup false fun _ => Transaction.allTables
    (r.map .store, s)
  | .storeCall write call =>
    let (r, s) := s.transact setup write fun now => call.body now
    match r, call.record? with
    | .ok a, some record => (.ok (.answer a), s.log record)
    | .ok a, none => (.ok (.answer a), s)
    | .error e, _ => (.error e, s)
  | .transaction write keep calls => s.playTransaction setup write keep calls
  | .insertDependency issueId dependsOnId =>
    answered (s.perform play setup
      (StoreCall.silent <$>
        Workflow.session true fun now => Store.insertDependency now issueId dependsOnId))
  | .dropTable name => s.dropTable setup name
  | .lockStore held => (.ok (.answer .nothing), { s.connect setup with storeHeld := held })
  | .holdLock repoId own => (.ok (.answer .nothing), s.holdLock setup repoId own)
  | .releaseLock => (.ok (.answer .nothing), s.releaseLock)
  | .tryLock repoId limit =>
    answered (s.perform play setup
      (WorkingTree.hold setup.policy.lockDirectory repoId limit (pure (Answer.flag true))))

/-- Carries out one step. What is recorded meanwhile belongs to its outcome; log records are also
kept for the enclosing step if the step goes through a workflow of its own. -/
def playStep (play : Player) (setup : Setup) (s : Stage) : Step → Outcome × Stage
  | .mk tick turns deed =>
    let (records, runs, meanwhile) := (s.records, s.runs, s.meanwhile)
    let s := { s.pass tick with
      turns := s.turns ++ turns, records := [], runs := [], meanwhile := [] }
    let (r, s) := s.playDeed play setup deed
    let outcome := Outcome.mk r s.records.reverse s.runs.reverse s.meanwhile.reverse
    let records := if setup.apart then s.records ++ records else records
    (outcome, { s with records, runs, meanwhile })

/-- Carries out steps one after another. -/
def playSteps (play : Player) (setup : Setup) : List Step → Stage → List Outcome × Stage
  | [], s => ([], s)
  | step :: steps, s =>
    let (o, s) := s.playStep play setup step
    let (os, s) := playSteps play setup steps s
    (o :: os, s)

end Stage

/-- Carries out steps, those that happen during others at most `depth` levels deep. -/
def play (setup : Setup) : (depth : Nat) → Stage.Player
  | 0 => fun _ s => ([], s)
  | depth + 1 => Stage.playSteps (play setup depth) setup

/-- The levels that a rehearsal can have. -/
def depth : Nat := 200

end Forge.Rehearsal
