import Forge.Cli.Alone
import Forge.Proofs.Named
import Forge.Proofs.Settings.Readers
import Forge.Rehearsal.CommandLine

/-!
# Presentation and effect

How a command shows its report is wished for with two options, `--json` and `--output`. Two command
lines that come to one command and differ in these wishes alone do the same: in whatever
surroundings they are run, they ask the same of them, leave them in the same state and end with the
same exit; what they write to the error output is the same but for the form of log records, and one
that fails writes nothing to the output (`Cli.Surroundings.same_effect`).

`Surroundings` stand for everything around a command line, and their state for all of it that can
change: the store, the locks, the working trees, the time. Rehearsals and sessions that are alone
are runs in some of them (`playCommand_eq`, `runAlone_eq`).
-/

namespace Forge

/-- The requests that a program makes of surroundings that answer from a state, in their order. -/
def Program.asked {τ α σ : Type} (answer : {β : Type} → Request τ β → σ → β × σ) :
    Program τ α → σ → List ((β : Type) × Request τ β)
  | .done _, _ => []
  | .ask r next, s => ⟨_, r⟩ :: (next (answer r s).1).asked answer (answer r s).2

namespace Cli

/-! ## Runs of command lines -/

/-- What is around command lines. Its state answers requests, and holds the log records that have
been made. Calls on working trees are answered, or carried out by git in the checkout that the
settings say. -/
structure Surroundings (σ : Type) where
  answer (host : Host) (settings : Settings) {β : Type} : Request Binary64 β → σ → β × σ
  records : σ → List (Int × LogRecord)
  checkout : Settings → Option Git.Checkout

/-- What comes of a command line: its end, the files then, what it has asked, and the state of the
surroundings then. -/
structure Course (σ : Type) where
  finish : Finish
  files : FileTree
  asked : List ((β : Type) × Request Binary64 β)
  state : σ

namespace Surroundings

variable {σ : Type} (world : Surroundings σ)

/-- The program of an action, with git for its working trees if the surroundings have it. -/
def program (settings : Settings) (action : Action Binary64 Report) :
    Program Binary64 (Except Error Report) :=
  match world.checkout settings with
  | some checkout => Git.carryOutAll checkout action.run
  | none => action.run

/-- Carries out a session. -/
def session (host : Host) (s : Session) (state : σ) : Course σ :=
  match s.task host with
  | .error failure =>
    ⟨s.withRecords (world.records state) failure.finish, host.files, [], state⟩
  | .ok action =>
    let answer {β : Type} : Request Binary64 β → σ → β × σ := world.answer host s.settings
    let p := world.program s.settings action
    let (r, after) := p.run answer state
    ⟨s.withRecords (world.records after) (s.finish r), host.files, p.asked answer state, after⟩

/-- Runs a command line. -/
def run (read : SettingsReader) (host : Host) (terminal : Bool) (arguments : List String)
    (state : σ) : Course σ :=
  match route arguments with
  | .finished f => ⟨f, host.files, [], state⟩
  | .command i =>
    match prepare read host terminal i with
    | (.error failure, files) => ⟨failure.finish, files, [], state⟩
    | (.ok s, files) => world.session { host with files } s state

end Surroundings

/-! ## The two outputs -/

/-- Whether a drawing appears on the error output. -/
def Drawing.onErrors : Drawing → Bool
  | .table _ _ _ console | .panel _ _ console => console.errors
  | .record .. => true

namespace Finish

/-- Nothing is written to the output. -/
def Silent (f : Finish) : Prop :=
  f.out = "" ∧ ∀ d ∈ f.drawings, d.onErrors = true

/-- The error output has log records, each as a line or each as a drawing, and then a text. -/
def Tells (f : Finish) (records : List (Int × LogRecord)) (text : String) : Prop :=
  (f.err = String.join (records.map Session.recordLine) ++ text ∧
      f.drawings.filter Drawing.onErrors = []) ∨
    (f.err = text ∧ f.drawings.filter Drawing.onErrors =
      records.map fun r => .record r.2.level r.2.text)

end Finish

/-- Two courses have the same effect, and tell the same of it if they fail. -/
structure Course.SameEffect {σ : Type} (x y : Course σ) : Prop where
  exit : x.finish.exit = y.finish.exit
  errors : ∃ records text, x.finish.Tells records text ∧ y.finish.Tells records text
  files : x.files = y.files
  asked : x.asked = y.asked
  state : x.state = y.state
  silent : x.finish.exit ≠ .status 0 → x.finish.Silent ∧ y.finish.Silent

/-! ## What is shown of an end -/

namespace Report

theorem onErrors_drawnList {α : Type} (title nothing : String) (headers : List String)
    (cells : α → List String) (rows : List α) :
    (drawnList title nothing headers cells rows).onErrors = false := by
  cases rows <;> rfl

/-- Reports are drawn on the output. -/
theorem onErrors_of_drawings? {r : Report} {drawings : List Drawing}
    (h : r.drawings? = some drawings) : ∀ d ∈ drawings, d.onErrors = false := by
  cases r with
  | repositories | issues | mergeRequests =>
    obtain rfl := Option.some.inj h
    exact List.forall_mem_singleton.2 (onErrors_drawnList _ _ _ _ _)
  | issue =>
    obtain rfl := Option.some.inj h
    have related (title : String) (is : List Issue) : (drawnRelated title is).onErrors = false :=
      onErrors_drawnList _ _ _ _ is
    refine List.forall_mem_cons.2 ⟨rfl, List.forall_mem_cons.2 ⟨rfl, ?_⟩⟩
    exact List.forall_mem_cons.2 ⟨related _ _, List.forall_mem_singleton.2 (related _ _)⟩
  | mergeRequest =>
    obtain rfl := Option.some.inj h
    exact List.forall_mem_cons.2 ⟨rfl, List.forall_mem_singleton.2 rfl⟩
  | _ => cases h

theorem onErrors_shown (json : Bool) (mode : OutputMode) (r : Report) :
    ∀ d ∈ (r.shown json mode).2, d.onErrors = false := by
  unfold shown
  split
  · exact List.forall_mem_nil _
  · split
    · next drawn => exact onErrors_of_drawings? drawn
    · exact List.forall_mem_nil _

end Report

/-- Two ends of one outcome, before the log records are added: what they differ in is what a success
is shown by. -/
structure Finish.Alike (f g : Finish) : Prop where
  exit : f.exit = g.exit
  err : f.err = g.err
  drawn : f.drawings.filter Drawing.onErrors = []
  drawn' : g.drawings.filter Drawing.onErrors = []
  quiet : f.exit ≠ .status 0 → (f.out = "" ∧ f.drawings = []) ∧ g.out = "" ∧ g.drawings = []

/-- A failure is shown in one way. -/
theorem Failure.finish_alike (f : Failure) : f.finish.Alike f.finish := by
  have quiet : f.finish.out = "" ∧ f.finish.drawings = [] := by
    unfold finish
    split
    · split <;> exact ⟨rfl, rfl⟩
    · exact ⟨rfl, rfl⟩
  have drawn : f.finish.drawings.filter Drawing.onErrors = [] := by
    rw [quiet.2]
    rfl
  exact ⟨rfl, rfl, drawn, drawn, fun _ => ⟨quiet, quiet⟩⟩

namespace Session

/-- What the operations of a session have answered ends any session alike. -/
theorem finish_alike (s t : Session) (r : Except Error Report) :
    (s.finish r).Alike (t.finish r) := by
  cases r with
  | ok report =>
    have drawn (s : Session) : (s.finish (.ok report)).drawings.filter Drawing.onErrors = [] :=
      List.filter_eq_nil_iff.2 fun d hd => Bool.eq_false_iff.1 (report.onErrors_shown _ _ d hd)
    exact ⟨rfl, rfl, drawn s, drawn t, fun failed => absurd rfl failed⟩
  | error e => exact (Failure.error e).finish_alike

variable {s t : Session} {records : List (Int × LogRecord)} {f : Finish}

theorem withRecords_exit : (s.withRecords records f).exit = f.exit := by
  unfold withRecords
  cases s.mode <;> rfl

theorem withRecords_out : (s.withRecords records f).out = f.out := by
  unfold withRecords
  cases s.mode <;> rfl

theorem withRecords_nil (s : Session) (f : Finish) : s.withRecords [] f = f := by
  unfold withRecords
  cases s.mode
  · exact congrArg (fun err => { f with err }) (String.empty_append)
  · rfl

/-- An end that draws nothing on the error output tells its error text after the records of the
level of the settings. -/
theorem withRecords_tells (drawn : f.drawings.filter Drawing.onErrors = []) :
    (s.withRecords records f).Tells (LogRecord.atLeast s.settings.logLevel records) f.err := by
  unfold withRecords
  cases s.mode with
  | plain => exact .inl ⟨rfl, drawn⟩
  | rich =>
    refine .inr ⟨rfl, ?_⟩
    rw [List.filter_append, drawn, List.append_nil, List.filter_eq_self]
    exact List.forall_mem_map.2 fun _ _ => rfl

/-- Log records appear on the error output only. -/
theorem withRecords_silent (quiet : f.out = "" ∧ f.drawings = []) :
    (s.withRecords records f).Silent := by
  refine ⟨withRecords_out.trans quiet.1, ?_⟩
  unfold withRecords
  cases s.mode with
  | plain =>
    rw [quiet.2]
    exact List.forall_mem_nil _
  | rich =>
    dsimp only
    rw [quiet.2, List.append_nil]
    exact List.forall_mem_map.2 fun _ _ => rfl

end Session

/-! ## Sessions of one command -/

section Effect

variable {σ : Type} {world : Surroundings σ} {read : SettingsReader} {host : Host}
  {terminal : Bool}

/-- Courses of two sessions with the same settings that end alike. -/
theorem Finish.Alike.sameEffect {f g : Finish} (h : f.Alike g) {s t : Session}
    (settings : s.settings = t.settings) (records : List (Int × LogRecord)) (files : FileTree)
    (asked : List ((β : Type) × Request Binary64 β)) (state : σ) :
    Course.SameEffect ⟨s.withRecords records f, files, asked, state⟩
      ⟨t.withRecords records g, files, asked, state⟩ where
  exit := by rw [Session.withRecords_exit, Session.withRecords_exit, h.exit]
  errors := ⟨_, _, Session.withRecords_tells h.drawn,
    settings ▸ h.err ▸ Session.withRecords_tells h.drawn'⟩
  files := rfl
  asked := rfl
  state := rfl
  silent failed := by
    rw [Session.withRecords_exit] at failed
    obtain ⟨quiet, quiet'⟩ := h.quiet failed
    exact ⟨Session.withRecords_silent quiet, Session.withRecords_silent quiet'⟩

/-- A command line that fails before there is a session has one effect. -/
theorem Failure.sameEffect (failure : Failure) (files : FileTree) (state : σ) :
    Course.SameEffect ⟨failure.finish, files, [], state⟩ ⟨failure.finish, files, [], state⟩ where
  exit := rfl
  errors := by
    have tells : failure.finish.Tells [] failure.finish.err :=
      .inr ⟨rfl, failure.finish_alike.drawn⟩
    exact ⟨[], failure.finish.err, tells, tells⟩
  files := rfl
  asked := rfl
  state := rfl
  silent failed := by
    have silent : failure.finish.Silent := by
      obtain ⟨out, drawings⟩ := (failure.finish_alike.quiet failed).1
      exact ⟨out, drawings ▸ List.forall_mem_nil _⟩
    exact ⟨silent, silent⟩

theorem Surroundings.session_files (world : Surroundings σ) (host : Host) (s : Session)
    (state : σ) : (world.session host s state).files = host.files := by
  unfold Surroundings.session
  cases s.task host <;> rfl

/-- Sessions of one command have the same effect, however their reports will be shown. -/
theorem Surroundings.session_sameEffect {s t : Session}
    (command : s.invocation.command = t.invocation.command) (settings : s.settings = t.settings)
    (state : σ) : (world.session host s state).SameEffect (world.session host t state) := by
  have task : t.task host = s.task host := by
    rw [Session.task, Session.task, command, settings]
  unfold Surroundings.session
  rw [task, ← settings]
  cases s.task host with
  | error failure => exact failure.finish_alike.sameEffect settings _ _ _ _
  | ok action => exact (s.finish_alike t _).sameEffect settings _ _ _ _

/-- The settings of commands, and the files once they are found. -/
def settingsOf (read : SettingsReader) (host : Host) : Except Failure Settings × FileTree :=
  match StateDirectory.locate host host.directory with
  | .error fault => (.error (.directory fault), host.files)
  | .ok (directory, files) =>
    match Settings.loadWith read host.environment files directory with
    | .error fault => (.error (.settings fault), files)
    | .ok settings => (.ok settings, files)

/-- Once the output mode is found, the rest of the preparations does not look at the command. -/
theorem prepare_of_mode {i : Invocation} {mode : OutputMode}
    (h : outputMode host.environment i.output terminal = .ok mode) :
    prepare read host terminal i =
      ((settingsOf read host).1.map fun settings => ⟨i, mode, settings⟩,
        (settingsOf read host).2) := by
  unfold prepare settingsOf
  rw [h]
  cases StateDirectory.locate host host.directory with
  | error fault => rfl
  | ok found =>
    dsimp only
    cases Settings.loadWith read host.environment found.2 found.1 <;> rfl

end Effect

/-! ## Wishes for the output -/

/-- The keys of the options for the output. -/
def outputKeys : List String :=
  outputOptions.map (·.key)

/-- Values that are the same but for the wishes for the output. -/
def Values.Agree (v w : Values) : Prop :=
  ∀ key ∉ outputKeys, Named.get? key v = Named.get? key w

namespace Values.Agree

variable {v w : Values} (h : v.Agree w) {key : String} (other : key ∉ outputKeys)

include h other

theorem text? : v.text? key = w.text? key := by
  rw [Values.text?, Values.text?, h key other]

theorem text : v.text key = w.text key := by
  rw [Values.text, Values.text, h.text? other]

theorem whole : v.whole key = w.whole key := by
  rw [Values.whole, Values.whole, h key other]

theorem seconds? : v.seconds? key = w.seconds? key := by
  rw [Values.seconds?, Values.seconds?, h key other]

theorem isOn : v.isOn key = w.isOn key := by
  rw [Values.isOn, Values.isOn, h key other]

end Values.Agree

/-- A command is made without looking at the wishes for the output. -/
def Blind (make : Values → Command) : Prop :=
  ∀ v w : Values, v.Agree w → make v = make w

/-- No command of any group looks at the wishes for the output. -/
theorem blind_of_mem : ∀ g ∈ [repositoryCommands, issueCommands, mergeRequestCommands],
    ∀ e ∈ g.commands, Blind e.2.2 := by
  simp only [repositoryCommands, issueCommands, mergeRequestCommands, entry, List.forall_mem_cons,
    List.not_mem_nil, false_imp_iff, implies_true, and_true]
  and_intros
  all_goals
    intro v w agree
    simp (disch := decide) only [agree.text, agree.text?, agree.whole, agree.seconds?, agree.isOn]

theorem mem_of_groupNamed? {name : String} {commands : Commands}
    (h : groupNamed? name = some commands) :
    commands ∈ [repositoryCommands, issueCommands, mergeRequestCommands] := by
  unfold groupNamed? at h
  split at h
  all_goals
    first
    | contradiction
    | obtain rfl := Option.some.inj h
      simp only [List.mem_cons, true_or, or_true]

/-! ## Command lines -/

/-- A command whose output mode is found is a session, unless it has no settings. -/
theorem Surroundings.run_of_mode {σ : Type} (world : Surroundings σ) {read : SettingsReader}
    {host : Host} {terminal : Bool} {arguments : List String} {i : Invocation} {mode : OutputMode}
    (state : σ) (routed : route arguments = .command i)
    (found : outputMode host.environment i.output terminal = .ok mode) :
    world.run read host terminal arguments state =
      match settingsOf read host with
      | (.error failure, files) => ⟨failure.finish, files, [], state⟩
      | (.ok settings, files) => world.session { host with files } ⟨i, mode, settings⟩ state := by
  unfold Surroundings.run
  rw [routed]
  dsimp only
  rw [prepare_of_mode found]
  rcases settingsOf read host with ⟨failure | settings, files⟩ <;> rfl

/-- What is read for a command stands beside its name. -/
theorem Group.mem_of_read {α : Type} {g : Group α} {arguments : List String} {a : α}
    {values : Values} (h : g.read arguments = .ok (a, values)) :
    ∃ name form, (name, form, a) ∈ g.commands := by
  simp only [Group.read, Except.bind_eq_ok] at h
  obtain ⟨items, -, ⟨unknown, named⟩, -, h⟩ := h
  cases named with
  | nil => contradiction
  | cons name rest =>
    dsimp only at h
    split at h
    · contradiction
    · next form make found =>
      obtain ⟨⟨values', more⟩, -, h⟩ := Except.bind_eq_ok.1 h
      dsimp only at h
      split at h
      · obtain ⟨rfl, rfl⟩ := Prod.mk.inj (Except.ok.inj h)
        exact ⟨name, form, Named.mem_of_get? found⟩
      · contradiction

/-- A command line of a group, read: its values, and how the command is made from them. -/
def ReadAs (arguments : List String) (make : Values → Command) (v : Values) : Prop :=
  ∃ group rest commands, arguments = group :: rest ∧ groupNamed? group = some commands ∧
    commands.read rest = .ok (make, v)

theorem ReadAs.blind {arguments : List String} {make : Values → Command} {v : Values}
    (h : ReadAs arguments make v) : Blind make := by
  obtain ⟨group, rest, commands, -, named, read⟩ := h
  obtain ⟨name, form, mem⟩ := Group.mem_of_read read
  exact blind_of_mem commands (mem_of_groupNamed? named) _ mem

theorem ReadAs.route {arguments : List String} {make : Values → Command} {v : Values}
    (h : ReadAs arguments make v) :
    route arguments = .command ⟨make v, v.isOn "json", v.text? "output"⟩ := by
  obtain ⟨group, rest, commands, rfl, named, read⟩ := h
  have option : ¬(group = "-h" ∨ group = "--help") ∧ group ≠ "--version" := by
    constructor
    · rintro (rfl | rfl)
      · exact nomatch (show (none : Option Commands) = some commands from named)
      · exact nomatch (show (none : Option Commands) = some commands from named)
    · rintro rfl
      exact nomatch (show (none : Option Commands) = some commands from named)
  have invocation : Invocation.read commands rest =
      .ok ⟨make v, v.isOn "json", v.text? "output"⟩ := by
    rw [Invocation.read, read]
    rfl
  rw [Cli.route, if_neg option.1, if_neg option.2, named]
  dsimp only
  rw [invocation]

/-- The output mode that the values wish for is found. -/
def Resolves (host : Host) (terminal : Bool) (v : Values) : Prop :=
  ∃ mode, outputMode host.environment (v.text? "output") terminal = .ok mode

/-- **Presentation never changes effect.** Two command lines of one command whose values agree but
for the wishes for the output, and for which an output mode is found, have the same effect in all
surroundings: they end with the same exit and tell the same error, ask the same of the working trees
and of everything else, and leave the files and the surroundings the same. If they fail, they write
nothing to the output. -/
theorem Surroundings.same_effect {σ : Type} (world : Surroundings σ) (read : SettingsReader)
    (host : Host) (terminal : Bool) (state : σ) {a b : List String} {make : Values → Command}
    {v w : Values} (ha : ReadAs a make v) (hb : ReadAs b make w) (agree : v.Agree w)
    (resolved : Resolves host terminal v) (resolved' : Resolves host terminal w) :
    (world.run read host terminal a state).SameEffect (world.run read host terminal b state) := by
  obtain ⟨mode, found⟩ := resolved
  obtain ⟨mode', found'⟩ := resolved'
  rw [world.run_of_mode state ha.route found, world.run_of_mode state hb.route found']
  rcases settingsOf read host with ⟨failure | settings, files⟩
  · exact failure.sameEffect files state
  · dsimp only
    refine session_sameEffect ?_ ?_ state
    · exact ha.blind v w agree
    · rfl

/-! ## Sessions that are alone, and rehearsals -/

/-- The surroundings of a session that is alone. -/
def Alone.surroundings : Surroundings Alone where
  answer _ _ {_} := Alone.answer
  records s := s.records.reverse
  checkout settings := some ⟨settings.git, ".", settings.mailDomain⟩

theorem Session.runAlone_eq (session : Session) (host : Host) (now : Int) (store : Store) :
    session.runAlone host now store =
      let course := Alone.surroundings.session host session
        ⟨now, session.settings.database.text, false, store, []⟩
      (course.finish, course.state.store) := by
  unfold runAlone Surroundings.session
  cases session.task host with
  | error failure => exact Prod.ext (session.withRecords_nil failure.finish).symm rfl
  | ok action => rfl

/-- A command line that registers a repository. -/
def registration : List String := ["repo", "add", "one", "/one"]

/-- The same command line, with the wish for a JSON document and, in vain, for drawings. -/
def wishfulRegistration : List String := ["repo", "add", "--json", "one", "/one", "--output=rich"]

/-- How the command is made from the values of either. -/
def registering (v : Values) : Command := .addRepository (v.text "name") (v.text "path")

/-- The values of the first command line. -/
def registered : Values := [("name", .text "one"), ("path", .text "/one")]

/-- The values of the second command line. -/
def wishfullyRegistered : Values :=
  [("json", .on), ("name", .text "one"), ("path", .text "/one"), ("output", .text "rich")]

/-- A host without variables and files. -/
def emptyHost : Host := ⟨⟨[], [], 0⟩, Path.ofText "/", .empty⟩

/-- A store that nothing has been written to, in surroundings without anybody else. -/
def nothingYet : Alone := ⟨0, "", false, .empty, []⟩

/-- The law at these two command lines, of which the second writes other things to the output. -/
theorem same_effect_of_registration :
    ReadAs registration registering registered ∧
      ReadAs wishfulRegistration registering wishfullyRegistered ∧
      registered.Agree wishfullyRegistered ∧ Resolves emptyHost false registered ∧
      Resolves emptyHost false wishfullyRegistered ∧
      (Alone.surroundings.run (fun _ _ => .ok []) emptyHost false registration
        nothingYet).SameEffect
        (Alone.surroundings.run (fun _ _ => .ok []) emptyHost false wishfulRegistration
          nothingYet) := by
  have read : ReadAs registration registering registered :=
    ⟨"repo", _, repositoryCommands, rfl, rfl, rfl⟩
  have read' : ReadAs wishfulRegistration registering wishfullyRegistered :=
    ⟨"repo", _, repositoryCommands, rfl, rfl, rfl⟩
  have agree : registered.Agree wishfullyRegistered := by
    intro key other
    have keys : key ≠ "json" ∧ key ≠ "output" :=
      ⟨fun h => other (h ▸ by decide), fun h => other (h ▸ by decide)⟩
    simp [registered, wishfullyRegistered, Named.get?, Ne.symm keys.1, Ne.symm keys.2]
  have resolved : Resolves emptyHost false registered := ⟨.plain, by decide +kernel⟩
  have resolved' : Resolves emptyHost false wishfullyRegistered := ⟨.rich, by decide +kernel⟩
  exact ⟨read, read', agree, resolved, resolved',
    Alone.surroundings.same_effect _ _ _ _ read read' agree resolved resolved'⟩

end Cli

namespace Rehearsal

/-- The stage when a command line begins. -/
def Stage.begin (s : Stage) (step : CommandStep) : Stage :=
  { s.pass step.tick with
    tree := step.changes.foldl Change.apply s.tree
    handle := .fresh
    files := []
    treeRecords := []
    records := []
    meanwhile := [] }

/-- The stage, as surroundings. -/
def surroundings : Cli.Surroundings Stage where
  answer host settings {_} :=
    let setup := setupOf host.files settings
    Stage.answer (play setup depth) setup
  records s := s.records.reverse
  checkout _ := none

theorem playSession_eq (host : Host) (session : Cli.Session) (s : Stage) :
    playSession host session s =
      let course := surroundings.session host session s
      (course.finish, course.state) := by
  unfold playSession Cli.Surroundings.session
  cases session.task host <;> rfl

theorem playCommand_eq (read : Cli.SettingsReader) (host : Host) (terminal : Bool) (s : Stage)
    (step : CommandStep) :
    playCommand read host terminal s step =
      let course := surroundings.run read host terminal step.arguments (s.begin step)
      (⟨course.finish, course.state.treeRecords.reverse, course.state.meanwhile.reverse⟩,
        { host with files := course.files }, course.state) := by
  unfold playCommand Cli.Surroundings.run
  dsimp only
  cases Cli.route step.arguments with
  | finished f => rfl
  | command i =>
    dsimp only
    rcases Cli.prepare read host terminal i with ⟨failure | session, files⟩
    · rfl
    · dsimp only
      rw [playSession_eq, Cli.Surroundings.session_files]
      rfl

end Rehearsal

end Forge
