import Forge.Proofs.Settings.Accepted
import Forge.Proofs.Taxonomy.CommandLine

/-!
# Settings that are not accepted

Loading the settings fails with a complaint about the file or about one of its settings, but for
five kinds of content that no reader complains about: bytes that are no text, numbers with too many
digits, limits that no double is near, and home directories that are not known or of users whose
name has a null character. A command line shows these like a complaint, but for such a limit and a
home directory that is not known, which escape from it.
-/

namespace Forge

namespace Settings

open Toml (Value)

/-- The settings are there, or the failure is a complaint. -/
def Lawful (x : Except SettingsFault Settings) : Prop :=
  (∃ s, x = .ok s) ∨ ∃ f, x = .error f ∧ f.isInvalid = true

/-- What in a document cannot be taken in, with the failure that comes of it. -/
inductive Document.Cause (e : Environment) (document : Toml.Table) : SettingsFault → Prop where
  | tooLarge {name : String} {i : Int} (limit : name = "timeout" ∨ name = "lock_timeout")
      (given : Given document "merge" name (.whole i)) (pos : 0 < i)
      (far : Binary64.ofInt? i = none) : Cause e document .tooLarge
  | home {s : String} {fault : HomeFault} (given : Given document "database" "path" (.text s))
      (full : Text.strip s ≠ "")
      (missing : (Path.ofText (Text.strip s)).expandHome e.homeOf = .error fault) :
      Cause e document (.ofHome fault)

/-- What in a file cannot be taken in, with the failure that comes of it. -/
inductive Cause (e : Environment) (t : FileTree) (dir : Path) : SettingsFault → Prop where
  | undecodable {bytes : List Nat} {fault : Text.Utf8.Fault}
      (file : t.file? (dir.child fileName) = some bytes)
      (decodes : Text.Utf8.decode bytes = .error fault) : Cause e t dir (.undecodable fault)
  | tooManyDigits {bytes : List Nat} {text : String} {count : Nat}
      (file : t.file? (dir.child fileName) = some bytes)
      (decodes : Text.Utf8.decode bytes = .ok text)
      (reads : Toml.read (String.ofList (Text.unifyLineEnds text.toList)) =
        .error (.tooManyDigits count)) : Cause e t dir (.tooManyDigits count)
  | document {document : Toml.Table} {f : SettingsFault}
      (reads : documentIn readDocument t dir = .ok document) (cause : Document.Cause e document f) :
      Cause e t dir f

variable {e : Environment} {t : FileTree} {dir file : Path} {document : Toml.Table} {s : Settings}
  {f : SettingsFault} {bytes : List Nat}

/-- What cannot be taken in is no complaint about a setting. -/
theorem Cause.isInvalid_eq_false (cause : Cause e t dir f) : f.isInvalid = false := by
  cases cause with
  | undecodable | tooManyDigits => rfl
  | document _ cause =>
    cases cause with
    | tooLarge => rfl
    | @home _ fault => cases fault <;> rfl

/-! ## Faults of a document -/

/-- A log level fails with a complaint, wherever it is from. -/
theorem logLevelOf_eq_error {log : Toml.Table} (h : logLevelOf e log = .error f) :
    f.isInvalid = true := by
  rcases Except.bind_eq_error.1 h with h | ⟨named, -, h⟩
  · exact levelOf_eq_error h
  · split at h
    · cases h
    · exact levelOf_eq_error h

/-- A document fails with a complaint, or by what cannot be taken in. -/
theorem fault_of_ofDocument (h : ofDocument e dir document = .error f) :
    f.isInvalid = true ∨ Document.Cause e document f := by
  simp only [ofDocument_eq, Except.bind_eq_error] at h
  rcases h with h | ⟨database, hd, h | ⟨merge, hm, h | ⟨log, hl, h⟩⟩⟩
  · exact .inl (tableOf_eq_error h)
  · exact .inl (tableOf_eq_error h)
  · exact .inl (tableOf_eq_error h)
  rcases h with h | ⟨path, hpath, h | ⟨busy, hbusy, h | ⟨lock, hlock, h | ⟨level, hlevel, h⟩⟩⟩⟩
  · refine (databaseOf_eq_error h).imp_right ?_
    rintro ⟨fault, rfl, s, shown, full, missing⟩
    exact .home ((given_iff_valueOf hd).2 ⟨nofun, shown⟩) full missing
  · exact .inl (wholeOf_eq_error h)
  · unfold lockLimitOf at h
    split at h
    next v shown =>
      refine (secondsOf_eq_error h).imp_right ?_
      rintro ⟨rfl, i, rfl, pos, far⟩
      exact .tooLarge (.inr rfl) ((given_iff hm).2 ⟨nofun, shown⟩) pos far
    · cases h
  · exact .inl (logLevelOf_eq_error h)
  rcases h with h | ⟨git, hgit, h | ⟨limit, hlimit, h | ⟨domain, hdomain, h⟩⟩⟩
  · exact .inl (textOf_eq_error h)
  · refine (secondsOf_eq_error h).imp_right ?_
    rintro ⟨rfl, i, shown, pos, far⟩
    exact .tooLarge (.inl rfl) ((given_iff_valueOf hm).2 ⟨nofun, shown⟩) pos far
  · exact .inl (textOf_eq_error h)
  · cases h

/-- Settings are not accepted where something cannot be taken in. -/
theorem not_cause_of_ok (h : ofDocument e dir document = .ok s) :
    ¬ Document.Cause e document f := by
  simp only [ofDocument_eq, Except.bind_eq_ok] at h
  obtain ⟨database, hd, merge, hm, -, -, path, hpath, -, -, lock, hlock, -, -, -, -, limit, hlimit,
    -, -, -⟩ := h
  have near : ∀ {setting : String} {i : Int} {a : Option Binary64},
      secondsOf setting (.whole i) = .ok a → Binary64.ofInt? i ≠ none := by
    intro setting i a reads far
    rcases secondsOf_eq_ok.1 reads with ⟨shown, -⟩ | ⟨j, x, shown, -, fits, -⟩ | ⟨x, shown, -⟩
    · cases shown
    · cases shown
      cases far.symm.trans fits
    · cases shown
  rintro (⟨rfl | rfl, given, pos, far⟩ | ⟨given, full, missing⟩)
  · rw [((given_iff_valueOf hm).1 given).2] at hlimit
    exact near hlimit far
  · rw [lockLimitOf, ((given_iff hm).1 given).2] at hlock
    exact near hlock far
  · rw [((given_iff_valueOf hd).1 given).2] at hpath
    rcases databaseOf_eq_ok.1 hpath with ⟨shown, -⟩ | ⟨s, q, shown, -, known, -⟩
    · cases shown
    · cases shown
      cases missing.symm.trans known

/-! ## Faults of a file -/

theorem readDocument_eq_error (h : readDocument file bytes = .error f) :
    f = .malformed file ∨
      (∃ fault, Text.Utf8.decode bytes = .error fault ∧ f = .undecodable fault) ∨
      ∃ text count, Text.Utf8.decode bytes = .ok text ∧
        Toml.read (String.ofList (Text.unifyLineEnds text.toList)) =
          .error (.tooManyDigits count) ∧ f = .tooManyDigits count := by
  unfold readDocument at h
  split at h
  next fault decodes =>
    cases h
    exact .inr (.inl ⟨fault, decodes, rfl⟩)
  next text decodes =>
    split at h
    · cases h
    · cases h
      exact .inl rfl
    next count reads =>
      cases h
      exact .inr (.inr ⟨text, count, decodes, reads, rfl⟩)

theorem fault_of_documentIn (h : documentIn readDocument t dir = .error f) :
    f.isInvalid = true ∨ Cause e t dir f := by
  unfold documentIn at h
  split at h
  next bytes there =>
    rcases readDocument_eq_error h with rfl | ⟨fault, decodes, rfl⟩ |
      ⟨text, count, decodes, reads, rfl⟩
    · exact .inl rfl
    · exact .inr (.undecodable there decodes)
    · exact .inr (.tooManyDigits there decodes reads)
  · cases h

/-- So does a file. -/
theorem fault_of_load (h : load e t dir = .error f) : f.isInvalid = true ∨ Cause e t dir f := by
  rw [load, loadWith_eq, Except.bind_eq_error] at h
  rcases h with h | ⟨document, reads, h⟩
  · exact fault_of_documentIn h
  · exact (fault_of_ofDocument h).imp_right (.document reads)

/-- Where something cannot be taken in there are no settings, also if a complaint comes first. -/
theorem Cause.not_ok (cause : Cause e t dir f) : load e t dir ≠ .ok s := by
  intro h
  rw [load, loadWith_eq, Except.bind_eq_ok] at h
  obtain ⟨document, reads, h⟩ := h
  cases cause with
  | undecodable there decodes => simp [documentIn, there, readDocument, decodes] at reads
  | tooManyDigits there decodes refused =>
    simp [documentIn, there, readDocument, decodes, refused] at reads
  | document also cause =>
    obtain rfl := Except.ok.inj (also.symm.trans reads)
    exact not_cause_of_ok h cause

theorem not_lawful_iff :
    ¬ Lawful (load e t dir) ↔ ∃ f, load e t dir = .error f ∧ Cause e t dir f := by
  cases ends : load e t dir with
  | ok s =>
    refine ⟨fun fails => absurd (.inl ⟨s, rfl⟩) fails, ?_⟩
    rintro ⟨f, shown, -⟩
    cases shown
  | error f =>
    constructor
    · intro fails
      refine ⟨f, rfl, (fault_of_load ends).resolve_left fun invalid => ?_⟩
      exact fails (.inr ⟨f, rfl, invalid⟩)
    · rintro ⟨_, shown, cause⟩ (⟨s, shown'⟩ | ⟨_, shown', invalid⟩)
      · cases shown'
      · cases shown
        cases shown'
        exact nomatch invalid.symm.trans cause.isInvalid_eq_false

end Settings

/-! ## Command lines -/

namespace Cli

open Settings (readDocument load)

variable {read : SettingsReader} {host : Host} {terminal : Bool} {arguments : List String}
  {i : Invocation} {t : FileTree} {dir : Path} {mode : OutputMode} {f : SettingsFault}

/-- How a command line ends whose settings fail to load. -/
def faultFinish (f : SettingsFault) : Finish :=
  if f = .tooLarge ∨ f = .noHome then ⟨.escaped (.settings f), "", "", []⟩
  else ⟨.status 1, "", "error: " ++ f.message ++ "\n", []⟩

theorem finish_settings (f : SettingsFault) : (Failure.settings f).finish = faultFinish f := by
  cases f <;> rfl

/-- A command line that is not prepared has one end only. -/
theorem ends_iff_of_unprepared {failure : Failure} {u : Text.Surrogates} {met : Error → Prop}
    {finish : Finish} (hroute : route arguments = .command i)
    (hprepare : prepare read host terminal i = (.error failure, t)) :
    Ends read host terminal u met arguments finish ↔ finish = failure.finish := by
  constructor
  · intro ends
    cases ends with
    | routed route => exact nomatch route.symm.trans hroute
    | unprepared route prepare =>
      cases route.symm.trans hroute
      cases prepare.symm.trans hprepare
      rfl
    | undone route prepare _ | done route prepare _ _ =>
      cases route.symm.trans hroute
      cases prepare.symm.trans hprepare
  · rintro rfl
    exact .unprepared hroute hprepare

theorem prepare_of_fault (hmode : outputMode host.environment i.output terminal = .ok mode)
    (located : StateDirectory.locate host host.directory = .ok (dir, t))
    (fails : load host.environment t dir = .error f) :
    prepare readDocument host terminal i = (.error (.settings f), t) := by
  unfold load at fails
  simp only [prepare, hmode, located, fails]

end Cli

namespace Settings

/-- **Failures to load.** Settings fail to load with a complaint, unless something in the file
cannot be taken in; what cannot be taken in is never accepted. A command line that needs the
settings then shows the failure and ends with status one, whatever the failure is, but for a limit
that is too large and a home directory that is not known. -/
theorem fails_with_complaint (e : Environment) (t : FileTree) (dir : Path) :
    (Lawful (load e t dir) ↔ ¬ ∃ f, load e t dir = .error f ∧ Cause e t dir f) ∧
      (∀ f, Cause e t dir f → ∀ s, load e t dir ≠ .ok s) ∧
      ∀ (host : Host) (terminal : Bool) (arguments : List String) (i : Cli.Invocation)
        (mode : Cli.OutputMode) (f : SettingsFault), host.environment = e →
        Cli.route arguments = .command i → Cli.outputMode e i.output terminal = .ok mode →
        StateDirectory.locate host host.directory = .ok (dir, t) → load e t dir = .error f →
        ∀ (u : Text.Surrogates) (met : Error → Prop) (finish : Cli.Finish),
          Cli.Ends readDocument host terminal u met arguments finish ↔
            finish = Cli.faultFinish f := by
  refine ⟨by rw [← not_lawful_iff, not_not], fun f cause s => cause.not_ok, ?_⟩
  rintro host terminal arguments i mode f rfl route hmode located fails u met finish
  rw [← Cli.finish_settings]
  exact Cli.ends_iff_of_unprepared route (Cli.prepare_of_fault hmode located fails)

/-- What a program finds that one user of a host starts, with a variable that names the state
directory. -/
def homely : Environment :=
  ⟨[(StateDirectory.variableName, "/s")], [⟨1000, "ann", "/home/ann"⟩], 1000⟩

/-- A host on which that program runs, with the given text in the file of settings. -/
def hostWith (text : String) : Host :=
  ⟨homely, ⟨.slash, []⟩, filesWith (ascii text)⟩

/-- A database below the home directory of a user, who is known. -/
def knownHome : String := "[database]\npath = \"~ann/d\""

/-- A database below the home directory of a user who is not known. -/
def unknownHome : String := "[database]\npath = \"~bob/d\""

/-- A limit that is not positive. -/
def negativeLimit : String := "[merge]\ntimeout = -1"

/-- A home directory that is known is taken in. One that is not escapes from a command line, and a
negative limit is shown. -/
theorem fails_with_complaint_of_unknownHome :
    ((load homely (filesWith (ascii knownHome)) place).toOption.map fun s => s.database.text) =
      some "/home/ann/d" ∧
    (∀ u met finish,
      Cli.Ends readDocument (hostWith unknownHome) false u met ["repo", "list"] finish →
        finish.exit = .escaped (.settings .noHome)) ∧
    ∀ u met finish,
      Cli.Ends readDocument (hostWith negativeLimit) false u met ["repo", "list"] finish →
        finish = ⟨.status 1, "", "error: [merge].timeout must be positive\n", []⟩ := by
  have route : Cli.route ["repo", "list"] = .command ⟨.listRepositories, false, none⟩ := by
    decide +kernel
  have plain : Cli.outputMode homely none false = .ok .plain := by decide +kernel
  have ends : ∀ text f, StateDirectory.locate (hostWith text) (hostWith text).directory =
        .ok (place, filesWith (ascii text)) →
      load (hostWith text).environment (filesWith (ascii text)) place = .error f →
      ∀ u met finish, Cli.Ends readDocument (hostWith text) false u met ["repo", "list"] finish →
        finish = Cli.faultFinish f := by
    intro text f located fails u met finish ends
    have law :=
      (fails_with_complaint (hostWith text).environment (filesWith (ascii text)) place).2.2
    exact (law (hostWith text) false ["repo", "list"] _ .plain f rfl route plain located fails
      u met finish).1 ends
  refine ⟨by decide +kernel, fun u met finish h => ?_, fun u met finish h => ?_⟩
  · have fails : load (hostWith unknownHome).environment (filesWith (ascii unknownHome)) place =
        .error .noHome := by decide +kernel
    rw [ends unknownHome .noHome (by decide +kernel) fails u met finish h]
    rfl
  · have fails : load (hostWith negativeLimit).environment (filesWith (ascii negativeLimit)) place =
        .error (.refused "[merge].timeout" .notPositive) := by decide +kernel
    rw [ends negativeLimit _ (by decide +kernel) fails u met finish h]
    decide +kernel

/-- Bytes that are no text make loading fail without a complaint. -/
theorem not_lawful_of_undecodable : ¬ ∀ (e : Environment) (t : FileTree) (dir : Path),
    Lawful (load e t dir) := by
  intro all
  have fails : load homely (filesWith [0xc3]) place =
      .error (.undecodable ⟨0, 1, 0xc3, .unexpectedEnd⟩) := by decide +kernel
  rcases all homely (filesWith [0xc3]) place with ⟨s, shown⟩ | ⟨f, shown, invalid⟩
  · exact nomatch fails.symm.trans shown
  · cases fails.symm.trans shown
    exact nomatch invalid

end Settings

end Forge
