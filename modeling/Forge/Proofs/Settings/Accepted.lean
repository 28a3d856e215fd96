import Forge.Proofs.Settings.Readers

/-!
# Settings that are accepted

Settings are accepted if no reader refuses what it reads. Then they are sound, and whatever the
document gives to a known setting is of its kind, but for two gaps: a limit that is no number is
taken, because it is not at most zero, and the log level of the document is not read at all when the
variable for it is set.
-/

namespace Forge.Settings

open Toml (Value)

/-! ## What is right -/

/-- A setting that is looked at. -/
structure Known where
  part : String
  name : String
  kind : Kind
deriving DecidableEq, Repr

/-- All settings that are looked at. -/
def known : List Known := [
  ⟨"database", "path", .text⟩, ⟨"database", "busy_timeout_ms", .whole⟩,
  ⟨"merge", "git", .text⟩, ⟨"merge", "timeout", .seconds⟩, ⟨"merge", "lock_timeout", .seconds⟩,
  ⟨"merge", "email_domain", .text⟩, ⟨"log", "level", .level⟩]

/-- The sections are tables. -/
def Sectioned (document : Toml.Table) : Prop :=
  ∀ k ∈ known, ∀ v, Named.get? k.part document = some v → ∃ members, v = .table members

/-- The sections are tables, and all that they give to known settings is of their kinds. -/
structure Right (document : Toml.Table) : Prop where
  sections : Sectioned document
  values : ∀ k ∈ known, ∀ v, Given document k.part k.name v → k.kind.Holds v

/-- The settings are in their ranges. -/
structure Sound (s : Settings) : Prop where
  busyTimeout : 0 < s.busyTimeout
  mergeLimit : ∀ x, s.mergeLimit = some x → x.Positive
  lockLimit : ∀ x, s.lockLimit = some x → x.Positive
  git : Text.Trimmed s.git
  mailDomain : Text.Trimmed s.mailDomain
  logLevel : s.logLevel.text ∈ ["DEBUG", "INFO", "WARNING", "ERROR", "CRITICAL"]

variable {read : Path → List Nat → Except SettingsFault Toml.Table} {e : Environment}
  {t : FileTree} {dir : Path} {document database merge log : Toml.Table} {s : Settings}
  {part name setting : String} {v : Value}

/-! ## One value -/

theorem holds_of_textOf {a : Option String} (reads : textOf setting v = .ok a)
    (there : v ≠ .nothing) : Kind.text.Holds v := by
  rcases textOf_eq_ok.1 reads with ⟨rfl, -⟩ | ⟨s, rfl, full, -⟩
  · exact absurd rfl there
  · exact full

theorem trimmed_of_textOf {a : Option String} {other : String}
    (reads : textOf setting v = .ok a) (trimmed : Text.Trimmed other) :
    Text.Trimmed (a.getD other) := by
  rcases textOf_eq_ok.1 reads with ⟨-, rfl⟩ | ⟨s, -, full, rfl⟩
  · exact trimmed
  · exact Text.trimmed_strip full

theorem holds_of_databaseOf {p : Path} (reads : databaseOf e dir v = .ok p)
    (there : v ≠ .nothing) : Kind.text.Holds v := by
  rcases databaseOf_eq_ok.1 reads with ⟨rfl, -⟩ | ⟨s, q, rfl, full, -⟩
  · exact absurd rfl there
  · exact full

theorem holds_of_levelOf {a : Option Level} (reads : levelOf setting v = .ok a)
    (there : v ≠ .nothing) : Kind.level.Holds v := by
  rcases levelOf_eq_ok.1 reads with ⟨rfl, -⟩ | ⟨s, l, rfl, -, named, -⟩
  · exact absurd rfl there
  · exact ⟨l, named⟩

theorem holds_of_secondsOf {a : Option Binary64} (reads : secondsOf setting v = .ok a)
    (there : v ≠ .nothing) : Kind.seconds.Holds v ∨ v = .real .nan := by
  rcases secondsOf_eq_ok.1 reads with ⟨rfl, -⟩ | ⟨i, x, rfl, pos, -⟩ | ⟨x, rfl, pos | rfl, -⟩
  · exact absurd rfl there
  · exact .inl pos
  · exact .inl pos
  · exact .inr rfl

/-- A limit is positive unless it is no number. -/
theorem positive_of_secondsOf {a : Option Binary64} (reads : secondsOf setting v = .ok a) :
    (∀ x, a = some x → x.Positive) ↔ v ≠ .real .nan := by
  rcases secondsOf_eq_ok.1 reads with
    ⟨rfl, rfl⟩ | ⟨i, x, rfl, pos, near, rfl⟩ | ⟨x, rfl, taken, rfl⟩
  · simp
  · simpa using Binary64.positive_of_ofInt? pos near
  · have : x.Positive ↔ x ≠ .nan :=
      ⟨fun pos none => absurd (none ▸ pos) (by decide), fun some => taken.resolve_right some⟩
    simpa using this

/-! ## All values -/

theorem sectioned_of_tables (hd : tableOf document "database" = .ok database)
    (hm : tableOf document "merge" = .ok merge) (hl : tableOf document "log" = .ok log) :
    Sectioned document := by
  have table : ∀ {part members}, tableOf document part = .ok members →
      ∀ v, Named.get? part document = some v → ∃ members, v = .table members := by
    intro part members reads v there
    rcases tableOf_eq_ok.1 reads with shown | ⟨missing, -⟩
    · exact ⟨members, Option.some.inj (there.symm.trans shown)⟩
    · exact nomatch there.symm.trans missing
  simp only [Sectioned, known, List.forall_mem_cons]
  exact ⟨table hd, table hd, table hm, table hm, table hm, table hm, table hl, nofun⟩

/-- What is known of settings once they are accepted. -/
structure Taken (e : Environment) (document : Toml.Table) (s : Settings) : Prop where
  sections : Sectioned document
  path : ∀ v, Given document "database" "path" v → Kind.text.Holds v
  busy : ∀ v, Given document "database" "busy_timeout_ms" v → Kind.whole.Holds v
  busyTimeout : 0 < s.busyTimeout
  gitGiven : ∀ v, Given document "merge" "git" v → Kind.text.Holds v
  git : Text.Trimmed s.git
  limit : ∀ v, Given document "merge" "timeout" v → Kind.seconds.Holds v ∨ v = .real .nan
  mergeLimit : (∀ x, s.mergeLimit = some x → x.Positive) ↔
    ¬ Given document "merge" "timeout" (.real .nan)
  lock : ∀ v, Given document "merge" "lock_timeout" v → Kind.seconds.Holds v ∨ v = .real .nan
  lockLimit : (∀ x, s.lockLimit = some x → x.Positive) ↔
    ¬ Given document "merge" "lock_timeout" (.real .nan)
  domain : ∀ v, Given document "merge" "email_domain" v → Kind.text.Holds v
  mailDomain : Text.Trimmed s.mailDomain
  level : e.get levelVariable = "" → ∀ v, Given document "log" "level" v → Kind.level.Holds v

theorem holds_of_logLevelOf {a : Option Level} (reads : logLevelOf e log = .ok a)
    (unset : e.get levelVariable = "") (there : valueOf log "level" ≠ .nothing) :
    Kind.level.Holds (valueOf log "level") := by
  simp only [logLevelOf, unset, if_true, Except.bind_eq_ok, levelOf_eq_ok] at reads
  obtain ⟨_, ⟨-, rfl⟩ | ⟨_, _, shown, -⟩, reads⟩ := reads
  · exact holds_of_levelOf reads there
  · cases shown

theorem taken_of_ok (h : ofDocument e dir document = .ok s) : Taken e document s := by
  simp only [ofDocument_eq, Except.bind_eq_ok] at h
  obtain ⟨database, hd, merge, hm, log, hl, path, hpath, busy, hbusy, lock, hlock, level, hlevel,
    git, hgit, limit, hlimit, domain, hdomain, made⟩ := h
  cases made
  exact {
    sections := sectioned_of_tables hd hm hl
    path := fun v given => by
      obtain ⟨there, rfl⟩ := (given_iff_valueOf hd).1 given
      exact holds_of_databaseOf hpath there
    busy := fun v given => by
      rw [((given_iff hd).1 given).2, Option.getD_some] at hbusy
      obtain ⟨rfl, pos⟩ := wholeOf_eq_ok.1 hbusy
      exact pos
    busyTimeout := (wholeOf_eq_ok.1 hbusy).2
    gitGiven := fun v given => by
      obtain ⟨there, rfl⟩ := (given_iff_valueOf hm).1 given
      exact holds_of_textOf hgit there
    git := trimmed_of_textOf hgit ⟨by decide, by decide +kernel⟩
    limit := fun v given => by
      obtain ⟨there, rfl⟩ := (given_iff_valueOf hm).1 given
      exact holds_of_secondsOf hlimit there
    mergeLimit := by
      rw [positive_of_secondsOf hlimit, given_iff_valueOf hm]
      simp
    lock := fun v given => by
      obtain ⟨there, shown⟩ := (given_iff hm).1 given
      rw [lockLimitOf, shown] at hlock
      exact holds_of_secondsOf hlock there
    lockLimit := by
      rw [given_iff hm]
      unfold lockLimitOf at hlock
      split at hlock
      next v shown =>
        rw [positive_of_secondsOf hlock, shown]
        simp
      next missing =>
        cases hlock
        have thirty : (Binary64.ofInt 30).Positive := by decide +kernel
        simpa [missing] using thirty
    domain := fun v given => by
      obtain ⟨there, rfl⟩ := (given_iff_valueOf hm).1 given
      exact holds_of_textOf hdomain there
    mailDomain := trimmed_of_textOf hdomain ⟨by decide, by decide +kernel⟩
    level := fun unset v given => by
      obtain ⟨there, rfl⟩ := (given_iff_valueOf hl).1 given
      exact holds_of_logLevelOf hlevel unset there }

/-! ## The law -/

/-- The document gives a limit that is no number. -/
def Unnumbered (document : Toml.Table) : Prop :=
  Given document "merge" "timeout" (.real .nan) ∨ Given document "merge" "lock_timeout" (.real .nan)

theorem Taken.sound_iff (taken : Taken e document s) : Sound s ↔ ¬ Unnumbered document := by
  rw [Unnumbered, not_or, ← taken.mergeLimit, ← taken.lockLimit]
  refine ⟨fun sound => ⟨sound.mergeLimit, sound.lockLimit⟩, fun ⟨limit, lock⟩ => ?_⟩
  exact ⟨taken.busyTimeout, limit, lock, taken.git, taken.mailDomain, by
    cases s.logLevel <;> decide⟩

/-- Only what is no number and a level that is not looked at can be of another kind. -/
theorem Taken.values (taken : Taken e document s) :
    ∀ k ∈ known, ∀ v, Given document k.part k.name v →
      k.kind.Holds v ∨ k.kind = .seconds ∧ v = .real .nan ∨
        k.kind = .level ∧ e.get levelVariable ≠ "" := by
  simp only [known, List.forall_mem_cons]
  refine ⟨fun v given => .inl (taken.path v given), fun v given => .inl (taken.busy v given),
    fun v given => .inl (taken.gitGiven v given),
    fun v given => (taken.limit v given).imp_right fun none => .inl ⟨trivial, none⟩,
    fun v given => (taken.lock v given).imp_right fun none => .inl ⟨trivial, none⟩,
    fun v given => .inl (taken.domain v given), fun v given => ?_, nofun⟩
  by_cases unset : e.get levelVariable = ""
  · exact .inl (taken.level unset v given)
  · exact .inr (.inr ⟨trivial, unset⟩)

theorem Taken.right_iff (taken : Taken e document s) : Right document ↔
    ¬ Unnumbered document ∧
      (e.get levelVariable ≠ "" → ∀ v, Given document "log" "level" v → Kind.level.Holds v) := by
  have not_nan : ¬ Kind.seconds.Holds (.real .nan) :=
    fun pos : Binary64.nan.Positive => absurd pos (by decide)
  constructor
  · intro right
    refine ⟨?_, fun _ => right.values ⟨"log", "level", .level⟩ (by decide)⟩
    rintro (given | given)
    · exact not_nan (right.values ⟨"merge", "timeout", .seconds⟩ (by decide) _ given)
    · exact not_nan (right.values ⟨"merge", "lock_timeout", .seconds⟩ (by decide) _ given)
  · rintro ⟨numbered, level⟩
    refine ⟨taken.sections, ?_⟩
    simp only [known, List.forall_mem_cons]
    refine ⟨taken.path, taken.busy, taken.gitGiven,
      fun v given => (taken.limit v given).resolve_right fun none => numbered (.inl (none ▸ given)),
      fun v given => (taken.lock v given).resolve_right fun none => numbered (.inr (none ▸ given)),
      taken.domain, ?_, nofun⟩
    by_cases unset : e.get levelVariable = ""
    · exact taken.level unset
    · exact level unset

/-- **Accepted settings.** Whenever settings are loaded, the busy timeout is positive, the texts are
not empty and have no blanks around them, and every value that the document gives to a known setting
is of its kind, unless it is a limit that is no number, or a log level below a variable that is set.
So the settings are sound if and only if the document gives no limit that is no number, and nothing
wrong has been passed over if and only if, besides, no wrong level stands below the variable. -/
theorem accepted_are_right (h : loadWith read e t dir = .ok s) :
    ∃ document, documentIn read t dir = .ok document ∧ Sectioned document ∧
      (0 < s.busyTimeout ∧ Text.Trimmed s.git ∧ Text.Trimmed s.mailDomain) ∧
      (∀ k ∈ known, ∀ v, Given document k.part k.name v →
        k.kind.Holds v ∨ k.kind = .seconds ∧ v = .real .nan ∨
          k.kind = .level ∧ e.get levelVariable ≠ "") ∧
      (Sound s ↔ ¬ Unnumbered document) ∧
      (Right document ↔ ¬ Unnumbered document ∧
        (e.get levelVariable ≠ "" →
          ∀ v, Given document "log" "level" v → Kind.level.Holds v)) := by
  rw [loadWith_eq, Except.bind_eq_ok] at h
  obtain ⟨document, reads, h⟩ := h
  have taken := taken_of_ok h
  exact ⟨document, reads, taken.sections, ⟨taken.busyTimeout, taken.git, taken.mailDomain⟩,
    taken.values, taken.sound_iff, taken.right_iff⟩

/-- A state directory. -/
def place : Path := ⟨.slash, ["s"]⟩

/-- Its files, with the given bytes in the file of settings. -/
def filesWith (bytes : List Nat) : FileTree :=
  ⟨[(["s"], .directory), (["s", fileName], .file bytes)]⟩

/-- The bytes of a text of ASCII characters. -/
def ascii (text : String) : List Nat := text.toList.map Char.toNat

/-- With a limit of twelve seconds and the level `info` in the variable, the settings are sound,
though the document asks for the level `loud`. -/
theorem accepted_are_right_of_overriddenLevel :
    let document : Toml.Table :=
      [("merge", .table [("timeout", .whole 12)]), ("log", .table [("level", .text "loud")])]
    ∃ s, loadWith (fun _ _ => .ok document) ⟨[(levelVariable, "info")], [], 0⟩ (filesWith [])
        place = .ok s ∧
      Sound s ∧ ¬ Right document := by
  intro document
  obtain ⟨s, loads⟩ : ∃ s, loadWith (fun _ _ => .ok document) ⟨[(levelVariable, "info")], [], 0⟩
      (filesWith []) place = .ok s := Except.exists_ok (by decide +kernel)
  obtain ⟨read, reads, -, -, -, sound, right⟩ := accepted_are_right loads
  have same : documentIn (fun _ _ => .ok document) (filesWith []) place = .ok document := rfl
  obtain rfl : read = document := Except.ok.inj (reads.symm.trans same)
  refine ⟨s, loads, sound.2 ?_, fun all => ?_⟩
  · rintro (⟨-, members, merge, given⟩ | ⟨-, members, merge, given⟩)
    all_goals
      obtain rfl : [("timeout", Value.whole 12)] = members := by
        simpa [document, Named.get?] using merge
      simp [Named.get?] at given
  · have given : Given document "log" "level" (.text "loud") :=
      ⟨fun empty => (by cases empty), _, rfl, rfl⟩
    obtain ⟨l, named⟩ := (right.1 all).2 (by decide) _ given
    have unknown : Level.ofText? (Text.upper (Text.strip "loud")) = none := by decide +kernel
    rw [Level.ofText?_eq_some_iff.2 named] at unknown
    cases unknown

/-- A limit that is no number is accepted, and leaves settings that are not sound. -/
theorem not_sound_of_nan : ¬ ∀ (e : Environment) (t : FileTree) (dir : Path) (s : Settings),
    load e t dir = .ok s → Sound s := by
  intro all
  have limit : (load ⟨[], [], 0⟩ (filesWith (ascii "[merge]\ntimeout = nan\n")) place).toOption.map
      (·.mergeLimit) = some (some .nan) := by decide +kernel
  obtain ⟨s, loads⟩ :
      ∃ s, load ⟨[], [], 0⟩ (filesWith (ascii "[merge]\ntimeout = nan\n")) place = .ok s :=
    Except.exists_ok (by simpa using congrArg Option.isSome limit)
  rw [loads] at limit
  exact absurd ((all _ _ _ s loads).mergeLimit _ (Option.some.inj limit)) (by decide)

end Forge.Settings
