import Forge.Proofs.Text.Trim
import Forge.Settings.Load
import Mathlib.Algebra.Order.Ring.Rat
import Mathlib.Tactic.Positivity

/-!
# What the readers of settings answer

A document gives values to settings in its sections. Each setting is to be of a type and in a range
(`Kind.Holds`), and there is one reader for each kind. A reader takes the values of its kind and
refuses all others in words, with three exceptions: the reader of seconds takes what is no number,
too, and cannot take in whole numbers that no double is near, and the reader of the database's path
cannot take in a path below a home directory that is not known.
-/

namespace Forge

/-! ## Outcomes in sequence -/

namespace Except

variable {ε α β : Type} {x : Except ε α} {next : α → Except ε β}

theorem bind_eq_ok {b : β} : (x >>= next) = .ok b ↔ ∃ a, x = .ok a ∧ next a = .ok b := by
  cases x <;> simp [bind, Except.bind]

theorem bind_eq_error {e : ε} :
    (x >>= next) = .error e ↔ x = .error e ∨ ∃ a, x = .ok a ∧ next a = .error e := by
  cases x <;> simp [bind, Except.bind]

theorem exists_ok (some : x.toOption.isSome = true) : ∃ a, x = .ok a := by
  cases x with
  | ok a => exact ⟨a, rfl⟩
  | error e => cases some

end Except

/-! ## Positive numbers -/

namespace Binary64

open Number

/-- The number is greater than zero. -/
def Positive (x : Binary64) : Prop := (zeroOf false).lt x = true

instance (x : Binary64) : Decidable x.Positive := inferInstanceAs (Decidable (_ = true))

/-- A finite number is positive if and only if its value is. -/
theorem positive_finite_iff {negative : Bool} {m : Nat} {e : Int} :
    (finite negative m e).Positive ↔ 0 < (finite negative m e).toRat?.getD 0 := by
  simp [Positive, lt, zeroOf, toRat?]

/-- What is not at most zero is greater than zero, or is no number. -/
theorem not_le_zero_iff {x : Binary64} :
    x.le (zeroOf false) = false ↔ x.Positive ∨ x = .nan := by
  cases x with
  | finite negative m e =>
    rw [positive_finite_iff, ← not_le]
    simp [le, zeroOf, toRat?]
  | infinite negative => cases negative <;> decide
  | nan => decide

theorem one_le_roundHalfEven {n d : Nat} (pos : 0 < d) (large : d ≤ n) :
    1 ≤ roundHalfEven n d := by
  have whole : 1 ≤ n / d := (Nat.one_le_div_iff pos).2 large
  simp only [roundHalfEven]
  split_ifs <;> omega

theorem pow2_pos (e : Int) : 0 < pow2 e := by
  unfold pow2
  split
  · exact_mod_cast Nat.pow_pos (by decide)
  · rw [Rat.mkRat_eq_div]
    have : (0 : Rat) < (Nat.pow 2 (-e).toNat : Nat) := by
      exact_mod_cast Nat.pow_pos (by decide)
    positivity

theorem floorLog2_one {n : Nat} (pos : n ≠ 0) : floorLog2 n 1 = Nat.log2 n := by
  have one : Nat.log2 1 = 0 := by decide
  simp [floorLog2, one, Nat.log2_self_le pos]

/-- The mantissa of a whole number that is not zero is not lost in rounding. -/
theorem one_le_roundHalfEven_scaleDown {n : Nat} (pos : n ≠ 0) :
    let q := scaleDown n 1 (max (floorLog2 n 1 - 52) minExponent)
    1 ≤ roundHalfEven q.1 q.2 := by
  have low : 2 ^ Nat.log2 n ≤ n := Nat.log2_self_le pos
  rw [floorLog2_one pos]
  generalize exponent : max ((Nat.log2 n : Int) - 52) minExponent = e
  have small : e.toNat ≤ Nat.log2 n := by
    unfold minExponent at exponent
    omega
  simp only [scaleDown]
  split
  · refine one_le_roundHalfEven (by simp) ?_
    rw [one_mul]
    exact (Nat.pow_le_pow_right (by decide) small).trans low
  · exact one_le_roundHalfEven one_pos
      (Nat.mul_pos (Nat.pos_of_ne_zero pos) (Nat.pow_pos (by decide)))

/-- A whole number has a double near it, or is too large for one. -/
theorem ofRatio_one {n : Nat} (pos : n ≠ 0) :
    (∃ m e, 1 ≤ m ∧ ofRatio false n 1 = .finite false m e) ∨
      ofRatio false n 1 = .infinite false := by
  have full := one_le_roundHalfEven_scaleDown pos
  simp only [ofRatio, pos, if_false] at full ⊢
  split_ifs with carry
  · exact .inl ⟨leastFull, _, by decide, rfl⟩
  · exact .inr rfl
  · exact .inl ⟨_, _, full, rfl⟩
  · exact .inr rfl

/-- The double of a positive whole number is positive. -/
theorem positive_of_ofInt? {i : Int} {x : Binary64} (pos : 0 < i) (near : ofInt? i = some x) :
    x.Positive := by
  have nonzero : i.natAbs ≠ 0 := by omega
  have sign : decide (i < 0) = false := decide_eq_false (by omega)
  simp only [ofInt?, ofInt, sign] at near
  rcases ofRatio_one nonzero with ⟨m, e, full, shape⟩ | shape
  · rw [shape] at near
    cases near
    rw [positive_finite_iff]
    have : (0 : Rat) < m := by exact_mod_cast full
    simpa [toRat?] using mul_pos this (pow2_pos e)
  · rw [shape] at near
    cases near

end Binary64

theorem Level.ofText?_eq_some_iff {s : String} {l : Level} : ofText? s = some l ↔ l.text = s := by
  constructor
  · intro found
    simpa using List.find?_some found
  · rintro rfl
    cases l <;> decide

namespace Settings

open Toml (Value)

/-! ## Kinds of settings -/

/-- What a setting is to be. -/
inductive Kind where
  | text
  | whole
  | seconds
  | level
deriving DecidableEq, Repr

/-- The value is of the type of the kind, and in its range. -/
def Kind.Holds : Kind → Value → Prop
  | .text, .text s => Text.strip s ≠ ""
  | .whole, .whole i => 0 < i
  | .seconds, .whole i => 0 < i
  | .seconds, .real x => x.Positive
  | .level, .text s => ∃ l : Level, l.text = Text.upper (Text.strip s)
  | _, _ => False

/-- The document gives the value to a setting of a section. -/
def Given (document : Toml.Table) (part name : String) (v : Value) : Prop :=
  v ≠ .nothing ∧ ∃ members, Named.get? part document = some (.table members) ∧
    Named.get? name members = some v

variable {document members : Toml.Table} {part name setting : String} {v : Value}
  {e : Environment} {dir : Path}

theorem tableOf_eq_ok : tableOf document part = .ok members ↔
    Named.get? part document = some (.table members) ∨
      Named.get? part document = none ∧ members = [] := by
  unfold tableOf
  cases Named.get? part document with
  | none => simp [eq_comm]
  | some v => cases v <;> simp

/-- A setting is given by its section if that is there. -/
theorem given_iff (table : tableOf document part = .ok members) :
    Given document part name v ↔ v ≠ .nothing ∧ Named.get? name members = some v := by
  unfold Given
  rcases tableOf_eq_ok.1 table with there | ⟨missing, rfl⟩
  · simp [there]
  · simp [missing, Named.get?]

/-- A value that is given is the one that is read. -/
theorem given_iff_valueOf (table : tableOf document part = .ok members) :
    Given document part name v ↔ v ≠ .nothing ∧ valueOf members name = v := by
  rw [given_iff table, valueOf]
  cases Named.get? name members with
  | none => simp [eq_comm]
  | some w => simp

/-! ## What is taken -/

/-- A text is taken in without the blanks around it, of which it must not consist. -/
theorem textOf_eq_ok {a : Option String} : textOf setting v = .ok a ↔
    v = .nothing ∧ a = none ∨
      ∃ s, v = .text s ∧ Text.strip s ≠ "" ∧ a = some (Text.strip s) := by
  cases v with
  | nothing => simp [textOf, eq_comm (a := a)]
  | text s => by_cases blank : Text.strip s = "" <;> simp [textOf, blank, eq_comm (a := a)]
  | _ => simp [textOf]

/-- A limit is taken in if it is positive, or not a number. -/
theorem secondsOf_eq_ok {a : Option Binary64} : secondsOf setting v = .ok a ↔
    v = .nothing ∧ a = none ∨
      (∃ i x, v = .whole i ∧ 0 < i ∧ Binary64.ofInt? i = some x ∧ a = some x) ∨
      ∃ x, v = .real x ∧ (x.Positive ∨ x = .nan) ∧ a = some x := by
  cases v with
  | nothing => simp [secondsOf, eq_comm (a := a)]
  | whole i =>
    by_cases low : i ≤ 0
    · simp [secondsOf, low, not_lt.2 low]
    · cases near : Binary64.ofInt? i <;> simp [secondsOf, low, not_le.1 low, near, eq_comm (a := a)]
  | real x =>
    simp only [← Binary64.not_le_zero_iff]
    cases low : x.le (.zeroOf false) <;> simp [secondsOf, low, eq_comm (a := a)]
  | _ => simp [secondsOf]

theorem wholeOf_eq_ok {i : Int} : wholeOf setting v = .ok i ↔ v = .whole i ∧ 0 < i := by
  cases v with
  | whole j =>
    by_cases low : j ≤ 0
    · simp only [wholeOf, low, if_true, Value.whole.injEq, reduceCtorEq, false_iff]
      omega
    · simp only [wholeOf, low, if_false, Value.whole.injEq, Except.ok.injEq]
      omega
  | _ => simp [wholeOf]

theorem levelOf_eq_ok {a : Option Level} : levelOf setting v = .ok a ↔
    v = .nothing ∧ a = none ∨
      ∃ s l, v = .text s ∧ Text.strip s ≠ "" ∧ l.text = Text.upper (Text.strip s) ∧
        a = some l := by
  simp only [levelOf, Except.bind_eq_ok, textOf_eq_ok, ← Level.ofText?_eq_some_iff]
  constructor
  · rintro ⟨_, ⟨rfl, rfl⟩ | ⟨s, rfl, full, rfl⟩, reads⟩
    · exact .inl ⟨rfl, (Except.ok.inj reads).symm⟩
    · dsimp only at reads
      split at reads
      next l named => exact .inr ⟨s, l, rfl, full, named, (Except.ok.inj reads).symm⟩
      · cases reads
  · rintro (⟨rfl, rfl⟩ | ⟨s, l, rfl, full, named, rfl⟩)
    · exact ⟨none, .inl ⟨rfl, rfl⟩, rfl⟩
    · exact ⟨_, .inr ⟨s, rfl, full, rfl⟩, by simp [named]⟩

/-- The path of the database starts at the state directory, after its home directory is known. -/
theorem databaseOf_eq_ok {p : Path} : databaseOf e dir v = .ok p ↔
    v = .nothing ∧ p = dir.child databaseName ∨
      ∃ s q, v = .text s ∧ Text.strip s ≠ "" ∧
        (Path.ofText (Text.strip s)).expandHome e.homeOf = .ok q ∧ p = dir.join q := by
  simp only [databaseOf, Except.bind_eq_ok, textOf_eq_ok]
  constructor
  · rintro ⟨_, ⟨rfl, rfl⟩ | ⟨s, rfl, full, rfl⟩, reads⟩
    · exact .inl ⟨rfl, (Except.ok.inj reads).symm⟩
    · dsimp only at reads
      split at reads
      next q known => exact .inr ⟨s, q, rfl, full, known, (Except.ok.inj reads).symm⟩
      · cases reads
  · rintro (⟨rfl, rfl⟩ | ⟨s, q, rfl, full, known, rfl⟩)
    · exact ⟨none, .inl ⟨rfl, rfl⟩, rfl⟩
    · exact ⟨_, .inr ⟨s, rfl, full, rfl⟩, by simp [known]⟩

/-! ## What is refused -/

section

variable {f : SettingsFault}

theorem tableOf_eq_error (h : tableOf document part = .error f) : f.isInvalid = true := by
  unfold tableOf at h
  split at h <;> cases h
  rfl

theorem textOf_eq_error (h : textOf setting v = .error f) : f.isInvalid = true := by
  unfold textOf at h
  split at h
  · cases h
  · dsimp only at h
    split at h <;> cases h
    rfl
  · cases h
    rfl

/-- A limit is refused with a complaint, unless no double is near it. -/
theorem secondsOf_eq_error (h : secondsOf setting v = .error f) :
    f.isInvalid = true ∨
      f = .tooLarge ∧ ∃ i, v = .whole i ∧ 0 < i ∧ Binary64.ofInt? i = none := by
  unfold secondsOf at h
  split at h
  · cases h
  next i =>
    split at h
    · cases h
      exact .inl rfl
    next high =>
      split at h
      · cases h
      next far =>
        cases h
        exact .inr ⟨rfl, i, rfl, not_le.1 high, far⟩
  · split at h <;> cases h
    exact .inl rfl
  · cases h
    exact .inl rfl

theorem wholeOf_eq_error (h : wholeOf setting v = .error f) : f.isInvalid = true := by
  unfold wholeOf at h
  split at h
  · split at h <;> cases h
    rfl
  · cases h
    rfl

theorem levelOf_eq_error (h : levelOf setting v = .error f) : f.isInvalid = true := by
  rcases Except.bind_eq_error.1 h with h | ⟨text, -, h⟩
  · exact textOf_eq_error h
  · split at h
    · cases h
    · split at h <;> cases h
      rfl

/-- A path is refused with a complaint, unless it is for its home directory. -/
theorem databaseOf_eq_error (h : databaseOf e dir v = .error f) :
    f.isInvalid = true ∨
      ∃ fault, f = .ofHome fault ∧ ∃ s, v = .text s ∧ Text.strip s ≠ "" ∧
        (Path.ofText (Text.strip s)).expandHome e.homeOf = .error fault := by
  rcases Except.bind_eq_error.1 h with h | ⟨text, reads, h⟩
  · exact .inl (textOf_eq_error h)
  · rcases textOf_eq_ok.1 reads with ⟨-, rfl⟩ | ⟨s, shown, full, rfl⟩
    · cases h
    · dsimp only at h
      split at h
      · cases h
      next fault unknown =>
        cases h
        exact .inr ⟨fault, rfl, s, shown, full, unknown⟩

end

/-! ## All settings -/

/-- The document that is read: that of the file, and an empty one if there is no file. -/
def documentIn (read : Path → List Nat → Except SettingsFault Toml.Table) (t : FileTree)
    (dir : Path) : Except SettingsFault Toml.Table :=
  match t.file? (dir.child fileName) with
  | some bytes => read (dir.child fileName) bytes
  | none => .ok []

/-- Loading is reading the document and then taking it in. -/
theorem loadWith_eq (read : Path → List Nat → Except SettingsFault Toml.Table) (e : Environment)
    (t : FileTree) (dir : Path) :
    loadWith read e t dir = documentIn read t dir >>= ofDocument e dir := by
  simp only [loadWith, documentIn]
  cases t.file? (dir.child fileName) <;> rfl

/-- The limit of a wait for a lock. -/
def lockLimitOf (merge : Toml.Table) : Except SettingsFault (Option Binary64) :=
  match Named.get? "lock_timeout" merge with
  | some v => secondsOf "[merge].lock_timeout" v
  | none => .ok (some (Binary64.ofInt 30))

/-- The log level: that of the variable, or else that of the document. -/
def logLevelOf (e : Environment) (log : Toml.Table) : Except SettingsFault (Option Level) := do
  let wanted := e.get levelVariable
  match ← levelOf levelVariable (if wanted = "" then .nothing else .text wanted) with
  | some level => .ok (some level)
  | none => levelOf "[log].level" (valueOf log "level")

/-- The settings of a document are read one after the other. -/
theorem ofDocument_eq (e : Environment) (dir : Path) (document : Toml.Table) :
    ofDocument e dir document = (do
      let database ← tableOf document "database"
      let merge ← tableOf document "merge"
      let log ← tableOf document "log"
      let path ← databaseOf e dir (valueOf database "path")
      let busyTimeout ← wholeOf "[database].busy_timeout_ms"
        ((Named.get? "busy_timeout_ms" database).getD (.whole 5000))
      let lockLimit ← lockLimitOf merge
      let level ← logLevelOf e log
      let git ← textOf "[merge].git" (valueOf merge "git")
      let mergeLimit ← secondsOf "[merge].timeout" (valueOf merge "timeout")
      let mailDomain ← textOf "[merge].email_domain" (valueOf merge "email_domain")
      .ok ⟨dir, path, busyTimeout, git.getD "git", mergeLimit, lockLimit,
        mailDomain.getD "repoflow.local", level.getD .warning⟩) := by
  have leveled : ∀ {α : Type} (next : Option Level → Except SettingsFault α)
      (named logged : Except SettingsFault (Option Level)),
      (named >>= fun found => match found with
        | some level => .ok (some level) >>= next
        | none => logged >>= next) =
      (named >>= fun found => match found with
        | some level => .ok (some level)
        | none => logged) >>= next := by
    intro α next named logged
    rcases named with f | _ | level <;> rfl
  unfold ofDocument lockLimitOf logLevelOf
  refine bind_congr fun database => bind_congr fun merge => bind_congr fun log =>
    bind_congr fun path => bind_congr fun busy => ?_
  cases Named.get? "lock_timeout" merge with
  | none => exact leveled _ _ _
  | some v => exact bind_congr fun lock => leveled _ _ _

end Settings

end Forge
