import Forge.Proofs.FileSystem.Directories
import Forge.Settings.Host

/-!
# Where the state is kept

Without a variable that names it, the state directory is the nearest `.repoflow` at or above the
working directory, or a new one there. Making it may change what later searches find, so the two
are proved together: once the directory is made, it is the one that every search finds from where
it was made, and from further down up to a directory that has its own.
-/

namespace Forge

/-- The path is the other one, or stands above it. -/
structure Path.AtOrAbove (p q : Path) : Prop where
  root : p.root = q.root
  names : p.names <+: q.names

namespace Path

variable {p q r : Path}

theorem AtOrAbove.refl (p : Path) : p.AtOrAbove p := ⟨rfl, List.prefix_refl _⟩

theorem AtOrAbove.trans (pq : p.AtOrAbove q) (qr : q.AtOrAbove r) : p.AtOrAbove r :=
  ⟨pq.root.trans qr.root, pq.names.trans qr.names⟩

theorem AtOrAbove.antisymm (pq : p.AtOrAbove q) (qp : q.AtOrAbove p) : p = q := by
  obtain ⟨root, names⟩ := p
  obtain ⟨same, start⟩ := pq
  cases same
  exact congrArg _ (start.eq_of_length_le qp.names.length_le)

/-- Of two paths above the same one, one stands above the other. -/
theorem AtOrAbove.total (pr : p.AtOrAbove r) (qr : q.AtOrAbove r) :
    p.AtOrAbove q ∨ q.AtOrAbove p :=
  (List.prefix_or_prefix_of_prefix pr.names qr.names).imp
    (fun start => ⟨pr.root.trans qr.root.symm, start⟩)
    (fun start => ⟨qr.root.trans pr.root.symm, start⟩)

instance (p q : Path) : Decidable (p.AtOrAbove q) :=
  decidable_of_iff (p.root = q.root ∧ p.names <+: q.names)
    ⟨fun h => ⟨h.1, h.2⟩, fun h => ⟨h.1, h.2⟩⟩

theorem mem_withParents : p ∈ q.withParents ↔ p.AtOrAbove q := by
  simp only [withParents, List.mem_map, List.mem_range]
  constructor
  · rintro ⟨n, -, rfl⟩
    exact ⟨rfl, List.take_prefix _ _⟩
  · rintro ⟨root, start⟩
    refine ⟨q.names.length - p.names.length, by omega, ?_⟩
    rw [Nat.sub_sub_self start.length_le, ← List.prefix_iff_eq_take.1 start, ← root]

theorem names_prefix_of_child {name : String}
    (start : (p.child name).names <+: (q.child name).names) : p.names <+: q.names :=
  List.prefix_of_prefix_length_le ((List.prefix_append _ _).trans start) (List.prefix_append _ _)
    (by simpa [child] using start.length_le)

theorem isUsable_iff : p.isUsable = true ↔ ∀ n ∈ p.names, ∀ c ∈ n.toList, c.toNat ≠ 0 := by
  simp [isUsable]

theorem mem_settle {done names : List String} {n : String} (mem : n ∈ settle done names) :
    n ∈ done ∨ n ∈ names := by
  induction names generalizing done with
  | nil => exact .inl mem
  | cons first names ih =>
    rw [settle] at mem
    rcases ih mem with before | later
    · split at before
      · exact .inl (List.mem_of_mem_dropLast before)
      · rcases List.mem_append.1 before with old | new
        · exact .inl old
        · exact .inr (List.mem_singleton.1 new ▸ List.mem_cons_self)
    · exact .inr (List.mem_cons_of_mem _ later)

theorem isUsable_resolve (hp : p.isUsable = true) (hq : q.isUsable = true) :
    (resolve p q).isUsable = true := by
  rw [isUsable_iff] at hp hq ⊢
  intro n mem
  have named : n ∈ (p.join q).names := (mem_settle mem).resolve_left List.not_mem_nil
  unfold join at named
  split at named
  · exact hq n named
  · exact (List.mem_append.1 named).elim (hp n) (hq n)

end Path

namespace StateDirectory

open Forge.Path (AtOrAbove)

variable {t : FileTree} {here found v : Path}

/-! ## The nearest one -/

/-- What serves a directory: the nearest state directory at or above it, and if there is none, the
place for one in the directory itself. -/
inductive Serves (t : FileTree) (here : Path) : Path → Prop where
  | nearest {a : Path} (above : a.AtOrAbove here) (holds : t.isDirectory (a.child directoryName))
      (first : ∀ b : Path, b.AtOrAbove here → t.isDirectory (b.child directoryName) →
        b.AtOrAbove a) :
      Serves t here (a.child directoryName)
  | own (none : ∀ b : Path, b.AtOrAbove here → ¬ t.isDirectory (b.child directoryName)) :
      Serves t here (here.child directoryName)

theorem serves_nearest (t : FileTree) (here : Path) : Serves t here (nearest t here) := by
  have parent : ∀ b : Path, b.AtOrAbove here →
      b = ⟨here.root,
        here.names.take (here.names.length - (here.names.length - b.names.length))⟩ := by
    intro b above
    obtain ⟨root, names⟩ := b
    have short := above.names.length_le
    rw [Nat.sub_sub_self short, ← List.prefix_iff_eq_take.1 above.names]
    exact congrArg (Path.mk · names) above.root
  simp only [nearest, Path.withParents, List.map_map, List.find?_map]
  cases search : (List.range (here.names.length + 1)).find? _ with
  | none =>
    refine .own fun b above holds => ?_
    rw [List.find?_range_eq_none] at search
    have absent := search (here.names.length - b.names.length) (by omega)
    simp only [Function.comp_apply, ← parent b above, holds, Bool.not_true, Bool.false_eq_true]
      at absent
  | some n =>
    obtain ⟨holds, -, before⟩ := List.find?_range_eq_some.1 search
    refine .nearest ⟨rfl, List.take_prefix _ _⟩ holds fun b above other => ?_
    refine ⟨above.root, ?_⟩
    have later : ¬ here.names.length - b.names.length < n := by
      intro sooner
      have absent := before _ sooner
      simp only [Function.comp_apply, ← parent b above, other, Bool.not_true, Bool.false_eq_true]
        at absent
    have short := above.names.length_le
    refine List.prefix_of_prefix_length_le above.names (List.take_prefix _ _) ?_
    rw [List.length_take]
    omega

/-- Whatever serves a directory is the state directory of one at or above it, and every one that
holds a state directory stands above that. -/
theorem Serves.place (serves : Serves t here found) :
    ∃ a : Path, a.AtOrAbove here ∧ found = a.child directoryName ∧
      ∀ b : Path, b.AtOrAbove here → t.isDirectory (b.child directoryName) → b.AtOrAbove a := by
  cases serves with
  | nearest above holds first => exact ⟨_, above, rfl, first⟩
  | own none => exact ⟨_, .refl _, rfl, fun b above holds => absurd holds (none b above)⟩

theorem Serves.unique {other : Path} (serves : Serves t here found) (also : Serves t here other) :
    found = other := by
  cases serves with
  | nearest above holds first =>
    cases also with
    | nearest above' holds' first' =>
      rw [(first' _ above holds).antisymm (first _ above' holds')]
    | own none => exact absurd holds (none _ above)
  | own none =>
    cases also with
    | nearest above holds first => exact absurd holds (none _ above)
    | own none => rfl

/-! ## Once it is made -/

/-- No directory below `here`, down to `v`, has a state directory of its own. -/
def NoneBelow (t : FileTree) (here v : Path) : Prop :=
  ∀ b : Path, here.AtOrAbove b → b ≠ here → b.AtOrAbove v →
    ¬ t.isDirectory (b.child directoryName)

instance (t : FileTree) (here v : Path) : Decidable (NoneBelow t here v) :=
  decidable_of_iff (∀ b ∈ v.withParents, here.AtOrAbove b → b ≠ here →
      ¬ t.isDirectory (b.child directoryName)) <| by
    simp only [Path.mem_withParents]
    exact ⟨fun h b below other above => h b above below other,
      fun h b above below other => h b below other above⟩

theorem isDirectory_addDirectories (clear : ¬ t.Blocked found.names) :
    (t.addDirectories found.names).isDirectory found = true := by
  rw [FileTree.isDirectory, FileTree.entryAt?_addDirectories, if_pos (List.prefix_refl _)]
  cases entry : t.entryAt? found.names with
  | none => rfl
  | some e =>
    cases e with
    | directory => rfl
    | file bytes => exact absurd ⟨_, List.prefix_refl _, bytes, entry⟩ clear

/-- Once the directory is made, it serves all that had none nearer. -/
theorem Serves.addDirectories (serves : Serves t here found) (clear : ¬ t.Blocked found.names)
    (below : here.AtOrAbove v) (none : NoneBelow (t.addDirectories found.names) here v) :
    Serves (t.addDirectories found.names) v found := by
  have holds := isDirectory_addDirectories clear
  obtain ⟨a, above, rfl, first⟩ := serves.place
  refine .nearest (above.trans below) holds fun b reaches other => ?_
  by_cases inside : b.AtOrAbove here
  · -- At or above `here` only directories on the way to `a` are new.
    rw [FileTree.isDirectory, FileTree.entryAt?_addDirectories, beq_iff_eq,
      Option.or_eq_some_iff] at other
    rcases other with old | ⟨-, new⟩
    · exact first b inside (by rw [FileTree.isDirectory, old]; rfl)
    · split at new
      next start =>
        exact ⟨inside.root.trans above.root.symm, Path.names_prefix_of_child start⟩
      · cases new
  · have outside : here.AtOrAbove b := (reaches.total below).resolve_left inside
    exact absurd other (none b outside (fun same => inside (same ▸ .refl _)) reaches)

/-! ## Searches -/

section find

variable {h : Host} {start : Path} (blank : Text.strip (h.environment.get variableName) = "")
  (usable : start.isUsable = true)

include blank usable in
theorem find_eq : find h start = .ok (nearest h.files (Path.resolve h.directory start)) := by
  simp [find, blank, usable]

theorem locate_of_made {files : FileTree} (finds : find h start = .ok found)
    (makes : h.files.makeDirectories found = .ok files) : locate h start = .ok (found, files) := by
  simp [locate, finds, makes]

theorem locate_of_fault {fault : DirectoryFault} (finds : find h start = .ok found)
    (fails : h.files.makeDirectories found = .error fault) :
    locate h start = .error (.blocked fault) := by
  simp [locate, finds, fails]

end find

/-- A search for the state directory: the working directory of the program that makes it, the
directory to be served, and whether the state directory is made if it is missing. -/
structure Search where
  directory : Path
  start : Path
  makes : Bool

namespace Search

variable {e : Environment} {s : Search}

/-- The directory that is to be served, as an absolute path. -/
def place (s : Search) : Path :=
  Path.resolve s.directory s.start

/-- Both paths can be given to the operating system. -/
def Usable (s : Search) : Prop :=
  s.directory.isUsable = true ∧ s.start.isUsable = true

/-- What a search answers, and the files that it leaves. -/
def outcome (e : Environment) (t : FileTree) (s : Search) : Except Fault Path × FileTree :=
  let h : Host := ⟨e, s.directory, t⟩
  if s.makes then
    match locate h s.start with
    | .ok (found, files) => (.ok found, files)
    | .error fault => (.error fault, t)
  else (find h s.start, t)

/-- The answers of searches one after the other, and the files after the last one. -/
def run (e : Environment) (t : FileTree) : List Search → List (Except Fault Path) × FileTree
  | [] => ([], t)
  | s :: rest =>
    let (answer, t) := s.outcome e t
    let (answers, t) := run e t rest
    (answer :: answers, t)

/-- A search that finds a directory that is there leaves the files as they are. -/
theorem outcome_of_serves (blank : Text.strip (e.get variableName) = "") (usable : s.Usable)
    (grounded : t.Grounded) (serves : Serves t s.place found) (there : t.isDirectory found = true)
    (fit : found.isUsable = true) : s.outcome e t = (.ok found, t) := by
  have finds : find ⟨e, s.directory, t⟩ s.start = .ok found := by
    rw [find_eq (h := ⟨e, s.directory, t⟩) blank usable.2]
    exact congrArg _ ((serves_nearest t _).unique serves)
  have stands : t.entryAt? found.names = some .directory := beq_iff_eq.1 there
  have locates : locate ⟨e, s.directory, t⟩ s.start = .ok (found, t) := by
    refine locate_of_made finds ?_
    rw [FileTree.makeDirectories_of_clear fit
      (FileTree.not_blocked_of_directory grounded stands),
      FileTree.addDirectories_of_directory grounded stands]
  unfold outcome
  split
  · simp only [locates]
  · simp only [finds]

theorem run_of_outcome {searches : List Search}
    (same : ∀ s ∈ searches, s.outcome e t = (.ok found, t)) :
    run e t searches = (List.replicate searches.length (.ok found), t) := by
  induction searches with
  | nil => rfl
  | cons s rest ih =>
    have here := same s List.mem_cons_self
    have later := ih fun s mem => same s (List.mem_cons_of_mem _ mem)
    simp [run, here, later, List.replicate_succ]

end Search

/-! ## The law -/

/-- What making a state directory does to the files: it is there, and all that is new are
directories on the way to it that were missing. -/
structure Made (t t' : FileTree) (found : Path) : Prop where
  grounded : t'.Grounded
  there : t'.isDirectory found = true
  only : ∀ names, t'.entryAt? names = t.entryAt? names ∨
    names <+: found.names ∧ t.entryAt? names = none ∧ t'.entryAt? names = some .directory

theorem made_addDirectories (grounded : t.Grounded) (clear : ¬ t.Blocked found.names) :
    Made t (t.addDirectories found.names) found where
  grounded := grounded.addDirectories clear
  there := isDirectory_addDirectories clear
  only names := by
    rw [FileTree.entryAt?_addDirectories]
    cases t.entryAt? names with
    | some e => exact .inl rfl
    | none =>
      by_cases way : names <+: found.names
      · exact .inr ⟨way, rfl, by rw [if_pos way, Option.none_or]⟩
      · exact .inl (by rw [if_neg way, Option.none_or])

theorem Serves.isUsable (serves : Serves t here found) (usable : here.isUsable = true) :
    found.isUsable = true := by
  obtain ⟨a, above, rfl, -⟩ := serves.place
  have named : (⟨.here, [directoryName]⟩ : Path).isUsable = true := by decide
  rw [Path.isUsable_iff] at usable named ⊢
  intro n mem
  rcases List.mem_append.1 mem with old | own
  · exact usable n (above.names.subset old)
  · exact named n own

/-- **The state directory.** Without a variable that names it, a search finds the nearest state
directory at or above where it starts, or else the place for one there. Making that directory fails
only where a file is in the way, and the system's own steps have then made nothing; otherwise the
directory is there, and nothing is new but it and the missing ones above it. From then on every
search, one that makes directories or one that does not, finds this directory from where it was
made, and from further down as long as no nearer one is met; and none of them changes the files. -/
theorem nearest_and_stays {h : Host} {start : Path} (grounded : h.files.Grounded)
    (blank : Text.strip (h.environment.get variableName) = "") (usable : start.isUsable = true)
    (inside : h.directory.isUsable = true) :
    ∃ found, find h start = .ok found ∧
      (∀ p, Serves h.files (Path.resolve h.directory start) p ↔ p = found) ∧
      (h.files.Blocked found.names →
        (∃ fault, locate h start = .error (.blocked fault)) ∧
        ∃ refusal, h.files.makeUpwards found.names.reverse = (.error refusal, h.files)) ∧
      (¬ h.files.Blocked found.names →
        ∃ files, locate h start = .ok (found, files) ∧
          h.files.makeUpwards found.names.reverse = (.ok (), files) ∧
          Made h.files files found ∧
          ∀ searches : List Search,
            (∀ s ∈ searches, s.Usable ∧ (Path.resolve h.directory start).AtOrAbove s.place ∧
              NoneBelow files (Path.resolve h.directory start) s.place) →
            Search.run h.environment files searches =
              (List.replicate searches.length (.ok found), files)) := by
  have finds := find_eq (h := h) blank usable
  have serves := serves_nearest h.files (Path.resolve h.directory start)
  generalize nearest h.files (Path.resolve h.directory start) = found at finds serves
  have fit := serves.isUsable (Path.isUsable_resolve inside usable)
  have steps := FileTree.makeUpwards_eq grounded fit
  refine ⟨found, finds, fun p => ⟨fun other => other.unique serves, fun same => same ▸ serves⟩,
    fun blocked => ?_, fun clear => ?_⟩
  · obtain ⟨fault, fails⟩ := FileTree.makeDirectories_of_blocked blocked
    rw [fails] at steps
    exact ⟨⟨fault, locate_of_fault finds fails⟩, steps⟩
  · have makes := FileTree.makeDirectories_of_clear fit clear
    have made := made_addDirectories grounded clear
    rw [makes] at steps
    refine ⟨_, locate_of_made finds makes, steps, made, fun searches allowed => ?_⟩
    refine Search.run_of_outcome fun s mem => ?_
    obtain ⟨able, below, none⟩ := allowed s mem
    exact Search.outcome_of_serves blank able made.grounded (serves.addDirectories clear below none)
      made.there fit

/-- In `/p/w`, which has a directory `v`, a state directory is made and found again. -/
theorem nearest_and_stays_of_newDirectory :
    let h : Host := ⟨⟨[(variableName, " ")], [], 0⟩, ⟨.slash, ["p", "w"]⟩,
      FileTree.empty.addDirectories ["p", "w", "v"]⟩
    let found : Path := ⟨.slash, ["p", "w", directoryName]⟩
    h.files.Grounded ∧ Text.strip (h.environment.get variableName) = "" ∧
      ∃ files, locate h ⟨.here, []⟩ = .ok (found, files) ∧ Made h.files files found ∧
        Search.run h.environment files [⟨⟨.slash, ["p", "w", "v"]⟩, ⟨.here, []⟩, true⟩,
          ⟨⟨.slash, ["p"]⟩, ⟨.here, ["w"]⟩, false⟩] = ([.ok found, .ok found], files) := by
  intro h found
  have grounded : h.files.Grounded :=
    FileTree.grounded_empty.addDirectories FileTree.not_blocked_empty
  have blank : Text.strip (h.environment.get variableName) = "" := by decide +kernel
  have usable : (⟨.here, []⟩ : Path).isUsable = true := by decide
  obtain ⟨p, finds, -, -, succeeds⟩ := nearest_and_stays grounded blank usable (by decide)
  obtain rfl : p = found := by
    have : find h ⟨.here, []⟩ = .ok found := by decide +kernel
    exact Except.ok.inj (finds.symm.trans this)
  obtain ⟨files, locates, -, made, later⟩ :=
    succeeds (FileTree.not_blocked_addDirectories FileTree.not_blocked_empty)
  have same : files = h.files.addDirectories found.names := by
    have : locate h ⟨.here, []⟩ = .ok (found, h.files.addDirectories found.names) := by
      decide +kernel
    exact (Prod.ext_iff.1 (Except.ok.inj (locates.symm.trans this))).2
  refine ⟨grounded, blank, files, locates, made, later _ ?_⟩
  subst same
  simp only [Search.Usable, Search.place]
  decide +kernel

end StateDirectory

end Forge
