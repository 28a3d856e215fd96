import Forge.FileSystem.Tree
import Mathlib.Data.List.Infix

/-!
# Making directories

`makeDirectories` looks over the whole way to a directory before it adds anything. An operating
system makes one directory at a time: it is asked for the last one first, and for those above it
only when they are missing, so it could stop half way. In a grounded tree, where whatever is there
stands in directories, the two come to the same: a file in the way is met before anything is made.
-/

namespace Forge.FileTree

variable {t t' : FileTree} {names way : List String} {p : Path}

/-! ## What is there after an addition -/

@[simp] theorem entryAt?_nil (t : FileTree) : t.entryAt? [] = some .directory := rfl

/-- What is added is found where nothing was before. -/
theorem entryAt?_add (t : FileTree) (names : List String) (e : FileEntry) (way : List String) :
    (t.add names e).entryAt? way =
      (t.entryAt? way).or (if way = names then some e else none) := by
  unfold add
  split
  next there =>
    split
    next same =>
      subst same
      exact (Option.or_of_isSome there).symm
    · exact Option.or_none.symm
  next missing =>
    rw [Option.not_isSome_iff_eq_none] at missing
    by_cases root : way = []
    · rw [root, entryAt?_nil, entryAt?_nil, Option.some_or]
    · unfold entryAt?
      rw [if_neg root, if_neg root, List.find?_append, Option.map_or]
      congr 1
      by_cases same : way = names
      · simp [same]
      · simp [same, Ne.symm same]

/-- To add what is there changes nothing. -/
theorem add_of_isSome (e : FileEntry) (there : (t.entryAt? names).isSome) : t.add names e = t :=
  if_pos there

/-- The starts of the names are added from the shortest on. -/
theorem addDirectories_eq_foldl (t : FileTree) (names : List String) :
    t.addDirectories names = names.inits.foldl (fun t way => t.add way .directory) t := by
  have starts : names.inits = (List.range (names.length + 1)).map names.take :=
    List.ext_getElem (by simp) fun n _ _ => by simp [List.getElem_inits]
  rw [starts, List.foldl_map]
  rfl

theorem addDirectories_concat (t : FileTree) (names : List String) (name : String) :
    t.addDirectories (names ++ [name]) =
      (t.addDirectories names).add (names ++ [name]) .directory := by
  simp [addDirectories_eq_foldl, List.inits_append]

theorem entryAt?_foldl_add (t : FileTree) (ways : List (List String)) (way : List String) :
    (ways.foldl (fun t way => t.add way .directory) t).entryAt? way =
      (t.entryAt? way).or (if way ∈ ways then some .directory else none) := by
  induction ways generalizing t with
  | nil => simp
  | cons first ways ih =>
    rw [List.foldl_cons, ih, entryAt?_add, Option.or_assoc]
    congr 1
    by_cases same : way = first <;> simp [same]

/-- Directories are added at all beginnings of the names where nothing was. -/
theorem entryAt?_addDirectories (t : FileTree) (names way : List String) :
    (t.addDirectories names).entryAt? way =
      (t.entryAt? way).or (if way <+: names then some .directory else none) := by
  rw [addDirectories_eq_foldl, entryAt?_foldl_add]
  simp only [List.mem_inits]

/-! ## What is in the way -/

/-- A file stands at the names or on the way to them. -/
def Blocked (t : FileTree) (names : List String) : Prop :=
  ∃ way, way <+: names ∧ ∃ bytes, t.entryAt? way = some (.file bytes)

/-- A way leads through a file if a proper beginning of it is one. -/
theorem leadsThroughFile_iff : t.leadsThroughFile names = true ↔
    ∃ way, way <+: names ∧ way ≠ names ∧ ∃ bytes, t.entryAt? way = some (.file bytes) := by
  simp only [leadsThroughFile, List.any_eq_true, List.mem_range]
  constructor
  · rintro ⟨n, short, file⟩
    refine ⟨names.take n, List.take_prefix n names, fun whole => ?_, ?_⟩
    · have := congrArg List.length whole
      rw [List.length_take] at this
      omega
    · split at file
      next bytes entry => exact ⟨bytes, entry⟩
      · cases file
  · rintro ⟨way, start, proper, bytes, entry⟩
    rw [List.prefix_iff_eq_take] at start
    refine ⟨way.length, ?_, by rw [← start, entry]⟩
    have longer := congrArg List.length start
    rw [List.length_take] at longer
    refine Nat.lt_of_le_of_ne (by omega) fun same => proper ?_
    rw [start, same, List.take_length]

theorem leadsThroughFile_eq_false (clear : ¬ t.Blocked names) :
    t.leadsThroughFile names = false := by
  rw [← Bool.not_eq_true, leadsThroughFile_iff]
  rintro ⟨way, start, -, file⟩
  exact clear ⟨way, start, file⟩

theorem isSome_file?_iff :
    (t.file? p).isSome = true ↔ ∃ bytes, t.entryAt? p.names = some (.file bytes) := by
  unfold file?
  split <;> simp_all

/-- Directories are made if no file is in the way. -/
theorem makeDirectories_of_clear (usable : p.isUsable = true) (clear : ¬ t.Blocked p.names) :
    t.makeDirectories p = .ok (t.addDirectories p.names) := by
  have free : (t.file? p).isSome = false := by
    rw [← Bool.not_eq_true, isSome_file?_iff]
    exact fun file => clear ⟨p.names, List.prefix_refl _, file⟩
  simp [makeDirectories, usable, leadsThroughFile_eq_false clear, free]

/-- And they are not made where one is. -/
theorem makeDirectories_of_blocked (blocked : t.Blocked p.names) :
    ∃ fault, t.makeDirectories p = .error fault := by
  unfold makeDirectories
  split_ifs with unusable through file
  · exact ⟨_, rfl⟩
  · exact ⟨_, rfl⟩
  · exact ⟨_, rfl⟩
  · obtain ⟨way, start, entry⟩ := blocked
    by_cases whole : way = p.names
    · exact absurd (isSome_file?_iff.2 (whole ▸ entry)) file
    · exact absurd (leadsThroughFile_iff.2 ⟨way, start, whole, entry⟩) through

/-! ## Grounded trees -/

/-- Whatever is there stands in directories, up to the root. -/
def Grounded (t : FileTree) : Prop :=
  ∀ names, (t.entryAt? names).isSome →
    ∀ way, way <+: names → way ≠ names → t.entryAt? way = some .directory

theorem grounded_empty : empty.Grounded := by
  intro names there way start proper
  have root : names = [] := by
    by_contra below
    simp [entryAt?, below, empty] at there
  exact absurd (List.prefix_nil.1 (root ▸ start)) (root ▸ proper)

theorem not_blocked_empty : ¬ empty.Blocked names := by
  rintro ⟨way, -, bytes, file⟩
  unfold entryAt? at file
  split at file <;> cases file

/-- No file is on the way to a directory that is there. -/
theorem not_blocked_of_directory (grounded : t.Grounded)
    (there : t.entryAt? names = some .directory) : ¬ t.Blocked names := by
  rintro ⟨way, start, bytes, file⟩
  by_cases whole : way = names
  · rw [whole, there] at file
    cases file
  · rw [grounded names (by simp [there]) way start whole] at file
    cases file

theorem addDirectories_of_directory (grounded : t.Grounded)
    (there : t.entryAt? names = some .directory) : t.addDirectories names = t := by
  have present : ∀ way ∈ names.inits, (t.entryAt? way).isSome := by
    intro way start
    by_cases whole : way = names
    · simp [whole, there]
    · simp [grounded names (by simp [there]) way ((List.mem_inits _ _).1 start) whole]
  rw [addDirectories_eq_foldl]
  generalize names.inits = ways at present
  induction ways with
  | nil => rfl
  | cons first ways ih =>
    rw [List.foldl_cons, add_of_isSome _ (present first List.mem_cons_self)]
    exact ih fun way mem => present way (List.mem_cons_of_mem _ mem)

/-- Directories that are added stand on directories. -/
theorem Grounded.addDirectories (grounded : t.Grounded) (clear : ¬ t.Blocked names) :
    (t.addDirectories names).Grounded := by
  intro other there way start proper
  rw [entryAt?_addDirectories] at there ⊢
  by_cases old : (t.entryAt? other).isSome
  · rw [grounded other old way start proper, Option.some_or]
  · have inside : other <+: names := by
      by_contra outside
      simp_all
    have := start.trans inside
    cases entry : t.entryAt? way with
    | none => simp [this]
    | some e =>
      cases e with
      | directory => rfl
      | file bytes => exact absurd ⟨way, this, bytes, entry⟩ clear

/-! ## One directory at a time -/

/-- Why the operating system does not make a directory. -/
inductive MakeRefusal where
  | missing
  | notDirectory
  | exists
deriving DecidableEq, Repr

/-- The tree with one directory more, in a directory that is there. -/
def makeDirectory (t : FileTree) (names : List String) : Except MakeRefusal FileTree :=
  if t.leadsThroughFile names then .error .notDirectory
  else if (t.entryAt? names).isSome then .error .exists
  else if t.entryAt? names.dropLast = some .directory then .ok (t.add names .directory)
  else .error .missing

/-- What becomes of a refusal: nothing, if the directory is there. -/
def excuse (t : FileTree) (names : List String) (refusal : MakeRefusal) :
    Except MakeRefusal Unit × FileTree :=
  if t.entryAt? names = some .directory then (.ok (), t) else (.error refusal, t)

/-- A directory is asked for and, when those above it are missing, asked for again after they have
been made in the same way. The names are given last one first; the tree is what is left behind,
with or without success. -/
def makeUpwards (t : FileTree) : List String → Except MakeRefusal Unit × FileTree
  | [] => t.excuse [] .exists
  | name :: above =>
    let names := (name :: above).reverse
    match t.makeDirectory names with
    | .ok t => (.ok (), t)
    | .error .missing =>
      match t.makeUpwards above with
      | (.ok (), t) =>
        match t.makeDirectory names with
        | .ok t => (.ok (), t)
        | .error .missing => (.error .missing, t)
        | .error refusal => t.excuse names refusal
      | failed => failed
    | .error refusal => t.excuse names refusal

theorem makeDirectory_of_through (through : t.leadsThroughFile names = true) :
    t.makeDirectory names = .error .notDirectory :=
  if_pos through

theorem makeDirectory_of_there (through : t.leadsThroughFile names = false)
    (there : (t.entryAt? names).isSome = true) : t.makeDirectory names = .error .exists := by
  simp [makeDirectory, through, there]

/-- One directory is made if the one above it is there. -/
theorem makeDirectory_concat {name : String} (clear : ¬ t.Blocked (names ++ [name]))
    (missing : t.entryAt? (names ++ [name]) = none) :
    t.makeDirectory (names ++ [name]) =
      if t.entryAt? names = some .directory then .ok (t.add (names ++ [name]) .directory)
      else .error .missing := by
  simp [makeDirectory, leadsThroughFile_eq_false clear, missing]

/-- What is in the way of a beginning is in the way of the whole. -/
theorem Blocked.mono (blocked : t.Blocked way) (start : way <+: names) : t.Blocked names := by
  obtain ⟨first, before, file⟩ := blocked
  exact ⟨first, before.trans start, file⟩

/-- Directories bring no file into the way. -/
theorem not_blocked_addDirectories (clear : ¬ t.Blocked names) :
    ¬ (t.addDirectories way).Blocked names := by
  rintro ⟨first, start, bytes, file⟩
  rw [entryAt?_addDirectories] at file
  cases entry : t.entryAt? first with
  | none =>
    rw [entry, Option.none_or] at file
    split at file <;> simp at file
  | some e =>
    rw [entry, Option.some_or] at file
    exact clear ⟨first, start, bytes, entry.trans file⟩

/-- To make a directory after those above it, which are made when it fails without them, comes to
all of them being there. -/
theorem makeUpwards_of_clear (grounded : t.Grounded) :
    ∀ above : List String, ¬ t.Blocked above.reverse →
      t.makeUpwards above = (.ok (), t.addDirectories above.reverse) := by
  intro above
  induction above with
  | nil =>
    intro _
    rw [List.reverse_nil, addDirectories_of_directory grounded (entryAt?_nil t)]
    rfl
  | cons name above ih =>
    intro clear
    rw [makeUpwards]
    rw [List.reverse_cons] at clear ⊢
    have before : above.reverse <+: above.reverse ++ [name] := List.prefix_append _ _
    cases entry : t.entryAt? (above.reverse ++ [name]) with
    | some e =>
      -- It is there, and no file: nothing is made.
      obtain rfl : e = .directory := by
        cases e with
        | directory => rfl
        | file bytes => exact absurd ⟨_, List.prefix_refl _, bytes, entry⟩ clear
      rw [makeDirectory_of_there (leadsThroughFile_eq_false clear) (by simp [entry]),
        addDirectories_of_directory grounded entry]
      exact if_pos entry
    | none =>
      rw [makeDirectory_concat clear entry, addDirectories_concat]
      by_cases stands : t.entryAt? above.reverse = some .directory
      · rw [if_pos stands, addDirectories_of_directory grounded stands]
      · -- Those above come first; then there is room for this one.
        have room : (t.addDirectories above.reverse).entryAt? (above.reverse ++ [name]) = none := by
          rw [entryAt?_addDirectories, entry, if_neg fun start =>
            absurd start.length_le (by simp)]
          rfl
        have stood : (t.addDirectories above.reverse).entryAt? above.reverse = some .directory := by
          rw [entryAt?_addDirectories]
          cases at? : t.entryAt? above.reverse with
          | none => simp
          | some e =>
            cases e with
            | directory => exact absurd at? stands
            | file bytes => exact absurd ⟨_, before, bytes, at?⟩ clear
        rw [if_neg stands]
        simp only
        rw [ih fun blocked => clear (blocked.mono before)]
        simp only
        rw [makeDirectory_concat (not_blocked_addDirectories clear) room, if_pos stood]

/-- A file in the way stops this before anything is made. -/
theorem makeUpwards_of_blocked (grounded : t.Grounded) {above : List String}
    (blocked : t.Blocked above.reverse) :
    ∃ refusal, t.makeUpwards above = (.error refusal, t) := by
  have absent : t.entryAt? above.reverse ≠ some .directory :=
    fun there => not_blocked_of_directory grounded there blocked
  cases above with
  | nil => exact absurd (entryAt?_nil t) absent
  | cons name above =>
    have kept : ∀ refusal, t.excuse (name :: above).reverse refusal = (.error refusal, t) :=
      fun refusal => if_neg absent
    rw [makeUpwards]
    by_cases through : t.leadsThroughFile (name :: above).reverse = true
    · rw [makeDirectory_of_through through]
      exact ⟨_, kept _⟩
    · obtain ⟨way, start, file⟩ := blocked
      have whole : way = (name :: above).reverse := by
        by_contra proper
        exact through (leadsThroughFile_iff.2 ⟨way, start, proper, file⟩)
      obtain ⟨bytes, entry⟩ := file
      rw [makeDirectory_of_there (Bool.not_eq_true _ ▸ through) (by simp [← whole, entry])]
      exact ⟨_, kept _⟩

/-- **Making directories one by one.** On a grounded tree the two ways to make a directory succeed
together and leave the same tree; and where they fail, nothing has been made. -/
theorem makeUpwards_eq (grounded : t.Grounded) (usable : p.isUsable = true) :
    match t.makeDirectories p with
    | .ok made => t.makeUpwards p.names.reverse = (.ok (), made)
    | .error _ => ∃ refusal, t.makeUpwards p.names.reverse = (.error refusal, t) := by
  by_cases blocked : t.Blocked p.names
  · obtain ⟨fault, fails⟩ := makeDirectories_of_blocked blocked
    rw [fails]
    exact makeUpwards_of_blocked grounded (p.names.reverse_reverse.symm ▸ blocked)
  · rw [makeDirectories_of_clear usable blocked]
    simpa using makeUpwards_of_clear grounded p.names.reverse (by simpa using blocked)

end Forge.FileTree
