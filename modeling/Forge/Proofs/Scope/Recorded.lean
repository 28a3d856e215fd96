import Forge.Proofs.Reachable
import Forge.Proofs.Replay
import Forge.Proofs.RepositoryName
import Forge.Proofs.Scope.Operations

/-!
# A repository under its recorded name

Registering a repository records the clean form of the name that it is given, and every operation
cleans the text that it gets before it looks a repository up. So a repository is found under its
recorded name exactly if that is its own clean form, that is, if it is `Repository.Tidy`; then all
operations that are called with the recorded name act on the repository, and removing it removes
that repository with its tickets and no other.
-/

namespace Forge

open Transaction Forge.Action

variable {τ : Type} {r : Repository} {s s' : Store}

/-! ## A client that is alone with the store -/

/-- The answers that a request can get from a store that refuses nothing, with the store before and
after. -/
def Request.AnsweredAlone : {β : Type} → Request τ β → Store → β → Store → Prop
  | _, .transact _ _ body, s, b, s' => ∃ now, fits now = true ∧ (body now).commit s = (b, s')
  | _, q, s, b, s' => Exchange q b s s'

/-- The terms of a client that is alone with a store that refuses nothing. It may ask anything. -/
def Terms.alone : Terms τ Store where
  may _ _ := True
  answers q s b s' := q.AnsweredAlone s b s'

/-- Whatever an action does, it obeys the terms of a client that is alone. -/
theorem Action.obeys_alone {α : Type} {x : Action τ α} :
    x.Obeys Terms.alone (fun _ _ => True) (fun _ _ => True) s := by
  refine obeys_run.2 ?_
  generalize x.run = p
  induction p generalizing s with
  | done a => cases a <;> exact Program.obeys_done.2 trivial
  | ask q next ih => exact Program.obeys_step.2 ⟨trivial, fun b s' _ => ih b⟩

/-- One transaction of a client that is alone ends as its statements do. -/
theorem Workflow.obeys_session_iff {α : Type} {write : Bool} {body : Int → Transaction α}
    {ok : α → Store → Prop} {err : Error → Store → Prop} :
    (session write body : Action τ α).Obeys Terms.alone ok err s ↔
      ∀ now, fits now = true → (∀ a s', (body now).Returns s a s' → ok a s') ∧
        ∀ e, (body now).Fails s e → err e.classified s := by
  refine obeys_bind.trans (obeys_attempt.trans ⟨fun ⟨_, h⟩ now hn => ⟨fun a s' ha => ?_,
    fun e he => ?_⟩, fun h => ⟨trivial, ?_⟩⟩)
  · exact obeys_pure.1 (h (.ok a) s' ⟨now, hn, commit_of_returns ha⟩)
  · exact obeys_throw.1 (h (.error e) s ⟨now, hn, commit_of_fails he⟩)
  · rintro b s' ⟨now, hn, hc⟩
    rcases (body now).commit_cases s with ⟨a, s₁, ha, he⟩ | ⟨e, hf, he⟩
    · rw [he] at hc
      cases hc
      exact obeys_pure.2 ((h now hn).1 a s' ha)
    · rw [he] at hc
      cases hc
      exact obeys_throw.2 ((h now hn).2 e hf)

/-! ## Removing a repository -/

/-- The store without a repository, its tickets and the dependencies at its issues. -/
def Store.without (r : Repository) (s : Store) : Store :=
  { s.dropIssues fun i => i.repoId == r.id with
    repos := s.repos.remove fun r' => r'.id == r.id
    mergeRequests := s.mergeRequests.remove fun m => m.repoId == r.id }

/-- Of the repositories with one name there is just one. -/
theorem Store.WellFormed.name_eq_iff (hs : s.WellFormed) (hr : r ∈ s.repos.rows) {r' : Repository}
    (hr' : r' ∈ s.repos.rows) : r'.name = r.name ↔ r'.id = r.id :=
  ⟨fun h => congrArg (·.id) (hs.eq_of_name_eq hr' hr h),
    fun h => congrArg (·.name) (hs.repos.eq_of_id_eq hr' hr h)⟩

theorem Store.WellFormed.dropRepositories_eq (hs : s.WellFormed) (hr : r ∈ s.repos.rows) :
    (s.dropRepositories fun r' => r'.name == r.name) = s.without r := by
  -- Repositories are dropped by name and their tickets by id.
  have gone (id : Int) :
      (s.repos.any fun r' => r'.name == r.name && r'.id == id) = (id == r.id) := by
    rw [Bool.eq_iff_iff, Table.any, List.any_eq_true, beq_iff_eq]
    constructor
    · rintro ⟨r', hr', h⟩
      obtain ⟨hname, hid⟩ := Bool.and_eq_true_iff.1 h
      rw [← eq_of_beq hid]
      exact (hs.name_eq_iff hr hr').1 (eq_of_beq hname)
    · rintro rfl
      exact ⟨r, hr, by simp⟩
  have rows : (s.repos.remove fun r' => r'.name == r.name) =
      s.repos.remove fun r' => r'.id == r.id := by
    refine congrArg (Table.mk · _) (List.filter_congr fun r' hr' => congrArg (!·) ?_)
    rw [Bool.eq_iff_iff, beq_iff_eq, beq_iff_eq]
    exact hs.name_eq_iff hr hr'
  simp only [dropRepositories, without, gone, rows]

/-! ## Finding a repository -/

/-- The repositories that an answer shows. -/
def Answer.shown : Answer → List Repository
  | .repository r => [r]
  | .repositories rs => rs
  | _ => []

namespace Repository

variable [TimeScale τ]

/-- The recorded name of a repository finds it in the store: asking for it answers the repository,
operations on it act on the repository, and removing it removes the repository and no other. -/
structure FindsItself (τ : Type) [TimeScale τ] (r : Repository) (s : Store) : Prop where
  found (policy : Policy τ) : ((Operation.repository r.name).action policy).Obeys Terms.alone
    (fun a s' => a = .repository r ∧ s' = s) (fun _ _ => False) s
  acts (op : Operation τ) (named : op.scope? = some r.name) : op.ActsOn r s
  removes (policy : Policy τ) : ((Operation.removeRepository r.name).action policy).Obeys
    Terms.alone (fun a s' => a = .nothing ∧ s' = s.without r) (fun _ _ => False) s

theorem FindsItself.cleanName (h : r.FindsItself τ s) : cleanName r.name = .ok r.name := by
  have h₀ := ((Workflow.obeys_session_iff.1 (obeys_map.1 (h.found ⟨none, none, none⟩))) 0 rfl)
  rcases (Store.repositoryNamed r.name).returns_or_fails s with ⟨r', s', hr⟩ | ⟨e, he⟩
  · obtain ⟨ha, -⟩ := h₀.1 r' s' hr
    cases ha
    exact (Store.found_of_returns hr).2.1
  · exact (h₀.2 e he).elim

/-- A name that is its own clean form finds its repository. -/
theorem findsItself_of_cleanName (hs : s.WellFormed) (hr : r ∈ s.repos.rows)
    (h : cleanName r.name = .ok r.name) : r.FindsItself τ s where
  found policy := by
    have named := hs.named hr h
    refine obeys_map.2 (Workflow.obeys_session_iff.2 fun now _ => ⟨fun r' s' hr' => ?_,
      fun e he => not_fails_of_returns named he⟩)
    obtain ⟨rfl, rfl⟩ := returns_unique named hr'
    exact ⟨rfl, rfl⟩
  acts op hop := Operation.actsOn hop (hs.named hr h)
  removes policy := by
    have removed : (Store.deleteRepository r.name).Returns s () (s.without r) :=
      Store.returns_deleteRepository.2
        ⟨r.name, h, ⟨by rw [hs.present]; nofun, hs.writable r hr⟩, ⟨r, hr, rfl⟩,
        (hs.dropRepositories_eq hr).symm⟩
    refine obeys_map.2 (Workflow.obeys_session_iff.2 fun now _ => ⟨fun u s' hu => ?_,
      fun e he => not_fails_of_returns removed he⟩)
    exact ⟨rfl, (returns_unique removed hu).2⟩

/-- In a well-formed store the recorded name of a repository is its own clean form exactly if it is
tidy. -/
theorem cleanName_eq_self_iff (hs : s.WellFormed) (hr : r ∈ s.repos.rows) :
    cleanName r.name = .ok r.name ↔ Tidy r.name := by
  obtain ⟨name, hname⟩ := hs.clean r hr
  exact (clean_of_cleanName hname).cleanName_eq_self_iff

/-- And it finds the repository exactly then. -/
theorem findsItself_iff (hs : s.WellFormed) (hr : r ∈ s.repos.rows) :
    r.FindsItself τ s ↔ Tidy r.name := by
  rw [← cleanName_eq_self_iff hs hr]
  exact ⟨fun h => h.cleanName, fun h => findsItself_of_cleanName hs hr h⟩

end Repository

/-! ## Repositories that are answered -/

/-- What a client that is alone is answered about repositories are rows of the store, which is still
well formed. -/
theorem Operation.answers_rows [TimeScale τ] (hs : s.WellFormed) (policy : Policy τ)
    (op : Operation τ) :
    (op.action policy).Obeys Terms.alone
      (fun a s' => ∀ r ∈ a.shown, s'.WellFormed ∧ r ∈ s'.repos.rows) (fun _ _ => True)
      s := by
  cases op with
  | registerRepository name path =>
    refine obeys_map.2 (obeys_bind.2 (Workflow.obeys_session_iff.2 fun now _ =>
      ⟨fun p s' hp => ?_, fun _ _ => trivial⟩))
    simp only [returns_bind, returns_pure] at hp
    obtain ⟨id, s₁, hc, r, s₂, hn, rfl, rfl⟩ := hp
    obtain ⟨there, -, rfl⟩ := Store.found_of_returns hn
    refine obeys_bind.2 (obeys_log.2 ⟨trivial, ?_⟩)
    rintro _ _ rfl
    refine obeys_pure.2 fun r' hr' => ?_
    rw [List.mem_singleton.1 hr']
    exact ⟨(Store.effect_of_createRepository hc).wellFormed hs, there⟩
  | repository name =>
    refine obeys_map.2 (Workflow.obeys_session_iff.2 fun now _ => ⟨fun r s' hr r' hr' => ?_,
      fun _ _ => trivial⟩)
    obtain ⟨there, -, rfl⟩ := Store.found_of_returns hr
    rw [List.mem_singleton.1 hr']
    exact ⟨hs, there⟩
  | repositories =>
    refine obeys_map.2 (Workflow.obeys_session_iff.2 fun now _ => ⟨fun rs s' hrs r hr => ?_,
      fun _ _ => trivial⟩)
    obtain ⟨-, rfl, rfl⟩ := Store.returns_listRepositories.1 hrs
    exact ⟨hs, (List.mergeSort_perm ..).mem_iff.1 hr⟩
  | _ =>
    refine obeys_map.2 (obeys_alone.mono (fun _ _ _ r hr => ?_) fun _ _ h => h)
    exact absurd hr List.not_mem_nil

namespace Repository

/-- **The recorded name of a repository finds it exactly if it is tidy**, and exactly then it is its
own clean form: in a reachable world, this is so for every repository that an operation answers. -/
theorem findsItself_iff_tidy [TimeScale τ] {directory : Option String} {w : World τ}
    (h : w.Reachable directory) (policy : Policy τ) (op : Operation τ) :
    (op.action policy).Obeys Terms.alone
      (fun a s' => ∀ r ∈ a.shown, (r.FindsItself τ s' ↔ Tidy r.name) ∧
        (cleanName r.name = .ok r.name ↔ Tidy r.name))
      (fun _ _ => True) w.store := by
  refine (Operation.answers_rows h.sound.store policy op).mono (fun a s' ha r hr => ?_)
    fun _ _ h => h
  obtain ⟨hs, hmem⟩ := ha r hr
  exact ⟨findsItself_iff hs hmem, cleanName_eq_self_iff hs hmem⟩

/-- The world after repositories have been registered under some names. -/
def registered (names : List (String × String)) : World Binary64 :=
  (World.fresh .empty).replay <| names.zipIdx.flatMap fun ((name, path), i) =>
    [.call (.registerRepository name path), .serve i 9]

/-- The world after a repository has been registered under an untidy text. -/
def projectName : World Binary64 :=
  registered [(" Tools/Forge.git/ ", "/forge")]

/-- It is found under its recorded name. -/
theorem findsItself_of_projectName : projectName.Reachable none ∧
    (⟨1, "tools/forge", "/forge", 0⟩ : Repository).FindsItself Binary64 projectName.store := by
  have reached : projectName.Reachable none := World.replay_reachable _
  have hrows : projectName.store.repos.rows = [⟨1, "tools/forge", "/forge", 0⟩] := rfl
  refine ⟨reached, ?_⟩
  have listed := (Workflow.obeys_session_iff.1 (obeys_map.1
    (findsItself_iff_tidy reached ⟨none, none, none⟩ .repositories)) 0 rfl).1
  have answered := listed _ _ (Store.returns_listRepositories.2 ⟨nofun, rfl, rfl⟩)
    ⟨1, "tools/forge", "/forge", 0⟩ ((List.mergeSort_perm ..).mem_iff.2 (by rw [hrows]; simp))
  exact answered.1.2 ⟨by decide +kernel, by decide +kernel⟩

/-- The world after two repositories have been registered, the second under a text that ends in
`.git` twice. -/
def nestedSuffix : World Binary64 :=
  registered [("a", "/a"), ("a.git.git", "/b")]

/-- The recorded name of the second, `a.git`, finds the first, and the first is what is removed
under that name. -/
theorem not_findsItself_of_nestedSuffix : nestedSuffix.Reachable none ∧
    ¬ ((Operation.repositories : Operation Binary64).action ⟨none, none, none⟩).Obeys Terms.alone
      (fun a s' => ∀ r ∈ a.shown, r.FindsItself Binary64 s') (fun _ _ => True)
      nestedSuffix.store ∧
    (⟨2, "a.git", "/b", 0⟩ : Repository) ∈ nestedSuffix.store.repos.rows ∧
    (Store.deleteRepository "a.git").Returns nestedSuffix.store ()
      (nestedSuffix.store.without ⟨1, "a", "/a", 0⟩) := by
  have reached : nestedSuffix.Reachable none := World.replay_reachable _
  have hrows : nestedSuffix.store.repos.rows =
      [⟨1, "a", "/a", 0⟩, ⟨2, "a.git", "/b", 0⟩] := rfl
  have clean : cleanName "a.git" = .ok "a" := by decide +kernel
  have first : ⟨1, "a", "/a", 0⟩ ∈ nestedSuffix.store.repos.rows := by
    rw [hrows]
    simp
  have second : ⟨2, "a.git", "/b", 0⟩ ∈ nestedSuffix.store.repos.rows := by
    rw [hrows]
    simp
  refine ⟨reached, fun law => ?_, second, ?_⟩
  · have listed := (Workflow.obeys_session_iff.1 (obeys_map.1 law) 0 rfl).1
    have answered := listed _ _ (Store.returns_listRepositories.2 ⟨nofun, rfl, rfl⟩)
      ⟨2, "a.git", "/b", 0⟩ ((List.mergeSort_perm ..).mem_iff.2 second)
    exact absurd (clean.symm.trans answered.cleanName) (by decide)
  · have writable := reached.sound.store.writable _ first
    exact Store.returns_deleteRepository.2 ⟨"a", clean, ⟨nofun, writable⟩, ⟨_, first, rfl⟩,
      (reached.sound.store.dropRepositories_eq first).symm⟩

end Repository

end Forge
