import Forge.Proofs.Deadline
import Forge.Proofs.Runs

/-!
# Timetables of merges

A `Timed` run is on a clock that goes on only in waits for locks, in transactions and in calls on the
working tree; its timetable has one `Entry` for each request. `Timely` tells of a timetable which
limits the steps were given, when the target was checked out, when the branches were merged at the
latest if no call outlasted its limit, and that a merge that did not end before the deadline was not
recorded. What a step has to be like for the timetable to stay timely is `InTime`.
-/

namespace Forge

variable {τ : Type}

/-- When a request was made and when it was answered. -/
structure Span (τ : Type) where
  start : τ
  stop : τ

namespace Request

/-- Whether time may pass until the answer: in waits for locks, in transactions and in the working
tree. -/
def takesTime : {β : Type} → Request τ β → Bool
  | _, .takeLock .. | _, .takeFile .. | _, .transact .. | _, .tree _ | _, .process _ => true
  | _, .clock | _, .openTree _ | _, .dropLock _ | _, .dropFile _ | _, .log _ => false

/-- The clock tells the time. -/
def Tells : {β : Type} → Request τ β → β → τ → Prop
  | _, .clock, t, now => t = now
  | _, _, _, _ => True

end Request

/-- The events happen one after the other from `now` on, on a clock that never goes back and goes on
only where time may pass. -/
inductive Timed [LE τ] : τ → List (Answered τ (Span τ)) → Prop
  | nil {now : τ} : Timed now []
  | cons {now : τ} {e : Answered τ (Span τ)} {trace : List (Answered τ (Span τ))}
      (starts : e.scene.start = now) (forward : now ≤ e.scene.stop)
      (still : e.request.takesTime = false → e.scene.stop = now)
      (tells : e.request.Tells e.answer now) (later : Timed e.scene.stop trace) :
      Timed now (e :: trace)

namespace Merge

open Deadline

/-! ## Timetables -/

/-- What a merge waits for, and how long it is ready to. -/
inductive Errand (τ : Type) where
  | lock (limit : Option τ)
  | file (deadline : Option τ)
  | transaction (write : Bool) (limit : Option τ)
  | checkout (limit : Option τ)
  | look (limit : Option τ)
  | merge (limit : Option τ)
  | other

namespace Errand

/-- The limit of a transaction or of a call on the working tree. -/
def limit? : Errand τ → Option τ
  | .transaction _ limit | .checkout limit | .look limit | .merge limit => limit
  | .lock _ | .file _ | .other => none

/-- Whether a limit could have been given and was not. -/
def isUnlimited : Errand τ → Bool
  | .transaction _ none | .checkout none | .look none | .merge none => true
  | _ => false

def isLook : Errand τ → Bool
  | .look _ => true
  | _ => false

end Errand

/-- The errand of a request. -/
def errand : {β : Type} → Request τ β → Errand τ
  | _, .takeLock _ limit => .lock limit
  | _, .takeFile _ deadline => .file deadline
  | _, .transact write limit _ => .transaction write limit
  | _, .tree (.checkout _ limit) => .checkout limit
  | _, .tree (.contains _ _ limit) => .look limit
  | _, .tree (.merge _ _ _ limit) => .merge limit
  | _, _ => .other

/-- An errand, its beginning and its end. -/
structure Entry (τ : Type) where
  errand : Errand τ
  start : τ
  stop : τ

/-- The timetable of a run. -/
def timetable (trace : List (Answered τ (Span τ))) : List (Entry τ) :=
  trace.map fun e => ⟨errand e.request, e.scene.start, e.scene.stop⟩

/-- The limits that transactions and calls were given, in their order. -/
def limits (log : List (Entry τ)) : List τ :=
  log.filterMap fun e => e.errand.limit?

/-- A call with a limit has not outlasted it. -/
def Entry.Punctual [Add τ] [LE τ] (e : Entry τ) : Prop :=
  match e.errand with
  | .checkout (some l) | .look (some l) | .merge (some l) => e.stop ≤ e.start + l
  | _ => True

/-! ## Pasts -/

/-- The time, and the timetable up to now. -/
structure Past (τ : Type) where
  now : τ
  log : List (Entry τ)

/-- The past once an errand has been done. -/
def Past.note (p : Past τ) (x : Errand τ) (stop : τ) : Past τ :=
  ⟨stop, p.log ++ [⟨x, p.now, stop⟩]⟩

/-- Nothing but moments lies between two pasts. -/
structure Lull (p p' : Past τ) : Prop where
  now : p'.now = p.now
  kept : ∀ e ∈ p.log, e ∈ p'.log
  idle : ∀ e ∈ p'.log, e ∈ p.log ∨ e.errand = .other ∧ e.stop = p.now

section Past

variable {p p' p'' : Past τ} {x : Errand τ} {stop : τ}

theorem forall_note {P : Entry τ → Prop} :
    (∀ e ∈ (p.note x stop).log, P e) ↔ (∀ e ∈ p.log, P e) ∧ P ⟨x, p.now, stop⟩ := by
  simp only [Past.note, List.forall_mem_append, List.forall_mem_singleton]

theorem limits_note : limits (p.note x stop).log = limits p.log ++ x.limit?.toList := by
  simp only [limits, Past.note, List.filterMap_append]
  cases h : x.limit? <;> simp [h]

/-- The first look of a merge stays its first. -/
theorem find_look_note {e : Entry τ}
    (h : (p.note x stop).log.find? (fun e => e.errand.isLook) = some e) :
    p.log.find? (fun e => e.errand.isLook) = some e ∨
      (∀ e ∈ p.log, ¬ e.errand.isLook = true) ∧ e.errand = x := by
  simp only [Past.note, List.find?_append] at h
  cases before : p.log.find? (fun e => e.errand.isLook) with
  | some e' =>
    rw [before] at h
    exact .inl h
  | none =>
    rw [before, Option.none_or] at h
    refine .inr ⟨List.find?_eq_none.1 before, ?_⟩
    rw [List.mem_singleton.1 (List.mem_of_find?_eq_some h)]

/-- One lull after another is a lull. -/
theorem Lull.trans (h : Lull p p') (h' : Lull p' p'') : Lull p p'' := by
  refine ⟨h'.now.trans h.now, fun e he => h'.kept e (h.kept e he), fun e he => ?_⟩
  rcases h'.idle e he with he | ⟨idle, stops⟩
  · exact h.idle e he
  · exact .inr ⟨idle, stops.trans h.now⟩

theorem Lull.moment (p : Past τ) : Lull p (p.note .other p.now) := by
  refine ⟨rfl, fun e he => List.mem_append_left _ he, ?_⟩
  exact forall_note.2 ⟨fun e he => .inl he, .inr ⟨rfl, rfl⟩⟩

variable [Preorder τ]

/-- No errand has ended later than now. -/
def Settled (p : Past τ) : Prop :=
  ∀ e ∈ p.log, e.stop ≤ p.now

/-- Neither have the branches been merged, nor has anything been recorded. -/
structure Standing (p : Past τ) : Prop where
  settled : Settled p
  unmerged : ∀ e ∈ p.log, ∀ limit, e.errand ≠ .merge limit
  unwritten : ∀ e ∈ p.log, ∀ limit, e.errand ≠ .transaction true limit

theorem Settled.note (h : Settled p) (forward : p.now ≤ stop) : Settled (p.note x stop) :=
  forall_note.2 ⟨fun e he => (h e he).trans forward, le_rfl⟩

theorem Settled.lull (h : Settled p) (hl : Lull p p') : Settled p' := by
  intro e he
  rw [hl.now]
  rcases hl.idle e he with he | ⟨-, stops⟩
  · exact h e he
  · exact stops.le

theorem Standing.note (h : Standing p) (forward : p.now ≤ stop) (merge : ∀ limit, x ≠ .merge limit)
    (write : ∀ limit, x ≠ .transaction true limit) : Standing (p.note x stop) :=
  ⟨h.settled.note forward, forall_note.2 ⟨h.unmerged, merge⟩,
    forall_note.2 ⟨h.unwritten, write⟩⟩

theorem Standing.lull (h : Standing p) (hl : Lull p p') : Standing p' := by
  refine ⟨h.settled.lull hl, ?_, ?_⟩
  · intro e he limit merged
    rcases hl.idle e he with he | ⟨idle, -⟩
    · exact h.unmerged e he limit merged
    · exact absurd (idle.symm.trans merged) nofun
  · intro e he limit written
    rcases hl.idle e he with he | ⟨idle, -⟩
    · exact h.unwritten e he limit written
    · exact absurd (idle.symm.trans written) nofun

end Past

variable [AddCommGroup τ] [LinearOrder τ]

/-- How a merge that began at `s` with the timeout `T` has spent its time. -/
structure Timely (s T : τ) (log : List (Entry τ)) : Prop where
  /-- The waits for the locks end. -/
  lock : ∀ e ∈ log, ∀ limit, e.errand = .lock limit → ∃ l, limit = some l ∧ 0 ≤ l ∧ l ≤ max 0 T
  file : ∀ e ∈ log, ∀ deadline, e.errand = .file deadline →
    ∃ t, deadline = some t ∧ s ≤ t ∧ t ≤ due s T
  /-- Every transaction and every call has a limit, but for looks after the first. -/
  limited : ∀ e ∈ log, e.errand.isUnlimited = true → e.errand = .look none
  look : ∀ e, log.find? (fun e => e.errand.isLook) = some e → e.errand ≠ .look none
  bounded : ∀ l ∈ limits log, 0 ≤ l ∧ l ≤ max 0 T
  falling : (limits log).Pairwise (· ≥ ·)
  /-- No branch is checked out after the deadline. -/
  prompt : ∀ e ∈ log, ∀ limit, e.errand = .checkout limit → e.start < due s T
  /-- If the calls keep to their limits, the branches are merged by the deadline. -/
  inTime : (∀ e ∈ log, e.Punctual) → ∀ e ∈ log, ∀ limit, e.errand = .merge limit →
    e.stop ≤ due s T
  /-- What was not merged before the deadline is not recorded. -/
  unrecorded : ∀ e ∈ log, ∀ limit, e.errand = .merge limit → due s T ≤ e.stop →
    ∀ e' ∈ log, ∀ limit', e'.errand ≠ .transaction true limit'

/-! ## Terms -/

/-- What a merge goes for: every limit is what is left, the target is checked out before the
deadline, the branches are merged while nothing is recorded, and only what was merged before the
deadline is recorded. -/
def InTime (s T : τ) (p : Past τ) : Errand τ → Prop
  | .lock limit => ∃ l, limit = some l ∧ 0 ≤ l ∧ l ≤ max 0 T
  | .file deadline => ∃ t, deadline = some t ∧ s ≤ t ∧ t ≤ due s T
  | .transaction write limit => limit = some (left (due s T) p.now) ∧
    (write = true → ∀ e ∈ p.log, ∀ limit, e.errand = .merge limit → e.stop < due s T)
  | .checkout limit => limit = some (left (due s T) p.now) ∧ p.now < due s T
  | .look limit => limit = some (left (due s T) p.now) ∨
    limit = none ∧ ∃ e ∈ p.log, e.errand.isLook = true
  | .merge limit => limit = some (left (due s T) p.now) ∧
    ((∀ e ∈ p.log, e.Punctual) → p.now ≤ due s T) ∧
      ∀ e ∈ p.log, ∀ limit, e.errand ≠ .transaction true limit
  | .other => True

/-- The terms of a merge in time. -/
def pacing (s T : τ) : Terms τ (Past τ) where
  may r p := InTime s T p (errand r)
  answers r p b p' := ∃ stop, p.now ≤ stop ∧ (r.takesTime = false → stop = p.now) ∧
    r.Tells b p.now ∧ p' = p.note (errand r) stop

/-! ## One errand -/

section Step

variable {s T stop : τ} {p : Past τ} {x : Errand τ}

/-- The limit of a request in time is what is left of the time of the merge. -/
theorem InTime.limit (h : InTime s T p x) {l : τ} (hl : x.limit? = some l) :
    l = left (due s T) p.now := by
  cases x with
  | transaction write limit => exact Option.some.inj (hl.symm.trans h.1)
  | checkout limit => exact Option.some.inj (hl.symm.trans h.1)
  | merge limit => exact Option.some.inj (hl.symm.trans h.1)
  | look limit =>
    rcases h with h | ⟨h, -⟩
    · exact Option.some.inj (hl.symm.trans h)
    · exact absurd (hl.symm.trans h) nofun
  | lock | file | other => cases hl

/-- Only a look can be unlimited, and only one that is not the first. -/
theorem InTime.unlimited (h : InTime s T p x) (hx : x.isUnlimited = true) :
    x = .look none ∧ ∃ e ∈ p.log, e.errand.isLook = true := by
  have given {limit : Option τ} (hl : limit = none) : limit ≠ some (left (due s T) p.now) := by
    rw [hl]
    nofun
  cases x with
  | transaction write limit =>
    cases limit with
    | none => exact absurd h.1 (given rfl)
    | some l => cases hx
  | checkout limit =>
    cases limit with
    | none => exact absurd h.1 (given rfl)
    | some l => cases hx
  | merge limit =>
    cases limit with
    | none => exact absurd h.1 (given rfl)
    | some l => cases hx
  | look limit =>
    rcases h with h | ⟨rfl, before⟩
    · rw [h] at hx
      cases hx
    · exact ⟨rfl, before⟩
  | lock | file | other => cases hx

/-- The timetable up to now is timely, and no limit was shorter than what is left. -/
structure Kept (s T : τ) (p : Past τ) : Prop where
  since : s ≤ p.now
  above : ∀ l ∈ limits p.log, left (due s T) p.now ≤ l
  timely : Timely s T p.log

variable [IsOrderedAddMonoid τ]

omit [IsOrderedAddMonoid τ] in
theorem Kept.start : Kept s T ⟨s, []⟩ :=
  ⟨le_rfl, nofun, ⟨nofun, nofun, nofun, nofun, nofun, .nil, nofun, fun _ => nofun, nofun⟩⟩

/-- Errands in time keep the timetable timely. -/
theorem Kept.note (h : Kept s T p) (allowed : InTime s T p x) (forward : p.now ≤ stop) :
    Kept s T (p.note x stop) := by
  have given {l : τ} (hl : l ∈ x.limit?.toList) : l = left (due s T) p.now :=
    allowed.limit (Option.mem_toList.1 hl)
  refine ⟨h.since.trans forward, ?_, ?_⟩
  · rw [limits_note]
    intro l hl
    rcases List.mem_append.1 hl with hl | hl
    · exact (left_anti forward).trans (h.above l hl)
    · rw [given hl]
      exact left_anti forward
  constructor
  case lock =>
    refine forall_note.2 ⟨h.timely.lock, ?_⟩
    rintro limit rfl
    exact allowed
  case file =>
    refine forall_note.2 ⟨h.timely.file, ?_⟩
    rintro deadline rfl
    exact allowed
  case limited => exact forall_note.2 ⟨h.timely.limited, fun hx => (allowed.unlimited hx).1⟩
  case look =>
    intro e he hx
    rcases find_look_note he with he | ⟨none, rfl⟩
    · exact h.timely.look e he hx
    · have unlimited : e.errand.isUnlimited = true := by
        rw [hx]
        rfl
      obtain ⟨-, e', he', hlook⟩ := allowed.unlimited unlimited
      exact none e' he' hlook
  case bounded =>
    rw [limits_note]
    intro l hl
    rcases List.mem_append.1 hl with hl | hl
    · exact h.timely.bounded l hl
    · rw [given hl]
      exact ⟨left_nonneg _ _, left_le h.since⟩
  case falling =>
    rw [limits_note]
    refine List.pairwise_append.2 ⟨h.timely.falling, ?_, ?_⟩
    · cases x.limit? with
      | none => exact .nil
      | some l => exact List.pairwise_singleton _ l
    · intro l hl l' hl'
      rw [given hl']
      exact h.above l hl
  case prompt =>
    refine forall_note.2 ⟨h.timely.prompt, ?_⟩
    rintro limit rfl
    exact allowed.2
  case inTime =>
    intro punctual
    obtain ⟨before, last⟩ := forall_note.1 punctual
    refine forall_note.2 ⟨h.timely.inTime before, ?_⟩
    rintro limit rfl
    obtain ⟨rfl, onTime, -⟩ := allowed
    calc stop ≤ p.now + left (due s T) p.now := last
      _ = due s T := add_left (onTime before)
  case unrecorded =>
    refine forall_note.2 ⟨fun e he limit merged late => forall_note.2
      ⟨h.timely.unrecorded e he limit merged late, ?_⟩, ?_⟩
    · rintro limit' rfl
      exact absurd (allowed.2 rfl e he limit merged) (not_lt.2 late)
    · rintro limit rfl late
      exact forall_note.2 ⟨allowed.2.2, nofun⟩

/-- What the terms allow and answer keeps the timetable timely. -/
theorem Kept.next {p' : Past τ} {β : Type} {r : Request τ β} {b : β} (h : Kept s T p)
    (may : (pacing s T).may r p) (answers : (pacing s T).answers r p b p') : Kept s T p' := by
  obtain ⟨stop, forward, -, -, rfl⟩ := answers
  exact h.note may forward

end Step

/-- If the calls have kept to their limits, the deadline has not passed. -/
def OnTime (s T : τ) (p : Past τ) : Prop :=
  (∀ e ∈ p.log, e.Punctual) → p.now ≤ due s T

section OnTime

variable {s T stop : τ} {p p' : Past τ} {x : Errand τ}

omit [AddCommGroup τ] [LinearOrder τ] in
theorem OnTime.lull [AddCommGroup τ] [LinearOrder τ] (h : OnTime s T p) (hl : Lull p p') :
    OnTime s T p' := by
  intro punctual
  rw [hl.now]
  exact h fun e he => punctual e (hl.kept e he)

/-- A call that keeps to what was left ends by the deadline. -/
theorem OnTime.note [IsOrderedAddMonoid τ] (h : OnTime s T p)
    (limited : Entry.Punctual ⟨x, p.now, stop⟩ → stop ≤ p.now + left (due s T) p.now) :
    OnTime s T (p.note x stop) := by
  intro punctual
  obtain ⟨before, last⟩ := forall_note.1 punctual
  calc stop ≤ p.now + left (due s T) p.now := limited last
    _ = due s T := add_left (h before)

end OnTime

end Merge

end Forge
