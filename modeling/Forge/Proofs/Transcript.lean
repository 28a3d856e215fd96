import Forge.Proofs.Frame.Ledger
import Forge.Proofs.Runs

/-!
# Transcripts of calls

The transcript of a call is what its program has asked so far, with the answers and with the stores
before and after each of them. It is a run of the program (`Attained.transcribed`), and so a call
can be followed by taking its program apart: `Action.Ended` says after which transcripts an action
has ended, and how. What other calls do in between shows in the stores only: each is a later one
than those that were seen before it (`Transcript.Faithful`).
-/

namespace Forge

variable {τ κ α β : Type}

/-! ## Runs to the end -/

namespace Program

variable {p q : Program τ α} {trace : List (Answered τ κ)}

theorem runs_done {a b : α} :
    (.done a : Program τ α).Runs trace (.done b) ↔ trace = [] ∧ b = a := by
  constructor
  · intro h
    cases h
    exact ⟨rfl, rfl⟩
  · rintro ⟨rfl, rfl⟩
    exact .stay

/-- A run may be continued with any answer to its last request. -/
theorem Runs.concat {r : Request τ β} {next : β → Program τ α} (h : p.Runs trace (.ask r next))
    (b : β) (scene : κ) : p.Runs (trace ++ [⟨r, b, scene⟩]) (next b) := by
  generalize hq : Program.ask r next = q at h
  induction h with
  | stay =>
    subst hq
    exact .ask .stay
  | ask _ ih => exact .ask (ih hq)

/-- A run of two parts falls into one of the first and one of the second. -/
theorem runs_bind {k : α → Program τ β} {b : β} :
    (p >>= k).Runs trace (.done b) ↔ ∃ a before after, trace = before ++ after ∧
      p.Runs before (.done a) ∧ (k a).Runs after (.done b) := by
  constructor
  · intro h
    rcases runs_bind_cases (p := p) h with ⟨mid, hp, hmid⟩ | parts
    · cases mid with
      | done a =>
        exact ⟨a, trace, [], (List.append_nil trace).symm, hp, hmid ▸ (.stay : (k a).Runs [] (k a))⟩
      | ask r next => cases hmid
    · exact parts
  · rintro ⟨a, before, after, rfl, hp, hk⟩
    exact (hp.bind k).trans hk

end Program

/-- The action has ended so after it was answered so. -/
def Action.Ended (x : Action τ α) (trace : List (Answered τ κ)) (a : Except Error α) : Prop :=
  x.run.Runs trace (.done a)

namespace Action

variable {trace : List (Answered τ κ)}

theorem ended_pure {a : α} {b : Except Error α} :
    (pure a : Action τ α).Ended trace b ↔ trace = [] ∧ b = .ok a :=
  Program.runs_done

theorem ended_throw {e : Error} {b : Except Error α} :
    (throw e : Action τ α).Ended trace b ↔ trace = [] ∧ b = .error e :=
  Program.runs_done

theorem ended_ofExcept {x b : Except Error α} :
    (ofExcept x : Action τ α).Ended trace b ↔ trace = [] ∧ b = x := by
  cases x with
  | ok a => exact ended_pure
  | error e => exact ended_throw

/-- Two parts have ended where the first has failed, or where the second has ended after it. -/
theorem ended_bind {x : Action τ α} {k : α → Action τ β} {b : Except Error β} :
    (x >>= k).Ended trace b ↔ (∃ e, x.Ended trace (.error e) ∧ b = .error e) ∨
      ∃ a before after, trace = before ++ after ∧ x.Ended before (.ok a) ∧ (k a).Ended after b := by
  refine Iff.trans (Program.runs_bind (p := x.run)) ⟨?_, ?_⟩
  · rintro ⟨a | a, before, after, rfl, hx, hk⟩
    · obtain ⟨rfl, rfl⟩ := Program.runs_done.1 hk
      exact .inl ⟨a, (List.append_nil before).symm ▸ hx, rfl⟩
    · exact .inr ⟨a, before, after, rfl, hx, hk⟩
  · rintro (⟨e, hx, rfl⟩ | ⟨a, before, after, rfl, hx, hk⟩)
    · exact ⟨.error e, trace, [], (List.append_nil trace).symm, hx, .stay⟩
    · exact ⟨.ok a, before, after, rfl, hx, hk⟩

theorem ended_map {x : Action τ α} {f : α → β} {b : Except Error β} :
    (f <$> x).Ended trace b ↔ ∃ a, x.Ended trace a ∧ b = f <$> a := by
  refine Iff.trans (Program.runs_bind (p := x.run)) ⟨?_, ?_⟩
  · rintro ⟨a, before, after, rfl, hx, hk⟩
    refine ⟨a, ?_⟩
    cases a <;>
    · obtain ⟨rfl, rfl⟩ := Program.runs_done.1 hk
      exact ⟨(List.append_nil before).symm ▸ hx, rfl⟩
  · rintro ⟨a, hx, rfl⟩
    refine ⟨a, trace, [], (List.append_nil trace).symm, hx, ?_⟩
    cases a <;> exact .stay

/-- A single request has ended with its answer. -/
theorem ended_ask {r : Request τ α} {b : Except Error α} :
    (ask r).Ended trace b ↔ ∃ a scene, trace = [⟨r, a, scene⟩] ∧ b = .ok a := by
  constructor
  · intro h
    cases h with
    | @ask _ _ _ a scene _ _ onward =>
      obtain ⟨rfl, rfl⟩ := Program.runs_done.1 onward
      exact ⟨a, scene, rfl, rfl⟩
  · rintro ⟨a, scene, rfl, rfl⟩
    exact .ask .stay

/-- A request that may be refused has ended in its refusal or its answer. -/
theorem ended_demand {r : Request τ (Except Error α)} {b : Except Error α} :
    (demand r).Ended trace b ↔ ∃ scene, trace = [⟨r, b, scene⟩] := by
  constructor
  · intro h
    cases h with
    | @ask _ _ _ a scene _ _ onward =>
      obtain ⟨rfl, rfl⟩ := Program.runs_done.1 onward
      exact ⟨scene, rfl⟩
  · rintro ⟨scene, rfl⟩
    exact .ask .stay

section Then

variable {k : α → Action τ β} {b : Except Error β}

theorem ended_ofExcept_then {x : Except Error α} :
    (ofExcept x >>= k).Ended trace b ↔ (∃ e, x = .error e ∧ trace = [] ∧ b = .error e) ∨
      ∃ a, x = .ok a ∧ (k a).Ended trace b := by
  rw [ended_bind]
  refine or_congr (exists_congr fun e => ?_) (exists_congr fun a => ?_)
  · rw [ended_ofExcept, eq_comm (a := x)]
    tauto
  · simp only [ended_ofExcept]
    constructor
    · rintro ⟨_, after, rfl, ⟨rfl, rfl⟩, hk⟩
      exact ⟨rfl, hk⟩
    · rintro ⟨rfl, hk⟩
      exact ⟨[], trace, rfl, ⟨rfl, rfl⟩, hk⟩

theorem ended_ask_then {r : Request τ α} :
    (ask r >>= k).Ended trace b ↔
      ∃ a scene after, trace = ⟨r, a, scene⟩ :: after ∧ (k a).Ended after b := by
  rw [ended_bind]
  constructor
  · rintro (⟨e, asked, rfl⟩ | ⟨a, _, after, rfl, asked, hk⟩)
    · obtain ⟨_, _, -, he⟩ := ended_ask.1 asked
      cases he
    · obtain ⟨_, scene, rfl, ha⟩ := ended_ask.1 asked
      cases ha
      exact ⟨a, scene, after, rfl, hk⟩
  · rintro ⟨a, scene, after, rfl, hk⟩
    exact .inr ⟨a, _, after, rfl, ended_ask.2 ⟨a, scene, rfl, rfl⟩, hk⟩

theorem ended_demand_then {r : Request τ (Except Error α)} :
    (demand r >>= k).Ended trace b ↔ ∃ a scene after, trace = ⟨r, a, scene⟩ :: after ∧
      ((∃ e, a = .error e ∧ after = [] ∧ b = .error e) ∨
        ∃ a', a = .ok a' ∧ (k a').Ended after b) := by
  rw [ended_bind]
  constructor
  · rintro (⟨e, asked, rfl⟩ | ⟨a, _, after, rfl, asked, hk⟩)
    · obtain ⟨scene, rfl⟩ := ended_demand.1 asked
      exact ⟨_, scene, [], rfl, .inl ⟨e, rfl, rfl, rfl⟩⟩
    · obtain ⟨scene, rfl⟩ := ended_demand.1 asked
      exact ⟨_, scene, after, rfl, .inr ⟨a, rfl, hk⟩⟩
  · rintro ⟨_, scene, after, rfl, ⟨e, rfl, rfl, rfl⟩ | ⟨a, rfl, hk⟩⟩
    · exact .inl ⟨e, ended_demand.2 ⟨scene, rfl⟩, rfl⟩
    · exact .inr ⟨a, _, after, rfl, ended_demand.2 ⟨scene, rfl⟩, hk⟩

end Then

end Action

namespace Workflow

variable {write : Bool} {body : Int → Transaction α} {trace : List (Answered τ κ)}

/-- What a session does with the answer to its transaction. -/
theorem ended_classified {a b : Except Error α} :
    (match a with
      | .ok a => pure a
      | .error e => throw e.classified : Action τ α).Ended trace b ↔
      trace = [] ∧ b = a.mapError Error.classified := by
  cases a with
  | ok a => exact Action.ended_pure
  | error e => exact Action.ended_throw

/-- A session is one transaction, and puts its failure into a class. -/
theorem ended_session {b : Except Error α} :
    (session write body : Action τ α).Ended trace b ↔ ∃ a scene,
      trace = [⟨.transact write none body, a, scene⟩] ∧ b = a.mapError Error.classified := by
  refine Action.ended_ask_then.trans ⟨?_, ?_⟩
  · rintro ⟨a, scene, after, rfl, hk⟩
    obtain ⟨rfl, rfl⟩ := ended_classified.1 hk
    exact ⟨a, scene, rfl, rfl⟩
  · rintro ⟨a, scene, rfl, rfl⟩
    exact ⟨a, scene, [], rfl, ended_classified.2 ⟨rfl, rfl⟩⟩

theorem ended_session_then {k : α → Action τ β} {b : Except Error β} :
    (session write body >>= k : Action τ β).Ended trace b ↔ ∃ a scene after,
      trace = ⟨.transact write none body, a, scene⟩ :: after ∧
        ((∃ e, a = .error e ∧ after = [] ∧ b = .error e.classified) ∨
          ∃ a', a = .ok a' ∧ (k a').Ended after b) := by
  rw [Action.ended_bind]
  constructor
  · rintro (⟨e, asked, rfl⟩ | ⟨a, _, after, rfl, asked, hk⟩)
    · obtain ⟨a | a, scene, rfl, he⟩ := ended_session.1 asked
      · cases he
        exact ⟨_, scene, [], rfl, .inl ⟨a, rfl, rfl, rfl⟩⟩
      · cases he
    · obtain ⟨a | a, scene, rfl, ha⟩ := ended_session.1 asked
      · cases ha
      · cases ha
        exact ⟨_, scene, after, rfl, .inr ⟨a, rfl, hk⟩⟩
  · rintro ⟨_, scene, after, rfl, ⟨e, rfl, rfl, rfl⟩ | ⟨a, rfl, hk⟩⟩
    · exact .inl ⟨_, ended_session.2 ⟨_, scene, rfl, rfl⟩, rfl⟩
    · exact .inr ⟨a, _, after, rfl, ended_session.2 ⟨_, scene, rfl, rfl⟩, hk⟩

end Workflow

/-! ## Transcripts -/

/-- Answered requests with the stores before and after, the oldest first. -/
abbrev Transcript (τ : Type) := List (Answered τ (Store × Store))

/-- The answers are ones that can be got, from stores each of which is later than those before. -/
structure Transcript.Faithful (t : Transcript τ) : Prop where
  stores : ∀ a ∈ t, a.scene.1.WellFormed
  replies : ∀ a ∈ t, Reply (fun _ => True) a.request a.answer a.scene.1 a.scene.2
  ordered : t.Pairwise fun a a' => a.scene.2.Evolves a'.scene.1

/-- An event as it stands in the transcript of its call. -/
def Event.entry (e : Event τ) : Answered τ (Store × Store) :=
  ⟨e.request, e.answer, (e.before, e.after)⟩

namespace World

/-- What call `i` has had answered so far. -/
def transcript (i : Nat) (w : World τ) : Transcript τ :=
  ((w.log.filter (·.call == i)).map Event.entry).reverse

/-- A transcript has the events of one call and no others. -/
theorem mem_transcript {i : Nat} {w : World τ} {a : Answered τ (Store × Store)} :
    a ∈ w.transcript i ↔ ∃ e ∈ w.log, e.call = i ∧ e.entry = a := by
  simp [transcript, and_assoc]

variable [TimeScale τ] {directory : Option String} {faults : Error → Prop} {w w' : World τ}

/-- The log of an attained world has replies of stores each of which comes from those before. -/
structure Told (w : World τ) : Prop where
  stores : ∀ e ∈ w.log, e.before.WellFormed
  replies : ∀ e ∈ w.log, Reply (fun _ => True) e.request e.answer e.before e.after
  later : ∀ e ∈ w.log, e.after.Evolves w.store
  ordered : w.log.Pairwise fun e' e => e.after.Evolves e'.before

theorem Attained.told (h : w.Attained directory faults) : w.Told := by
  obtain ⟨u, turns⟩ := h
  induction turns with
  | refl =>
    have none (e : Event τ) (he : e ∈ (fresh (.empty u) : World τ).log) : False :=
      List.not_mem_nil he
    exact ⟨fun e he => (none e he).elim, fun e he => (none e he).elim,
      fun e he => (none e he).elim, .nil⟩
  | @tail w w' turns turn ih =>
    have orderly : w.Orderly := Attained.orderly ⟨u, turns⟩
    obtain ⟨now, effect⟩ := turn.effect orderly
    cases turn with
    | begin => exact ⟨ih.stores, ih.replies, ih.later, ih.ordered⟩
    | answer call asks reply =>
      refine ⟨List.forall_mem_cons.2 ⟨orderly.wellFormed, ih.stores⟩,
        List.forall_mem_cons.2 ⟨reply.mono fun _ _ => trivial, ih.replies⟩,
        List.forall_mem_cons.2 ⟨.refl _, fun e he => (ih.later e he).trans effect.evolves⟩,
        List.pairwise_cons.2 ⟨ih.later, ih.ordered⟩⟩

/-- The scenes of a transcript are those that the requests have led from and to. -/
theorem Attained.faithful (h : w.Attained directory faults) (i : Nat) :
    (w.transcript i).Faithful := by
  refine ⟨fun a ha => ?_, fun a ha => ?_, ?_⟩
  · obtain ⟨e, he, -, rfl⟩ := mem_transcript.1 ha
    exact h.told.stores e he
  · obtain ⟨e, he, -, rfl⟩ := mem_transcript.1 ha
    exact h.told.replies e he
  · exact List.pairwise_reverse.2 (List.pairwise_map.2 (h.told.ordered.filter _))

/-- **The transcript of a call is a run of its program.** -/
theorem Attained.transcribed (h : w.Attained directory faults) {i : Nat} {c : Call τ}
    (call : w.calls[i]? = some c) :
    ∃ policy : Policy τ, (c.operation.action policy).run.Runs (w.transcript i) c.rest := by
  obtain ⟨u, turns⟩ := h
  induction turns generalizing i c with
  | refl => simp [fresh] at call
  | @tail w w' turns turn ih =>
    have attained : w.Attained directory faults := ⟨u, turns⟩
    cases turn with
    | @begin process policy op =>
      rcases call_of_concat call with call | ⟨rfl, rfl⟩
      · exact ih call
      · -- Nothing is in the log of a call that has not begun.
        have none : w.transcript w.calls.length = [] := by
          rw [List.eq_nil_iff_forall_not_mem]
          intro a ha
          obtain ⟨e, he, hcall, -⟩ := mem_transcript.1 ha
          obtain ⟨c, hc, -⟩ := attained.booked.known e he
          rw [hcall, List.getElem?_eq_none (Nat.le_refl _)] at hc
          cases hc
        refine ⟨policy, ?_⟩
        show Program.Runs _ (w.transcript w.calls.length) _
        rw [none]
        exact .stay
    | @answer k c₀ β r next b s l before asks =>
      rcases call_of_set call with ⟨rfl, rfl⟩ | ⟨other, call⟩
      · obtain ⟨policy, runs⟩ := ih before
        rw [asks] at runs
        refine ⟨policy, ?_⟩
        simp only [transcript, List.filter_cons, beq_self_eq_true, if_true, List.map_cons,
          List.reverse_cons]
        exact runs.concat b (w.store, s)
      · obtain ⟨policy, runs⟩ := ih call
        refine ⟨policy, ?_⟩
        have apart : (k == i) = false := beq_false_of_ne (Ne.symm other)
        simp only [transcript, List.filter_cons, apart, Bool.false_eq_true, if_false]
        exact runs

end World

end Forge
