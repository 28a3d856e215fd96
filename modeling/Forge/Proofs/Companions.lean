import Forge.Json.Companions
import Forge.Proofs.Named
import Forge.Proofs.Text.Parts

/-!
# Documents with readable companions

Adding companions to the times of a document takes nothing from it: without them it is the document
again, if none of its objects already has a member of such a name (`Json.withStamps_extends`).
Adding them twice adds nothing either, whatever members there are. For that the members of an object
are followed while they are shown one by one: a companion of a time stands right after it or has
stood before it, and in the second case it will not be shown again (`Json.Settled`).
-/

namespace Forge.Json

open Named

/-! ## Values and their parts -/

/-- What holds of a value if it holds of the items and members in it holds of every value. -/
@[elab_as_elim]
theorem parts_induction {motive : Json → Prop} (null : motive .null) (bool : ∀ b, motive (.bool b))
    (int : ∀ i, motive (.int i)) (real : ∀ x, motive (.real x)) (str : ∀ s, motive (.str s))
    (arr : ∀ vs, (∀ v ∈ vs, motive v) → motive (.arr vs))
    (obj : ∀ ms, (∀ m ∈ ms, motive m.2) → motive (.obj ms)) (v : Json) : motive v :=
  @Json.rec motive (fun vs => ∀ v ∈ vs, motive v) (fun ms => ∀ m ∈ ms, motive m.2)
    (fun m => motive m.2) null bool int real str arr obj (List.forall_mem_nil _)
    (fun _ _ first rest => List.forall_mem_cons.2 ⟨first, rest⟩) (List.forall_mem_nil _)
    (fun _ _ first rest => List.forall_mem_cons.2 ⟨first, rest⟩) (fun _ _ value => value) v

mutual

/-- The members of every object in the value satisfy `P`, at every depth. -/
def EachObject (P : List (String × Json) → Prop) : Json → Prop
  | .arr vs => EachInItems P vs
  | .obj ms => P ms ∧ EachInMembers P ms
  | _ => True

/-- The members of every object in the items satisfy `P`. -/
def EachInItems (P : List (String × Json) → Prop) : List Json → Prop
  | [] => True
  | v :: vs => EachObject P v ∧ EachInItems P vs

/-- The members of every object in the members satisfy `P`. -/
def EachInMembers (P : List (String × Json) → Prop) : List (String × Json) → Prop
  | [] => True
  | (_, v) :: ms => EachObject P v ∧ EachInMembers P ms

end

/-- The text that a member is shown by: that of its value if it is a time by name and by value. -/
def memberText? (key : String) (value : Json) : Option String :=
  if namesTime key then stampText? value else none

/-- The name of the companion that a member gets. -/
def companionOf? (key : String) (value : Json) : Option String :=
  (memberText? key value).map fun _ => companionName key

/-- The companion that a member gets. -/
def companions (key : String) (value : Json) : List (String × Json) :=
  match memberText? key value with
  | some s => [(companionName key, .str s)]
  | none => []

mutual

/-- The value without the companions in it: the members that stand right after the time whose
companions they are. -/
def withoutStamps : Json → Json
  | .arr vs => .arr (itemsWithoutStamps vs)
  | .obj ms => .obj (membersWithoutStamps none ms)
  | v => v

/-- Every item without the companions in it. -/
def itemsWithoutStamps : List Json → List Json
  | [] => []
  | v :: vs => withoutStamps v :: itemsWithoutStamps vs

/-- The members without their companions, of which that of the member before may stand first. -/
def membersWithoutStamps (companion : Option String) :
    List (String × Json) → List (String × Json)
  | [] => []
  | (k, v) :: ms =>
    if companion = some k then membersWithoutStamps none ms
    else (k, withoutStamps v) :: membersWithoutStamps (companionOf? k v) ms

end

variable {P Q : List (String × Json) → Prop} {k : String} {v : Json} {vs : List Json}
  {ms : List (String × Json)}

theorem eachInItems_iff : EachInItems P vs ↔ ∀ v ∈ vs, EachObject P v := by
  induction vs with
  | nil => simp [EachInItems]
  | cons v vs ih => rw [EachInItems, ih, List.forall_mem_cons]

theorem eachInMembers_iff : EachInMembers P ms ↔ ∀ m ∈ ms, EachObject P m.2 := by
  induction ms with
  | nil => simp [EachInMembers]
  | cons m ms ih => rw [EachInMembers, ih, List.forall_mem_cons]

theorem itemsWithStamps_eq : itemsWithStamps vs = vs.map withStamps := by
  induction vs with
  | nil => rfl
  | cons v vs ih => rw [itemsWithStamps, ih, List.map_cons]

theorem itemsWithoutStamps_eq : itemsWithoutStamps vs = vs.map withoutStamps := by
  induction vs with
  | nil => rfl
  | cons v vs ih => rw [itemsWithoutStamps, ih, List.map_cons]

/-! ## Companions and their names -/

theorem toList_companionName (k : String) :
    (companionName k).toList = k.toList ++ "_iso".toList := by
  rw [companionName, String.toList_append]

theorem companionName_inj {k k' : String} (h : companionName k = companionName k') : k = k' := by
  have texts := congrArg String.toList h
  rw [toList_companionName, toList_companionName, List.append_cancel_right_eq] at texts
  exact String.toList_injective texts

theorem namesTime_companionName (k : String) : namesTime (companionName k) = false := by
  rw [Bool.eq_false_iff, namesTime, ne_eq, Text.endsWith_iff, toList_companionName]
  rintro ⟨x, same⟩
  have last := congrArg List.getLast? same
  rw [List.getLast?_append_of_ne_nil _ (by decide), List.getLast?_append_of_ne_nil _ (by decide)]
    at last
  exact absurd last (by decide)

theorem companionName_ne_of_namesTime {k : String} (h : namesTime k = true) (k' : String) :
    companionName k' ≠ k := by
  rintro rfl
  exact Bool.false_ne_true (namesTime_companionName k' ▸ h)

theorem stampText?_withStamps (v : Json) : stampText? v.withStamps = stampText? v := by
  cases v <;> rfl

@[simp] theorem memberText?_withStamps (k : String) (v : Json) :
    memberText? k v.withStamps = memberText? k v := by
  rw [memberText?, stampText?_withStamps, memberText?]

theorem memberText?_companionName (k : String) (v : Json) :
    memberText? (companionName k) v = none := by
  rw [memberText?, if_neg (by simp [namesTime_companionName])]

theorem namesTime_of_memberText? {s : String} (h : memberText? k v = some s) :
    namesTime k = true := by
  unfold memberText? at h
  split at h
  · assumption
  · cases h

theorem addMember_of_some {s : String} {shown : Json} {done : List (String × Json)}
    (h : memberText? k v = some s) :
    addMember k v shown done = put (companionName k) (.str s) (put k shown done) := by
  unfold memberText? at h
  rw [addMember, h]

theorem addMember_of_none {shown : Json} {done : List (String × Json)}
    (h : memberText? k v = none) : addMember k v shown done = put k shown done := by
  unfold memberText? at h
  rw [addMember, h]

/-! ## Objects without companions -/

/-- No two members have one name. -/
def Distinct (ms : List (String × Json)) : Prop :=
  (names ms).Nodup

theorem distinct_append {a b : List (String × Json)} : Distinct (a ++ b) ↔
    Distinct a ∧ Distinct b ∧ ∀ k ∈ names a, ∀ k' ∈ names b, k ≠ k' := by
  rw [Distinct, names_append, List.nodup_append, Distinct, Distinct]

/-- No member has the name of the companion of a time beside it. -/
def Unclaimed (ms : List (String × Json)) : Prop :=
  ∀ k ∈ names ms, namesTime k = true → companionName k ∉ names ms

/-- The members, each with its companion after it. -/
def accompanied (ms : List (String × Json)) : List (String × Json) :=
  ms.flatMap fun m => (m.1, withStamps m.2) :: companions m.1 m.2

theorem accompanied_cons (k : String) (v : Json) (ms : List (String × Json)) :
    accompanied ((k, v) :: ms) = (k, withStamps v) :: (companions k v ++ accompanied ms) :=
  rfl

theorem names_companions (k : String) (v : Json) :
    names (companions k v) = (companionOf? k v).toList := by
  unfold companions companionOf?
  cases memberText? k v <;> rfl

theorem mem_names_accompanied {name : String} : name ∈ names (accompanied ms) ↔
    name ∈ names ms ∨ ∃ m ∈ ms, companionOf? m.1 m.2 = some name := by
  induction ms with
  | nil => simp [accompanied]
  | cons m ms ih =>
    rw [accompanied_cons m.1 m.2, names_cons, names_append, List.mem_cons, List.mem_append, ih,
      names_companions, Option.mem_toList, names_cons, List.mem_cons,
      List.exists_mem_cons_iff]
    tauto

theorem companionOf?_eq_some {name : String} (h : companionOf? k v = some name) :
    namesTime k = true ∧ name = companionName k := by
  obtain ⟨s, hs, rfl⟩ := Option.map_eq_some_iff.1 h
  exact ⟨namesTime_of_memberText? hs, rfl⟩

/-- If no member has the name of a companion, the names are still distinct with the companions. -/
theorem distinct_accompanied (distinct : Distinct ms) (free : Unclaimed ms) :
    Distinct (accompanied ms) := by
  induction ms with
  | nil => exact List.nodup_nil
  | cons m ms ih =>
    obtain ⟨k, v⟩ := m
    obtain ⟨fresh, distinct⟩ := List.nodup_cons.1 distinct
    have rest : Distinct (accompanied ms) := ih distinct fun k hk time mem =>
      free k (List.mem_cons_of_mem _ hk) time (List.mem_cons_of_mem _ mem)
    have absent : k ∉ names (accompanied ms) := by
      intro mem
      rcases mem_names_accompanied.1 mem with mem | ⟨⟨k', v'⟩, hm, companion⟩
      · exact fresh mem
      · obtain ⟨time, rfl⟩ := companionOf?_eq_some companion
        exact free k' (List.mem_cons_of_mem _ (mem_names_of_mem hm)) time List.mem_cons_self
    rw [Distinct, accompanied_cons, names_cons, names_append, names_companions]
    cases companion : companionOf? k v with
    | none => exact List.nodup_cons.2 ⟨absent, rest⟩
    | some c =>
      obtain ⟨time, rfl⟩ := companionOf?_eq_some companion
      have other : k ≠ companionName k := (companionName_ne_of_namesTime time k).symm
      have absent' : companionName k ∉ names (accompanied ms) := by
        intro mem
        rcases mem_names_accompanied.1 mem with mem | ⟨⟨k', v'⟩, hm, companion'⟩
        · exact free k List.mem_cons_self time (List.mem_cons_of_mem _ mem)
        · rw [companionName_inj (companionOf?_eq_some companion').2] at fresh
          exact fresh (mem_names_of_mem hm)
      exact List.nodup_cons.2 ⟨mt List.mem_cons.1 (not_or.2 ⟨other, absent⟩),
        List.nodup_cons.2 ⟨absent', rest⟩⟩

theorem addMember_eq_append {done : List (String × Json)} {shown : Json}
    (distinct : Distinct (done ++ (k, shown) :: companions k v)) :
    addMember k v shown done = done ++ (k, shown) :: companions k v := by
  obtain ⟨-, apart, fresh⟩ := distinct_append.1 distinct
  have put_key : put k shown done = done ++ [(k, shown)] :=
    put_of_notMem fun mem => fresh k mem k List.mem_cons_self rfl
  unfold companions at *
  cases hs : memberText? k v with
  | none => rw [addMember_of_none hs, put_key]
  | some s =>
    simp only [hs] at distinct
    rw [addMember_of_some hs, put_key, put_of_notMem, List.append_assoc, List.singleton_append]
    rw [List.append_cons] at distinct
    exact fun mem => (distinct_append.1 distinct).2.2 _ mem _ List.mem_cons_self rfl

/-- Members whose names stay distinct with their companions are shown one after the other. -/
theorem membersWithStamps_eq_append {done : List (String × Json)}
    (distinct : Distinct (done ++ accompanied ms)) :
    membersWithStamps done ms = done ++ accompanied ms := by
  induction ms generalizing done with
  | nil => rw [membersWithStamps, accompanied, List.flatMap_nil, List.append_nil]
  | cons m ms ih =>
    obtain ⟨k, v⟩ := m
    have split : done ++ accompanied ((k, v) :: ms) =
        done ++ (k, withStamps v) :: companions k v ++ accompanied ms := by
      rw [accompanied_cons, List.append_assoc, List.cons_append]
    rw [split] at distinct ⊢
    rw [membersWithStamps, addMember_eq_append (distinct_append.1 distinct).1, ih distinct]

theorem membersWithoutStamps_accompanied
    (values : ∀ m ∈ ms, withoutStamps (withStamps m.2) = m.2) :
    membersWithoutStamps none (accompanied ms) = ms := by
  induction ms with
  | nil => rfl
  | cons m ms ih =>
    obtain ⟨k, v⟩ := m
    obtain ⟨value, values⟩ := List.forall_mem_cons.1 values
    rw [accompanied_cons, membersWithoutStamps, if_neg nofun, value, companionOf?,
      memberText?_withStamps]
    unfold companions
    cases memberText? k v with
    | none => rw [List.nil_append, Option.map_none, ih values]
    | some s =>
      rw [List.singleton_append, Option.map_some, membersWithoutStamps, if_pos rfl, ih values]

/-- Each time has its companion right after it, and no other member has a companion. -/
def Accompanied (ms : List (String × Json)) : Prop :=
  ∀ k v, (k, v) ∈ ms → namesTime k = true →
    match stampText? v with
    | some s => [(k, v), (companionName k, .str s)] <:+: ms
    | none => companionName k ∉ names ms

theorem accompanied_append (a b : List (String × Json)) :
    accompanied (a ++ b) = accompanied a ++ accompanied b :=
  List.flatMap_append

theorem mem_accompanied {w : Json} (h : (k, w) ∈ accompanied ms) (time : namesTime k = true) :
    ∃ v, (k, v) ∈ ms ∧ w = withStamps v := by
  obtain ⟨⟨k', v⟩, hm, mem⟩ := List.mem_flatMap.1 h
  rcases List.mem_cons.1 mem with same | mem
  · cases same
    exact ⟨v, hm, rfl⟩
  · have companion : companionOf? k' v = some k :=
      Option.mem_toList.1 (names_companions k' v ▸ mem_names_of_mem mem)
    rw [(companionOf?_eq_some companion).2, namesTime_companionName] at time
    cases time

theorem accompanied_accompanied (distinct : Distinct ms) (free : Unclaimed ms) :
    Accompanied (accompanied ms) := by
  intro k w mem time
  obtain ⟨v, hv, rfl⟩ := mem_accompanied mem time
  rw [stampText?_withStamps]
  have text : memberText? k v = stampText? v := if_pos time
  cases hs : stampText? v with
  | some s =>
    obtain ⟨a, b, rfl⟩ := List.append_of_mem hv
    have companion : companions k v = [(companionName k, .str s)] := by
      rw [companions, text, hs]
    refine ⟨accompanied a, accompanied b, ?_⟩
    rw [accompanied_append, accompanied_cons, companion, List.append_assoc]
    rfl
  | none =>
    intro mem
    rcases mem_names_accompanied.1 mem with mem | ⟨⟨k', v'⟩, hm, companion⟩
    · exact free k (mem_names_of_mem hv) time mem
    · obtain rfl := companionName_inj (companionOf?_eq_some companion).2
      obtain rfl := (Prod.mk.inj (List.inj_on_of_nodup_map distinct hm hv rfl)).2
      rw [companionOf?, text, hs] at companion
      cases companion

theorem withStamps_obj (distinct : Distinct ms) (free : Unclaimed ms) :
    withStamps (.obj ms) = .obj (accompanied ms) := by
  rw [withStamps, membersWithStamps_eq_append (distinct_accompanied distinct free),
    List.nil_append]

theorem withoutStamps_withStamps (v : Json) (distinct : v.EachObject Distinct)
    (free : v.EachObject Unclaimed) : v.withStamps.withoutStamps = v := by
  induction v using parts_induction with
  | arr vs ih =>
    rw [EachObject, eachInItems_iff] at distinct free
    rw [withStamps, withoutStamps, itemsWithStamps_eq, itemsWithoutStamps_eq, List.map_map]
    congr 1
    have items : vs.map (withoutStamps ∘ withStamps) = vs.map id :=
      List.map_congr_left fun v hv => ih v hv (distinct v hv) (free v hv)
    exact items.trans (List.map_id vs)
  | obj ms ih =>
    rw [EachObject, eachInMembers_iff] at distinct free
    rw [withStamps_obj distinct.1 free.1, withoutStamps, membersWithoutStamps_accompanied]
    exact fun m hm => ih m hm (distinct.2 m hm) (free.2 m hm)
  | _ => rfl

theorem accompanied_withStamps (v : Json) (distinct : v.EachObject Distinct)
    (free : v.EachObject Unclaimed) : v.withStamps.EachObject Accompanied := by
  induction v using parts_induction with
  | arr vs ih =>
    rw [EachObject, eachInItems_iff] at distinct free
    rw [withStamps, EachObject, eachInItems_iff, itemsWithStamps_eq, List.forall_mem_map]
    exact fun v hv => ih v hv (distinct v hv) (free v hv)
  | obj ms ih =>
    rw [EachObject, eachInMembers_iff] at distinct free
    rw [withStamps_obj distinct.1 free.1, EachObject, eachInMembers_iff]
    refine ⟨accompanied_accompanied distinct.1 free.1, fun m mem => ?_⟩
    obtain ⟨m', hm', mem⟩ := List.mem_flatMap.1 mem
    rcases List.mem_cons.1 mem with rfl | mem
    · exact ih m' hm' (distinct.2 m' hm') (free.2 m' hm')
    · unfold companions at mem
      split at mem
      · rw [List.mem_singleton.1 mem]
        trivial
      · cases mem
  | _ => trivial

/-! ## Members that have been shown -/

/-- Members that have been shown, with those of the names `waiting` still to come: showing them once
more changes nothing, also after those. A time has its companion right after it, or the right text
stands before it under the name of its companion and is there to stay. -/
structure Settled (waiting : List String) (ms : List (String × Json)) : Prop where
  distinct : Distinct ms
  fixed : ∀ m ∈ ms, withStamps m.2 = m.2
  stamped : ∀ k v s, (k, v) ∈ ms → memberText? k v = some s →
    [k, companionName k] <:+: names ms ∨
      (companionName k, .str s) ∈ ms ∧ [companionName k, k].Sublist (names ms) ∧
        companionName k ∉ waiting
  awaited : ∀ k ∈ waiting, k ∈ names ms → ∃ k' ∈ names ms, k = companionName k'

namespace Settled

variable {waiting : List String} {done : List (String × Json)} {shown : Json}

/-- What has been shown is not affected by members at the end. -/
theorem stamped_append (h : Settled (k :: waiting) done) (more : List (String × Json)) {k' : String}
    {v' : Json} {s : String} (mem : (k', v') ∈ done) (text : memberText? k' v' = some s) :
    [k', companionName k'] <:+: names (done ++ more) ∨
      (companionName k', .str s) ∈ done ∧
        [companionName k', k'].Sublist (names (done ++ more)) ∧ companionName k' ∉ waiting := by
  rw [names_append]
  rcases h.stamped k' v' s mem text with next | ⟨there, before, stays⟩
  · exact .inl (next.trans (List.prefix_append _ _).isInfix)
  · exact .inr ⟨there, before.trans (List.sublist_append_left _ _),
      fun waits => stays (List.mem_cons_of_mem k waits)⟩

/-- A member with the name of a companion that is there takes its place. -/
theorem overwrite (h : Settled (k :: waiting) done) (mem : k ∈ names done)
    (fixed : withStamps shown = shown) : Settled waiting (put k shown done) := by
  have same : names (put k shown done) = names done := names_put_of_mem mem
  obtain ⟨origin, -, companion⟩ := h.awaited k List.mem_cons_self mem
  refine ⟨by rw [Distinct, same]; exact h.distinct, ?_, ?_, ?_⟩
  · intro m hm
    rcases (mem_put h.distinct).1 hm with rfl | ⟨hm, -⟩
    · exact fixed
    · exact h.fixed m hm
  · intro k' v' s hm text
    rw [same]
    rcases (mem_put h.distinct).1 hm with hm | ⟨hm, other⟩
    · rw [(Prod.mk.inj hm).1, companion, memberText?_companionName] at text
      cases text
    · refine (h.stamped k' v' s hm text).imp_right fun ⟨there, before, stays⟩ => ?_
      have kept : companionName k' ≠ k := fun same => stays (same ▸ List.mem_cons_self)
      exact ⟨(mem_put h.distinct).2 (.inr ⟨there, kept⟩), before,
        fun waits => stays (List.mem_cons_of_mem k waits)⟩
  · intro q waits hq
    rw [same] at hq ⊢
    exact h.awaited q (List.mem_cons_of_mem k waits) hq

/-- With a new member at the end, what is waited for is as it was. -/
theorem awaited_append (h : Settled (k :: waiting) done) (fresh : k ∉ waiting) {q : String}
    (waits : q ∈ waiting) (hq : q ∈ names (done ++ [(k, shown)])) :
    q ∈ names done ∧ ∃ k' ∈ names done, q = companionName k' := by
  rw [names_append, names_cons, names_nil] at hq
  have mem : q ∈ names done := by
    refine (List.mem_append.1 hq).resolve_right fun last => ?_
    obtain rfl : q = k := List.mem_singleton.1 last
    exact fresh waits
  exact ⟨mem, h.awaited q (List.mem_cons_of_mem k waits) mem⟩

theorem distinct_append (h : Settled (k :: waiting) done) (new : k ∉ names done) :
    Distinct (done ++ [(k, shown)]) :=
  Json.distinct_append.2 ⟨h.distinct, List.nodup_singleton k,
    fun _ hx _ hy => List.mem_singleton.1 hy ▸ ne_of_mem_of_not_mem hx new⟩

theorem fixed_append (h : Settled (k :: waiting) done) (fixed : withStamps shown = shown) :
    ∀ m ∈ done ++ [(k, shown)], withStamps m.2 = m.2 :=
  List.forall_mem_append.2 ⟨h.fixed, List.forall_mem_singleton.2 fixed⟩

theorem companion_notMem_append {s : String} (text : memberText? k v = some s)
    (absent : companionName k ∉ names done) :
    companionName k ∉ names (done ++ [(k, shown)]) := by
  rw [names_append]
  intro mem
  rcases List.mem_append.1 mem with mem | mem
  · exact absent mem
  · exact companionName_ne_of_namesTime (namesTime_of_memberText? text) k (List.mem_singleton.1 mem)

/-- A member that is no time is shown at the end. -/
theorem append (h : Settled (k :: waiting) done) (fresh : k ∉ waiting) (new : k ∉ names done)
    (fixed : withStamps shown = shown) (text : memberText? k shown = none) :
    Settled waiting (done ++ [(k, shown)]) := by
  refine ⟨h.distinct_append new, h.fixed_append fixed, ?_, ?_⟩
  · intro k' v' s hm text'
    rcases List.mem_append.1 hm with hm | hm
    · refine (h.stamped_append [(k, shown)] hm text').imp_right fun ⟨there, rest⟩ => ?_
      exact ⟨List.mem_append_left _ there, rest⟩
    · cases List.mem_singleton.1 hm
      rw [text] at text'
      cases text'
  · intro q waits hq
    obtain ⟨-, origin, mem, companion⟩ := h.awaited_append fresh waits hq
    exact ⟨origin, names_append _ _ ▸ List.mem_append_left _ mem, companion⟩

/-- A time is shown at the end, and its text where its companion is already. -/
theorem append_overwrite (h : Settled (k :: waiting) done) (fresh : k ∉ waiting)
    (new : k ∉ names done) (fixed : withStamps shown = shown) {s : String}
    (text : memberText? k shown = some s) (there : companionName k ∈ names done) :
    Settled waiting (put (companionName k) (.str s) (done ++ [(k, shown)])) := by
  have distinct : Distinct (done ++ [(k, shown)]) := h.distinct_append new
  have there' : companionName k ∈ names (done ++ [(k, shown)]) :=
    names_append _ _ ▸ List.mem_append_left _ there
  have same : names (put (companionName k) (Json.str s) (done ++ [(k, shown)])) =
      names (done ++ [(k, shown)]) := names_put_of_mem there'
  refine ⟨by rw [Distinct, same]; exact distinct, ?_, ?_, ?_⟩
  · intro m hm
    rcases (mem_put distinct).1 hm with rfl | ⟨hm, -⟩
    · rfl
    · exact h.fixed_append fixed m hm
  · intro k' v' s' hm text'
    rw [same]
    rcases (mem_put distinct).1 hm with hm | ⟨hm, -⟩
    · rw [(Prod.mk.inj hm).1, memberText?_companionName] at text'
      cases text'
    · rcases List.mem_append.1 hm with hm | hm
      · refine (h.stamped_append _ hm text').imp_right fun ⟨mem, rest⟩ => ⟨?_, rest⟩
        refine (mem_put distinct).2 (.inr ⟨List.mem_append_left _ mem, fun other => ?_⟩)
        exact new (companionName_inj other ▸ mem_names_of_mem hm)
      · cases List.mem_singleton.1 hm
        obtain rfl := Option.some.inj (text.symm.trans text')
        refine .inr ⟨(mem_put distinct).2 (.inl rfl), ?_, fun waits => ?_⟩
        · rw [names_append]
          exact (List.singleton_sublist.2 there).append (List.Sublist.refl [k])
        · obtain ⟨origin, mem, companion⟩ :=
            h.awaited _ (List.mem_cons_of_mem k waits) there
          exact new (companionName_inj companion ▸ mem)
  · intro q waits hq
    rw [same] at hq ⊢
    obtain ⟨-, origin, mem, companion⟩ := h.awaited_append fresh waits hq
    exact ⟨origin, names_append _ _ ▸ List.mem_append_left _ mem, companion⟩

/-- A time is shown at the end, and its companion after it. -/
theorem append_append (h : Settled (k :: waiting) done) (fresh : k ∉ waiting)
    (new : k ∉ names done) (fixed : withStamps shown = shown) {s : String}
    (text : memberText? k shown = some s) (absent : companionName k ∉ names done) :
    Settled waiting (done ++ [(k, shown)] ++ [(companionName k, .str s)]) := by
  refine ⟨?_, ?_, ?_, ?_⟩
  · refine Json.distinct_append.2
      ⟨h.distinct_append new, List.nodup_singleton _, fun x hx y hy => ?_⟩
    rw [List.mem_singleton.1 hy]
    exact ne_of_mem_of_not_mem hx (companion_notMem_append text absent)
  · exact List.forall_mem_append.2 ⟨h.fixed_append fixed, List.forall_mem_singleton.2 rfl⟩
  · intro k' v' s' hm text'
    rw [List.append_assoc] at hm ⊢
    rcases List.mem_append.1 hm with hm | hm
    · refine (h.stamped_append _ hm text').imp_right fun ⟨mem, rest⟩ => ⟨?_, rest⟩
      exact List.mem_append_left _ mem
    · rcases List.mem_cons.1 hm with hm | hm
      · cases hm
        refine .inl ?_
        rw [names_append]
        exact (List.suffix_append _ _).isInfix
      · cases List.mem_singleton.1 hm
        rw [memberText?_companionName] at text'
        cases text'
  · intro q waits hq
    rw [names_append] at hq ⊢
    rcases List.mem_append.1 hq with hq | hq
    · obtain ⟨-, origin, mem, companion⟩ := h.awaited_append fresh waits hq
      exact ⟨origin, List.mem_append_left _ (names_append _ _ ▸ List.mem_append_left _ mem),
        companion⟩
    · refine ⟨k, List.mem_append_left _ ?_, List.mem_singleton.1 hq⟩
      rw [names_append]
      exact List.mem_append_right _ List.mem_cons_self

/-- Members that have been shown stay so with one more of those that were waited for. -/
theorem addMember (h : Settled (k :: waiting) done) (fresh : k ∉ waiting)
    (fixed : withStamps (withStamps v) = withStamps v) :
    Settled waiting (addMember k v (withStamps v) done) := by
  cases text : memberText? k v with
  | none =>
    rw [addMember_of_none text]
    by_cases mem : k ∈ names done
    · exact h.overwrite mem fixed
    · rw [put_of_notMem mem]
      exact h.append fresh mem fixed (by rw [memberText?_withStamps, text])
  | some s =>
    have new : k ∉ names done := fun mem => by
      obtain ⟨origin, -, companion⟩ := h.awaited k List.mem_cons_self mem
      exact companionName_ne_of_namesTime (namesTime_of_memberText? text) origin companion.symm
    have text' : memberText? k (withStamps v) = some s := by rw [memberText?_withStamps, text]
    rw [addMember_of_some text, put_of_notMem new]
    by_cases there : companionName k ∈ names done
    · exact h.append_overwrite fresh new fixed text' there
    · rw [put_of_notMem (companion_notMem_append text' there)]
      exact h.append_append fresh new fixed text' there

end Settled

/-- All members have been shown at the end. -/
theorem settled_membersWithStamps {done : List (String × Json)} (h : Settled (names ms) done)
    (distinct : Distinct ms) (fixed : ∀ m ∈ ms, withStamps (withStamps m.2) = withStamps m.2) :
    Settled [] (membersWithStamps done ms) := by
  induction ms generalizing done with
  | nil => exact h
  | cons m ms ih =>
    obtain ⟨fresh, distinct⟩ := List.nodup_cons.1 distinct
    obtain ⟨value, fixed⟩ := List.forall_mem_cons.1 fixed
    exact ih (h.addMember fresh value) distinct fixed

/-! ## Showing them again -/

section Places

variable {α : Type} {x y : List α} {a b : α}

theorem eq_cons_of_infix (distinct : (x ++ a :: y).Nodup) (h : [a, b] <:+: x ++ a :: y) :
    ∃ r, y = b :: r := by
  obtain ⟨p, q, same⟩ := h
  obtain ⟨-, right, apart⟩ := List.nodup_append.1 distinct
  have left : a ∉ x := fun mem => apart a mem a List.mem_cons_self rfl
  rw [List.append_assoc, List.cons_append, eq_comm,
    List.append_cons_inj_of_notMem left (List.nodup_cons.1 right).1] at same
  exact ⟨q, same.2.2⟩

theorem mem_of_sublist (distinct : (x ++ a :: y).Nodup) (h : [b, a].Sublist (x ++ a :: y)) :
    b ∈ x := by
  obtain ⟨-, right, apart⟩ := List.nodup_append.1 distinct
  obtain ⟨p, q, split, hp, hq⟩ := List.sublist_append_iff.1 h
  cases p with
  | nil =>
    obtain rfl : [b, a] = q := split
    have later : a ∈ y := by
      rcases List.sublist_cons_iff.1 hq with hq | ⟨r, same, hr⟩
      · exact hq.subset (List.mem_cons_of_mem b List.mem_cons_self)
      · obtain ⟨rfl, rfl⟩ := List.cons.inj same
        exact hr.subset List.mem_cons_self
    exact absurd later (List.nodup_cons.1 right).1
  | cons c p =>
    obtain ⟨rfl, -⟩ := List.cons.inj split
    exact hp.subset List.mem_cons_self

end Places

/-- Settled members come out as they are. -/
theorem membersWithStamps_of_settled : ∀ {rest done : List (String × Json)},
    Settled [] (done ++ rest) → membersWithStamps done rest = done ++ rest
  | [], done, _ => by rw [membersWithStamps, List.append_nil]
  | (k, v) :: rest, done, h => by
    have mem : (k, v) ∈ done ++ (k, v) :: rest := List.mem_append_right done List.mem_cons_self
    have parts : names (done ++ (k, v) :: rest) = names done ++ k :: names rest :=
      names_append _ _
    have distinct : (names done ++ k :: names rest).Nodup := parts ▸ h.distinct
    have new : k ∉ names done := fun mem =>
      (List.nodup_append.1 distinct).2.2 k mem k List.mem_cons_self rfl
    have value : withStamps v = v := h.fixed _ mem
    have next : done ++ (k, v) :: rest = done ++ [(k, v)] ++ rest := List.append_cons _ _ _
    rw [membersWithStamps, value]
    cases text : memberText? k v with
    | none =>
      rw [addMember_of_none text, put_of_notMem new, next]
      exact membersWithStamps_of_settled (next ▸ h)
    | some s =>
      rw [addMember_of_some text, put_of_notMem new]
      have stamped := h.stamped k v s mem text
      rw [parts] at stamped
      rcases stamped with after | ⟨there, before, -⟩
      · -- The companion is put here and then replaced by the member that has its name.
        obtain ⟨r, hr⟩ := eq_cons_of_infix distinct after
        obtain ⟨⟨c, w⟩, rest, rfl, rfl, rfl⟩ := List.map_eq_cons_iff.1 hr
        have absent : companionName k ∉ names (done ++ [(k, v)]) := by
          intro mem
          rw [names_append] at mem
          rw [hr, List.append_cons] at distinct
          exact (List.nodup_append.1 distinct).2.2 _ mem _ List.mem_cons_self rfl
        have last : withStamps w = w :=
          h.fixed _ (List.mem_append_right done (List.mem_cons_of_mem _ List.mem_cons_self))
        have later : done ++ (k, v) :: (companionName k, w) :: rest =
            done ++ [(k, v)] ++ [(companionName k, w)] ++ rest := by simp
        rw [put_of_notMem absent, membersWithStamps, last,
          addMember_of_none (memberText?_companionName k w), put_append_cons absent, later]
        exact membersWithStamps_of_settled (later ▸ h)
      · -- The companion is there with the right text.
        have there' : (companionName k, Json.str s) ∈ done ++ [(k, v)] := by
          have early : companionName k ∈ names done := mem_of_sublist distinct before
          refine List.mem_append_left _ ((List.mem_append.1 there).resolve_right fun late => ?_)
          exact (List.nodup_append.1 distinct).2.2 _ early _ (mem_names_of_mem late) rfl
        rw [put_eq_self (Json.distinct_append.1 (next ▸ h.distinct)).1 there', next]
        exact membersWithStamps_of_settled (next ▸ h)
termination_by rest => rest.length

theorem withStamps_withStamps (v : Json) (distinct : v.EachObject Distinct) :
    v.withStamps.withStamps = v.withStamps := by
  induction v using parts_induction with
  | arr vs ih =>
    rw [EachObject, eachInItems_iff] at distinct
    rw [withStamps, withStamps, itemsWithStamps_eq, itemsWithStamps_eq, List.map_map]
    exact congrArg arr (List.map_congr_left fun v hv => ih v hv (distinct v hv))
  | obj ms ih =>
    rw [EachObject, eachInMembers_iff] at distinct
    have start : Settled (names ms) [] := ⟨List.nodup_nil, List.forall_mem_nil _, nofun, nofun⟩
    have settled := settled_membersWithStamps start distinct.1 fun m hm => ih m hm (distinct.2 m hm)
    rw [withStamps, withStamps, membersWithStamps_of_settled settled, List.nil_append]
  | _ => rfl

/-- **Companions extend a document.** Adding them to a document that has them changes nothing, the
order of the members included. If no object has a member of the name of a companion beside the time,
then taking the companions away gives the document back, and every time of an object, and no other
member that is named like one, has its companion right after it. -/
theorem withStamps_extends (v : Json) (distinct : v.EachObject Distinct) :
    v.withStamps.withStamps = v.withStamps ∧
      (v.EachObject Unclaimed →
        v.withStamps.withoutStamps = v ∧ v.withStamps.EachObject Accompanied) :=
  ⟨withStamps_withStamps v distinct, fun free =>
    ⟨withoutStamps_withStamps v distinct free, accompanied_withStamps v distinct free⟩⟩

/-- A document with times at two depths, one of them without a value. -/
def dated : Json :=
  .obj [("id", .int 7), ("closed_at", .null), ("created_at", .int 1700000000999),
    ("log", .arr [.obj [("opened_at", .int (-1)), ("state", .str "open")]])]

/-- The same with companions. -/
def datedTwice : Json :=
  .obj [("id", .int 7), ("closed_at", .null), ("created_at", .int 1700000000999),
    ("created_at_iso", .str "2023-11-14T22:13:20Z"),
    ("log", .arr [.obj [("opened_at", .int (-1)), ("opened_at_iso", .str "1969-12-31T23:59:59Z"),
      ("state", .str "open")]])]

/-- The law at this document. -/
theorem withStamps_extends_of_dated :
    dated.EachObject Distinct ∧ dated.EachObject Unclaimed ∧ dated.withStamps = datedTwice ∧
      datedTwice.withStamps = datedTwice ∧ datedTwice.withoutStamps = dated ∧
      datedTwice.EachObject Accompanied := by
  have distinct : dated.EachObject Distinct := by
    simp [dated, EachObject, EachInMembers, EachInItems, Distinct]
  have free : dated.EachObject Unclaimed := by
    simp only [dated, EachObject, EachInMembers, EachInItems, Unclaimed]
    decide
  have shown : dated.withStamps = datedTwice := by
    have created : Stamp.isoText? 1700000000999 = some "2023-11-14T22:13:20Z" := by decide +kernel
    have opened : Stamp.isoText? (-1) = some "1969-12-31T23:59:59Z" := by decide +kernel
    have time : namesTime "created_at" = true ∧ namesTime "opened_at" = true ∧
      namesTime "closed_at" = true ∧ namesTime "id" = false ∧ namesTime "log" = false ∧
      namesTime "state" = false := by decide
    simp [dated, datedTwice, withStamps, itemsWithStamps, membersWithStamps, addMember, stampText?,
      put, companionName, time, created, opened]
  obtain ⟨again, back⟩ := withStamps_extends dated distinct
  rw [shown] at again back
  exact ⟨distinct, free, shown, again, back free⟩

end Forge.Json
