import Mathlib.Data.List.Nodup
import Assay.Conversation.Store
import Assay.Proofs.Outcome

/-!
# Calls to a store

* `Call`, `Answer`: what a store can be called for, and what it answers;
* `perform`: a call; one that fails leaves the store as it was;
* `get_ok_iff`, `perform_absent`: a call for an id finds its session, or fails for want of it;
* `perform_create`, `next_ask`, `next_clear`, `next_delete`: what the calls that change a store make
  of it.
-/

namespace Assay

/-! ## A session after a question -/

namespace Session

/-- A session after a question; a question that fails leaves it as it was. -/
def afterAsk (s : Session) (question : String) (reply : Reply) : Session :=
  match (s.ask question reply).outcome with
  | .ok (_, asked) => asked
  | .error _ => s

theorem settle_ok (s : Session) (question : String) (reply : Reply) :
    ∃ answer asked, (s.settle question reply).outcome = .ok (answer, asked) ∧ asked.id = s.id := by
  cases reply with
  | text answer => exact ⟨some answer, _, rfl, rfl⟩
  | nothing => exact ⟨none, _, rfl, rfl⟩
  | serviceError | crash => exact ⟨some apology, s, rfl, rfl⟩

theorem ask_id {s asked : Session} {question : String} {reply : Reply} {answer : Option String}
    (h : (s.ask question reply).outcome = .ok (answer, asked)) : asked.id = s.id := by
  unfold ask at h
  split at h
  · simp only [Trail.outcome_bind, Trail.outcome_ofExcept, Trail.outcome_emit, ok_bind] at h
    obtain ⟨_, _, h⟩ := bind_eq_ok.mp h
    obtain ⟨answer', asked', hsettle, hid⟩ :=
      settle_ok { s with calls := s.calls + 1 } question reply
    rw [hsettle, Except.ok.injEq, Prod.mk.injEq] at h
    rw [← h.2, hid]
  · simp only [Trail.outcome_bind, Trail.outcome_warn, ok_bind, Trail.outcome_pure,
      Except.ok.injEq, Prod.mk.injEq] at h
    rw [← h.2]

@[simp]
theorem afterAsk_id (s : Session) (question : String) (reply : Reply) :
    (s.afterAsk question reply).id = s.id := by
  unfold afterAsk
  split
  · rename_i h
    exact ask_id h
  · rfl

@[simp]
theorem clear_id (s : Session) : s.clear.id = s.id := rfl

end Session

/-! ## Sessions under their ids -/

namespace Store

theorem mem_ids {st : Store} {id : String} : id ∈ st.ids ↔ ∃ s ∈ st.sessions, s.id = id := by
  simp [ids]

theorem get_ok {st : Store} {id : String} {s : Session} (h : st.get id = .ok s) :
    s ∈ st.sessions ∧ s.id = id := by
  unfold get at h
  split at h
  · rename_i t hfind
    rw [Except.ok.injEq] at h
    subst h
    exact ⟨List.mem_of_find?_eq_some hfind, by simpa using List.find?_some hfind⟩
  · cases h

theorem get_absent {st : Store} {id : String} (h : id ∉ st.ids) :
    st.get id = .error (.sessionNotFound id) := by
  have hfind : (st.sessions.find? fun s => s.id == id) = none := by
    refine List.find?_eq_none.mpr fun s hs he => h ?_
    exact mem_ids.mpr ⟨s, hs, by simpa using he⟩
  unfold get
  rw [hfind]

theorem get_present {st : Store} {id : String} (h : id ∈ st.ids) : ∃ s, st.get id = .ok s := by
  unfold get
  split
  · exact ⟨_, rfl⟩
  · rename_i hnone
    obtain ⟨s, hs, hid⟩ := mem_ids.mp h
    exact absurd (List.find?_eq_none.mp hnone s hs) (by simp [hid])

/-- Where ids differ, a session is found under its id. -/
theorem get_ok_iff {st : Store} (hnodup : st.ids.Nodup) {id : String} {s : Session} :
    st.get id = .ok s ↔ s ∈ st.sessions ∧ s.id = id := by
  refine ⟨get_ok, ?_⟩
  rintro ⟨hs, rfl⟩
  obtain ⟨t, ht⟩ := get_present (mem_ids.mpr ⟨s, hs, rfl⟩)
  obtain ⟨hmem, hid⟩ := get_ok ht
  rw [ht, List.inj_on_of_nodup_map hnodup hmem hs hid]

theorem contains_iff {st : Store} {id : String} : st.contains id = true ↔ id ∈ st.ids := by
  simp [contains, mem_ids]

/-- Where ids differ, a change of one session is a change at its id. -/
theorem update_eq_map {st : Store} (hnodup : st.ids.Nodup) {s : Session} (hs : s ∈ st.sessions)
    (f : Session → Session) (hf : (f s).id = s.id) :
    st.update (f s) =
      { st with sessions := st.sessions.map fun t => if t.id = s.id then f t else t } := by
  unfold update
  congr 1
  refine List.map_congr_left fun t ht => ?_
  by_cases hid : t.id = s.id
  · rw [List.inj_on_of_nodup_map hnodup ht hs hid]
    simp [hf]
  · simp [hid, hf]

theorem update_self {st : Store} (hnodup : st.ids.Nodup) {s : Session} (hs : s ∈ st.sessions) :
    st.update s = st := by
  rw [update_eq_map hnodup hs (fun s => s) rfl]
  simp

theorem map_absent {st : Store} {id : String} (h : id ∉ st.ids) (f : Session → Session) :
    st.sessions.map (fun s => if s.id = id then f s else s) = st.sessions := by
  refine (List.map_congr_left fun s hs => ?_).trans (List.map_id _)
  have hne : s.id ≠ id := fun hid => h (mem_ids.mpr ⟨s, hs, hid⟩)
  simp [hne]

theorem mem_without {id : String} {sessions : List Session} {s : Session} :
    s ∈ without id sessions ↔ s ∈ sessions ∧ s.id ≠ id := by
  simp [without]

theorem without_absent {st : Store} {id : String} (h : id ∉ st.ids) :
    without id st.sessions = st.sessions := by
  refine List.filter_eq_self.mpr fun s hs => ?_
  have hne : s.id ≠ id := fun hid => h (mem_ids.mpr ⟨s, hs, hid⟩)
  simpa using hne

theorem without_sublist (id : String) (sessions : List Session) :
    (without id sessions).Sublist sessions :=
  List.filter_sublist

/-- How many of `n` sessions must go. -/
def evicted (maxSessions evictCount : Int) (n : Nat) : Nat :=
  if maxSessions < n then min evictCount.toNat (n - 1) else 0

theorem excess_eq {st : Store} (h : st.uncountable = none) :
    st.excess = .ok (evicted st.maxSessions st.evictCount st.size) := by
  unfold excess evicted
  rw [h]
  dsimp only
  split
  · split
    · congr 1
      omega
    · congr 1
      omega
  · rfl

end Store

namespace Conversation

/-! ## Calls -/

/-- A call to a store. -/
inductive Call where
  | create (r : Report) (units : List SourceUnit) (hasModel : Bool) (given : Option String)
  | get (id : String)
  /-- A question, and what the model replies to it. -/
  | ask (id question : String) (reply : Session → Reply)
  | suggestions (id : String)
  | history (id : String)
  | clear (id : String)
  | delete (id : String)
  | contains (id : String)
  | size

/-- What a call answers. -/
inductive Answer where
  | id (id : String)
  | session (s : Session)
  | text (text : Option String)
  | questions (questions : List String)
  | turns (turns : List Turn)
  | done
  | truth (b : Bool)
  | count (n : Nat)

/-- A call: its answer, and the store after it. -/
def perform (st : Store) : Call → Except Failure (Answer × Store)
  | .create r units hasModel given =>
    (st.create r units hasModel given).outcome.map fun (id, st) => (.id id, st)
  | .get id => (st.get id).map fun s => (.session s, st)
  | .ask id question reply =>
    (st.ask id question reply).outcome.map fun (answer, st) => (.text answer, st)
  | .suggestions id => (st.get id).map fun s => (.questions s.suggestions, st)
  | .history id => (st.get id).map fun s => (.turns s.history, st)
  | .clear id => (st.clear id).map fun st => (.done, st)
  | .delete id => (st.delete id).map fun st => (.done, st)
  | .contains id => .ok (.truth (st.contains id), st)
  | .size => .ok (.count st.size, st)

/-- The store after a call; one that fails leaves it as it was. -/
def next (st : Store) (c : Call) : Store :=
  match perform st c with
  | .ok (_, after) => after
  | .error _ => st

/-- The session that a call is for. -/
def Call.target : Call → Option String
  | .get id | .ask id _ _ | .suggestions id | .history id | .clear id | .delete id => some id
  | .create .. | .contains _ | .size => none

/-- What a call makes of a session that is there. -/
def Call.effect : Call → Session → Session
  | .ask id question reply, s => if s.id = id then s.afterAsk question (reply s) else s
  | .clear id, s => if s.id = id then s.clear else s
  | _, s => s

@[simp]
theorem effect_id (c : Call) (s : Session) : (c.effect s).id = s.id := by
  cases c with
  | ask id question reply =>
    by_cases h : s.id = id <;> simp [Call.effect, h]
  | clear id =>
    by_cases h : s.id = id <;> simp [Call.effect, h]
  | create | get | suggestions | history | delete | contains | size => rfl

/-- Only questions and clearings make anything of a session. -/
theorem effect_eq_id {c : Call} (h : (c matches .ask .. | .clear _) = false) : c.effect = id := by
  cases c with
  | ask | clear => cases h
  | create | get | suggestions | history | delete | contains | size => rfl

section

variable {st : Store}

/-- A call for a session that is not there fails. -/
theorem perform_absent {c : Call} {id : String} (hc : c.target = some id) (h : id ∉ st.ids) :
    perform st c = .error (.sessionNotFound id) := by
  have hget := Store.get_absent h
  cases c with
  | create | contains | size => cases hc
  | get | ask | suggestions | history | clear | delete =>
    cases hc
    simp only [perform, Store.ask, Store.clear, Store.delete, Trail.outcome_bind,
      Trail.outcome_ofExcept, hget]
    rfl

theorem next_absent {c : Call} {id : String} (hc : c.target = some id) (h : id ∉ st.ids) :
    next st c = st := by
  unfold next
  rw [perform_absent hc h]

theorem perform_create (h : st.uncountable = none) (r : Report) (units : List SourceUnit)
    (hasModel : Bool) (given : Option String) :
    perform st (.create r units hasModel given) =
      let (id, begun) := st.begin r units hasModel given
      let gone := Store.evicted begun.maxSessions begun.evictCount begun.size
      .ok (.id id, { begun with sessions := begun.sessions.drop gone }) := by
  have hexcess : (st.begin r units hasModel given).2.excess = _ := Store.excess_eq h
  simp only [perform, Store.create, Store.settle, Trail.outcome_bind, Trail.outcome_ofExcept,
    hexcess, ok_bind, Trail.outcome_pure, Except.map]

/-- Reading changes nothing. -/
theorem next_read {c : Call} (h : c matches .get _ | .suggestions _ | .history _ | .contains _ |
    .size) : next st c = st := by
  unfold next
  cases c with
  | create | ask | clear | delete => cases h
  | contains | size => rfl
  | get id | suggestions id | history id =>
    simp only [perform]
    cases st.get id <;> rfl

theorem next_ask (hnodup : st.ids.Nodup) (id question : String) (reply : Session → Reply) :
    next st (.ask id question reply) =
      { st with sessions := st.sessions.map (Call.ask id question reply).effect } := by
  have heffect : (Call.ask id question reply).effect =
      fun s => if s.id = id then s.afterAsk question (reply s) else s := rfl
  rw [heffect]
  by_cases hid : id ∈ st.ids
  · obtain ⟨s, hs⟩ := Store.get_present hid
    obtain ⟨hmem, rfl⟩ := Store.get_ok hs
    rw [← Store.update_eq_map hnodup hmem (fun t => t.afterAsk question (reply t)) (by simp)]
    simp only [next, perform, Store.ask, Trail.outcome_bind, Trail.outcome_ofExcept, hs, ok_bind,
      Session.afterAsk]
    cases (s.ask question (reply s)).outcome with
    | ok asked => rfl
    | error => exact (Store.update_self hnodup hmem).symm
  · rw [next_absent rfl hid, Store.map_absent hid]

theorem next_clear (hnodup : st.ids.Nodup) (id : String) :
    next st (.clear id) = { st with sessions := st.sessions.map (Call.clear id).effect } := by
  have heffect : (Call.clear id).effect = fun s => if s.id = id then s.clear else s := rfl
  rw [heffect]
  by_cases hid : id ∈ st.ids
  · obtain ⟨s, hs⟩ := Store.get_present hid
    obtain ⟨hmem, rfl⟩ := Store.get_ok hs
    rw [← Store.update_eq_map hnodup hmem Session.clear rfl]
    simp only [next, perform, Store.clear, hs, ok_bind]
    rfl
  · rw [next_absent rfl hid, Store.map_absent hid]

theorem next_delete (id : String) :
    next st (.delete id) = { st with sessions := Store.without id st.sessions } := by
  by_cases hid : id ∈ st.ids
  · obtain ⟨s, hs⟩ := Store.get_present hid
    simp only [next, perform, Store.delete, hs, ok_bind]
    rfl
  · rw [next_absent rfl hid, Store.without_absent hid]

end

end Conversation

end Assay
