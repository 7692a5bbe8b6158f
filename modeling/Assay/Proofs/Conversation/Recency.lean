import Assay.Proofs.Conversation.Call

/-!
# Stores and the calls that led to them

A run is a list of calls, the last one first. What a store holds after a run can be told from the
calls alone, without the store: the session of an id is the one that was last started for it, with
the questions and clearings since then.

* `latest`: that session;
* `startedIds`: the ids for which sessions were started, the last first;
* `Reflects`: what a store after a run has to do with the run;
* `next_reflects`: one call keeps that;
* `store_refines`: it holds after every run, and no call does more to a store than it should.
-/

namespace Assay.Conversation

/-! ## What the calls say -/

/-- How many sessions were started without an id. -/
def unnamed : List Call → Nat
  | [] => 0
  | .create _ _ _ given :: earlier =>
    if isGivenId given then unnamed earlier else unnamed earlier + 1
  | _ :: earlier => unnamed earlier

/-- The id of a session that is started after some calls. -/
def startedId (earlier : List Call) (given : Option String) : String :=
  sessionIdOr (unnamed earlier + 1) given

/-- The ids for which sessions were started, the last first. -/
def startedIds : List Call → List String
  | [] => []
  | .create _ _ _ given :: earlier => startedId earlier given :: startedIds earlier
  | _ :: earlier => startedIds earlier

/-- The session that was last started for an id, with the questions and clearings since then. -/
def latest (id : String) : List Call → Option Session
  | [] => none
  | .create r units hasModel given :: earlier =>
    if startedId earlier given = id then some { id, report := r, units, hasModel }
    else latest id earlier
  | c :: earlier => (latest id earlier).map c.effect

/-- The store after a run. -/
def after (maxSessions evictCount : Int) : List Call → Store
  | [] => { maxSessions, evictCount }
  | c :: earlier => next (after maxSessions evictCount earlier) c

/-! ## What the store says -/

/-- What a store after a run has to do with the run. -/
structure Reflects (m e : Int) (calls : List Call) (st : Store) : Prop where
  limit : st.maxSessions = m
  evictions : st.evictCount = e
  countable : st.uncountable = none
  generated : st.generated = unnamed calls
  nodup : st.ids.Nodup
  /-- Every session is the last one that was started for its id. -/
  latest : ∀ s ∈ st.sessions, latest s.id calls = some s
  /-- Sessions stand in the order in which they were last started. -/
  started : ∀ id ∈ st.ids, id ∈ startedIds calls
  ordered : st.ids.Pairwise fun a b => (startedIds calls).idxOf b < (startedIds calls).idxOf a

/-- The session that a call starts. -/
def fresh (earlier : List Call) (r : Report) (units : List SourceUnit) (hasModel : Bool)
    (given : Option String) : Session :=
  { id := startedId earlier given, report := r, units, hasModel }

/-- What a call makes of the sessions after a run: a new session comes last and sends the excess
away, an end takes one session away, and all other calls keep every session in its place. -/
def Moves (m e : Int) (earlier : List Call) (before after : List Session) : Call → Prop
  | .create r units hasModel given =>
    let s := fresh earlier r units hasModel given
    let joined := Store.without s.id before ++ [s]
    after = joined.drop (Store.evicted m e joined.length) ∧ after.getLast? = some s
  | .delete id => after = Store.without id before
  | c => after = before.map c.effect ∧ after.map (·.id) = before.map (·.id)

variable {m e : Int} {earlier : List Call} {st : Store}

theorem reflects_initial (m e : Int) :
    Reflects m e [] { maxSessions := m, evictCount := e } where
  limit := rfl
  evictions := rfl
  countable := rfl
  generated := rfl
  nodup := by simp [Store.ids]
  latest := by simp
  started := by simp [Store.ids]
  ordered := by simp [Store.ids]

/-- The sessions that stay are still the last of their ids, whatever is done to them. -/
theorem reflects_map {c : Call} (h : Reflects m e earlier st)
    (hlatest : ∀ id, latest id (c :: earlier) = (latest id earlier).map c.effect)
    (hunnamed : unnamed (c :: earlier) = unnamed earlier)
    (hstarted : startedIds (c :: earlier) = startedIds earlier) :
    Reflects m e (c :: earlier) { st with sessions := st.sessions.map c.effect } := by
  have hids : Store.ids { st with sessions := st.sessions.map c.effect } = st.ids := by
    simp [Store.ids, Function.comp_def]
  constructor
  case limit => exact h.limit
  case evictions => exact h.evictions
  case countable => exact h.countable
  case generated => rw [hunnamed]; exact h.generated
  case nodup => rw [hids]; exact h.nodup
  case latest =>
    intro s hs
    obtain ⟨t, ht, rfl⟩ := List.mem_map.mp hs
    rw [effect_id, hlatest, h.latest t ht]
    rfl
  case started => rw [hids, hstarted]; exact h.started
  case ordered => rw [hids, hstarted]; exact h.ordered

theorem reflects_keep {c : Call} (h : Reflects m e earlier st)
    (hc : (c matches .ask .. | .clear _) = false)
    (hlatest : ∀ id, latest id (c :: earlier) = (latest id earlier).map c.effect)
    (hunnamed : unnamed (c :: earlier) = unnamed earlier)
    (hstarted : startedIds (c :: earlier) = startedIds earlier) :
    Reflects m e (c :: earlier) st := by
  have hmap := reflects_map h hlatest hunnamed hstarted
  rw [effect_eq_id hc] at hmap
  simpa using hmap

/-- Sessions can go. -/
theorem Reflects.mono {sessions : List Session} (h : Reflects m e earlier st)
    (hsub : sessions.Sublist st.sessions) :
    Reflects m e earlier { st with sessions } := by
  have hids : (Store.ids { st with sessions }).Sublist st.ids := hsub.map _
  constructor
  case limit => exact h.limit
  case evictions => exact h.evictions
  case countable => exact h.countable
  case generated => exact h.generated
  case nodup => exact hids.nodup h.nodup
  case latest => exact fun s hs => h.latest s (hsub.subset hs)
  case started => exact fun id hid => h.started id (hids.subset hid)
  case ordered => exact h.ordered.sublist hids

/-- A session that is started comes last, and takes the place of one with its id. -/
theorem begin_eq (h : st.generated = unnamed earlier) (r : Report) (units : List SourceUnit)
    (hasModel : Bool) (given : Option String) :
    st.begin r units hasModel given =
      let s := fresh earlier r units hasModel given
      (s.id, { st with
        generated := unnamed (.create r units hasModel given :: earlier)
        sessions := Store.without s.id st.sessions ++ [s] }) := by
  unfold Store.begin Store.join
  by_cases hgiven : isGivenId given = true
  · simp [fresh, startedId, unnamed, sessionIdOr, hgiven, h]
  · simp [fresh, startedId, unnamed, sessionIdOr, hgiven, h]

theorem idxOf_started_lt {id a b : String} {ids : List String} (ha : id ≠ a) (hb : id ≠ b)
    (h : ids.idxOf b < ids.idxOf a) : (id :: ids).idxOf b < (id :: ids).idxOf a := by
  rw [List.idxOf_cons_ne _ ha, List.idxOf_cons_ne _ hb]
  exact Nat.succ_lt_succ h

theorem reflects_begin (h : Reflects m e earlier st) (r : Report) (units : List SourceUnit)
    (hasModel : Bool) (given : Option String) :
    Reflects m e (.create r units hasModel given :: earlier)
      (st.begin r units hasModel given).2 := by
  rw [begin_eq h.generated]
  have hid : (fresh earlier r units hasModel given).id = startedId earlier given := rfl
  have hwithout : ∀ s ∈ Store.without (startedId earlier given) st.sessions,
      startedId earlier given ≠ s.id := fun s hs => (Store.mem_without.mp hs).2.symm
  have hkept := h.mono (Store.without_sublist (startedId earlier given) st.sessions)
  constructor
  case limit => exact h.limit
  case evictions => exact h.evictions
  case countable => exact h.countable
  case generated => rfl
  case nodup =>
    simp only [Store.ids, List.map_append, List.map_cons, List.map_nil, hid]
    refine List.nodup_append.mpr ⟨hkept.nodup, List.nodup_singleton _, ?_⟩
    intro a ha b hb
    obtain ⟨s, hs, rfl⟩ := List.mem_map.mp ha
    rw [List.mem_singleton.mp hb]
    exact (hwithout s hs).symm
  case latest =>
    intro s hs
    rcases List.mem_append.mp hs with hs | hs
    · simp only [Conversation.latest]
      rw [if_neg (hwithout s hs)]
      exact hkept.latest s hs
    · rw [List.mem_singleton.mp hs]
      simp [Conversation.latest, fresh]
  case started =>
    intro id hmem
    simp only [Store.ids, List.map_append, List.map_cons, List.map_nil, hid] at hmem
    simp only [startedIds]
    rcases List.mem_append.mp hmem with hmem | hmem
    · exact List.mem_cons_of_mem _ (hkept.started id hmem)
    · rw [List.mem_singleton.mp hmem]
      exact List.mem_cons_self
  case ordered =>
    simp only [Store.ids, List.map_append, List.map_cons, List.map_nil, hid, startedIds]
    refine List.pairwise_append.mpr ⟨?_, List.pairwise_singleton _ _, ?_⟩
    · refine hkept.ordered.imp_of_mem fun ha hb hab => ?_
      obtain ⟨s, hs, rfl⟩ := List.mem_map.mp ha
      obtain ⟨t, ht, rfl⟩ := List.mem_map.mp hb
      exact idxOf_started_lt (hwithout s hs) (hwithout t ht) hab
    · intro a ha b hb
      obtain ⟨s, hs, rfl⟩ := List.mem_map.mp ha
      rw [List.mem_singleton.mp hb, List.idxOf_cons_self, List.idxOf_cons_ne _ (hwithout s hs)]
      omega

theorem perform_create_of (h : Reflects m e earlier st) (r : Report) (units : List SourceUnit)
    (hasModel : Bool) (given : Option String) :
    let s := fresh earlier r units hasModel given
    let joined := Store.without s.id st.sessions ++ [s]
    perform st (.create r units hasModel given) = .ok (.id s.id, { st with
      generated := unnamed (.create r units hasModel given :: earlier)
      sessions := joined.drop (Store.evicted m e joined.length) }) := by
  rw [perform_create h.countable, begin_eq h.generated]
  simp only [h.limit, h.evictions]
  rfl

/-- One call keeps what a store has to do with the run. -/
theorem next_reflects (h : Reflects m e earlier st) (c : Call) :
    Reflects m e (c :: earlier) (next st c) := by
  cases c with
  | create r units hasModel given =>
    have hbegin := reflects_begin h r units hasModel given
    rw [begin_eq h.generated] at hbegin
    unfold next
    rw [perform_create_of h]
    exact hbegin.mono (List.drop_sublist _ _)
  | delete id =>
    rw [next_delete]
    exact (reflects_keep h rfl (fun _ => rfl) rfl rfl).mono (Store.without_sublist id st.sessions)
  | ask id question reply =>
    rw [next_ask h.nodup]
    exact reflects_map h (fun _ => rfl) rfl rfl
  | clear id =>
    rw [next_clear h.nodup]
    exact reflects_map h (fun _ => rfl) rfl rfl
  | get | suggestions | history | contains | size =>
    rw [next_read rfl]
    exact reflects_keep h rfl (fun _ => rfl) rfl rfl

theorem after_reflects (m e : Int) (calls : List Call) :
    Reflects m e calls (after m e calls) := by
  induction calls with
  | nil => exact reflects_initial m e
  | cons c earlier ih => exact next_reflects ih c

/-! ## What a call does -/

theorem evicted_lt (m e : Int) {n : Nat} (h : 0 < n) : Store.evicted m e n < n := by
  unfold Store.evicted
  split <;> omega

theorem next_moves (h : Reflects m e earlier st) (c : Call) :
    Moves m e earlier st.sessions (next st c).sessions c := by
  cases c with
  | create r units hasModel given =>
    unfold next
    rw [perform_create_of h]
    refine ⟨rfl, ?_⟩
    dsimp only
    rw [List.getLast?_drop, if_neg, List.getLast?_concat]
    have := evicted_lt m e (n := (Store.without (fresh earlier r units hasModel given).id
      st.sessions ++ [fresh earlier r units hasModel given]).length) (by simp)
    omega
  | delete id => rw [next_delete]; rfl
  | ask id question reply =>
    rw [next_ask h.nodup]
    exact ⟨rfl, by simp⟩
  | clear id =>
    rw [next_clear h.nodup]
    exact ⟨rfl, by simp⟩
  | get | suggestions | history | contains | size =>
    rw [next_read rfl]
    refine ⟨?_, rfl⟩
    rw [effect_eq_id rfl, List.map_id]

theorem Moves.bounded {before after : List Session} {c : Call} (hm : 1 ≤ m) (he : 1 ≤ e)
    (h : Moves m e earlier before after c) (hbefore : before.length ≤ m) : after.length ≤ m := by
  cases c with
  | create r units hasModel given =>
    obtain ⟨rfl, _⟩ := h
    have hkept := (Store.without_sublist (fresh earlier r units hasModel given).id before).length_le
    simp only [List.length_drop, List.length_append, List.length_singleton, Store.evicted]
    split <;> omega
  | delete id =>
    have hkept := (Store.without_sublist id before).length_le
    rw [h]
    omega
  | get | ask | suggestions | history | clear | contains | size =>
    rw [h.1, List.length_map]
    exact hbefore

theorem after_bounded (hm : 1 ≤ m) (he : 1 ≤ e) (calls : List Call) :
    (after m e calls).size ≤ m := by
  induction calls with
  | nil =>
    change ((0 : Nat) : Int) ≤ m
    omega
  | cons c earlier ih => exact (next_moves (after_reflects m e earlier) c).bounded hm he ih

/-- **Stores hold what the calls say.** After every run there are at most as many sessions as may
be, their ids differ, every id has the session that was last started for it, and they stand in the
order in which they were. A new session is never refused and comes last; only the oldest go for it,
and only as many as must. No other call takes a session away or moves it, but for an end, which
takes away the session of its id. -/
theorem store_refines (hm : 1 ≤ m) (he : 1 ≤ e) (calls : List Call) :
    let st := after m e calls
    st.size ≤ m ∧ st.ids.Nodup ∧
    (∀ id s, st.get id = .ok s ↔ id ∈ st.ids ∧ s.id = id ∧ latest id calls = some s) ∧
    (∀ id, st.contains id = true ↔ id ∈ st.ids) ∧
    (∀ id ∈ st.ids, id ∈ startedIds calls) ∧
    (st.ids.Pairwise fun a b => (startedIds calls).idxOf b < (startedIds calls).idxOf a) ∧
    (∀ r units hasModel given, ∃ st', perform st (.create r units hasModel given) =
      .ok (.id (startedId calls given), st')) ∧
    ∀ c, Moves m e calls st.sessions (next st c).sessions c := by
  have h := after_reflects m e calls
  refine ⟨after_bounded hm he calls, h.nodup, ?_, fun _ => Store.contains_iff, h.started,
    h.ordered, ?_, next_moves h⟩
  · intro id s
    rw [Store.get_ok_iff h.nodup]
    constructor
    · rintro ⟨hs, rfl⟩
      exact ⟨Store.mem_ids.mpr ⟨s, hs, rfl⟩, rfl, h.latest s hs⟩
    · rintro ⟨hid, rfl, hlatest⟩
      obtain ⟨t, ht, hid⟩ := Store.mem_ids.mp hid
      have hst := h.latest t ht
      rw [hid, hlatest, Option.some.injEq] at hst
      exact ⟨hst ▸ ht, rfl⟩
  · intro r units hasModel given
    exact ⟨_, perform_create_of h r units hasModel given⟩

/-- Where two sessions may be, the first goes for the third, and a session that is started anew
comes last. -/
theorem store_refines_restarted :
    let r : Report := ⟨⟨1, 1, ["go"], 0, []⟩, [], ⟨0, 100, 0, 100⟩, [], "now"⟩
    let calls := ["b", "c", "b", "a"].map fun id => Call.create r [] false (some id)
    (1 : Int) ≤ 2 ∧ (1 : Int) ≤ 1 ∧ (after 2 1 calls).ids = ["c", "b"] ∧
      ((after 2 1 calls).size : Int) ≤ 2 := by
  refine ⟨by decide, by decide, by decide, ?_⟩
  exact (store_refines (by decide) (by decide) _).1

end Assay.Conversation
