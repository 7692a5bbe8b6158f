import Assay.Tools
import Assay.Proofs.Conversation.Turns

/-!
# What calls leave alone

A desk is used by tool calls and by calls to its store. Every tool call comes to at most one call to
the store, and every call to the store that is for a session leaves all other sessions alone.

* `leave`: the store after a call, also after one that fails on the way;
* `perform_missing_iff`: when a call fails for want of a session;
* `leave_nodup`, `get_leave`, `leave_ids`: what every call keeps;
* `leave_ask_failed`: a question that fails keeps every history;
* `Desk.callOf`, `Desk.serve_store`: the call to the store that a tool call comes to;
* `Desk.analyze_said`: what a text about a target says of the store;
* `Desk.Isolates`, `Desk.sessions_isolated`: what holds after every run.
-/

namespace Assay

/-! ## Failed questions -/

namespace Session

/-- A session without the count of its calls. -/
def uncounted (s : Session) : Session :=
  { s with calls := 0 }

/-- A question that fails changes nothing but the count of calls. -/
theorem afterAsk_failed {s : Session} {reply : Reply}
    (h : s.hasModel = false ∨ reply.isFailure = true) (question : String) :
    (s.afterAsk question reply).uncounted = s.uncounted := by
  unfold afterAsk
  rcases ask_cases question reply s with ⟨_, hask⟩ | ⟨hmodel, hask⟩ | ⟨_, hask⟩
  · rw [hask]
  · have hfails : reply.isFailure = true := by simpa [hmodel] using h
    rw [hask, Reply.turn?_eq_none hfails, Option.toList_none, List.append_nil]
    rfl
  · rw [hask]

end Session

/-! ## Sessions under other ids -/

namespace Store

variable {st : Store} {id other : String}

/-- What is done to the sessions of other ids does not show under an id. -/
theorem get_map {f : Session → Session} (hid : ∀ s, (f s).id = s.id)
    (hkept : ∀ s, s.id = other → f s = s) :
    ({ st with sessions := st.sessions.map f } : Store).get other = st.get other := by
  unfold get
  rw [List.find?_map]
  have hsame : ((fun s : Session => s.id == other) ∘ f) = fun s => s.id == other := by
    funext s
    rw [Function.comp_apply, hid]
  rw [hsame]
  cases hfind : st.sessions.find? fun s => s.id == other with
  | none => rfl
  | some s =>
    have hs : s.id = other := by simpa using List.find?_some hfind
    rw [Option.map_some, hkept s hs]

theorem get_without (h : other ≠ id) :
    ({ st with sessions := without id st.sessions } : Store).get other = st.get other := by
  unfold get without
  rw [List.find?_filter]
  congr 2
  funext s
  by_cases hs : s.id = other
  · simp [hs, h]
  · simp [hs]

theorem join_nodup (h : st.ids.Nodup) (s : Session) : (st.join s).ids.Nodup := by
  simp only [ids, join, List.map_append, List.map_cons, List.map_nil]
  refine List.nodup_append.mpr ⟨?_, List.nodup_singleton _, ?_⟩
  · exact ((without_sublist s.id st.sessions).map _).nodup h
  · intro a ha b hb
    obtain ⟨t, ht, rfl⟩ := List.mem_map.mp ha
    rw [List.mem_singleton.mp hb]
    exact (mem_without.mp ht).2

theorem settle_sublist {settled : Store} (h : st.settle.outcome = .ok settled) :
    settled.sessions.Sublist st.sessions := by
  simp only [settle, Trail.outcome_bind, Trail.outcome_ofExcept] at h
  obtain ⟨gone, _, h⟩ := bind_eq_ok.mp h
  rw [← Except.ok.inj h]
  exact List.drop_sublist _ _

end Store

namespace Conversation

/-! ## The store after a call -/

/-- The store after a call. A new session stays even if the excess cannot go; any other call that
fails leaves the store as it was. -/
def leave (st : Store) : Call → Store
  | .create r units hasModel given =>
    let begun := (st.begin r units hasModel given).2
    match begun.settle.outcome with
    | .ok settled => settled
    | .error _ => begun
  | c => next st c

/-- Whether a call ends a session. -/
def Call.isEnd : Call → Bool
  | .delete _ => true
  | .create .. | .get _ | .ask .. | .suggestions _ | .history _ | .clear _ | .contains _ | .size =>
    false

section

variable {st : Store}

/-- The store after a call that is answered is the one that comes with the answer. -/
theorem leave_of_ok {c : Call} {answer : Answer} {after : Store}
    (h : perform st c = .ok (answer, after)) : leave st c = after := by
  cases c with
  | create r units hasModel given =>
    simp only [perform, Store.create, Trail.outcome_bind, Trail.outcome_pure] at h
    unfold leave
    dsimp only
    cases hsettle : (st.begin r units hasModel given).2.settle.outcome with
    | error e =>
      rw [hsettle] at h
      cases h
    | ok settled =>
      rw [hsettle] at h
      cases h
      rfl
  | get | ask | suggestions | history | clear | delete | contains | size =>
    simp only [leave, next, h]

theorem excess_error {e : Failure} (h : st.excess = .error e) :
    ∃ kind, e = .wrongType (.notCountable kind) := by
  unfold Store.excess at h
  dsimp only at h
  split at h
  · split at h
    · cases h
    · split at h
      · exact ⟨_, (Except.error.inj h).symm⟩
      · cases h
  · cases h

/-- A call for a session that is there can only fail over its turns. -/
theorem perform_present {c : Call} {id : String} {e : Failure} (hc : c.target = some id)
    (hid : id ∈ st.ids) (h : perform st c = .error e) : e = Context.unanswered := by
  obtain ⟨s, hs⟩ := Store.get_present hid
  cases c with
  | create | contains | size => cases hc
  | get | suggestions | history | clear | delete =>
    cases hc
    simp only [perform, Store.clear, Store.delete, hs] at h
    cases h
  | ask id question reply =>
    cases hc
    simp only [perform, Store.ask, Trail.outcome_bind, Trail.outcome_ofExcept, hs, ok_bind] at h
    cases hask : (s.ask question (reply s)).outcome with
    | ok asked =>
      rw [hask] at h
      cases h
    | error e' =>
      rw [hask] at h
      cases h
      exact Session.ask_error hask

/-- A call for no session can only fail over the limits. -/
theorem perform_untargeted {c : Call} {e : Failure} (hc : c.target = none)
    (h : perform st c = .error e) : ∃ kind, e = .wrongType (.notCountable kind) := by
  cases c with
  | get | ask | suggestions | history | clear | delete => cases hc
  | contains | size => cases h
  | create r units hasModel given =>
    simp only [perform, Store.create, Store.settle, Trail.outcome_bind, Trail.outcome_ofExcept] at h
    cases hexcess : (st.begin r units hasModel given).2.excess with
    | ok gone =>
      rw [hexcess] at h
      cases h
    | error e' =>
      rw [hexcess] at h
      cases h
      exact excess_error hexcess

/-- A call fails for want of a session exactly if it is for one that is not there. -/
theorem perform_missing_iff {c : Call} {id : String} :
    perform st c = .error (.sessionNotFound id) ↔ c.target = some id ∧ id ∉ st.ids := by
  refine ⟨fun h => ?_, fun ⟨hc, hid⟩ => perform_absent hc hid⟩
  cases htarget : c.target with
  | none =>
    obtain ⟨kind, hkind⟩ := perform_untargeted htarget h
    cases hkind
  | some target =>
    by_cases hthere : target ∈ st.ids
    · cases perform_present htarget hthere h
    · rw [perform_absent htarget hthere] at h
      cases h
      exact ⟨rfl, hthere⟩

theorem leave_missing {c : Call} {id : String} (hc : c.target = some id) (hid : id ∉ st.ids) :
    leave st c = st := by
  cases c with
  | create | contains | size => cases hc
  | get | ask | suggestions | history | clear | delete => exact next_absent hc hid

/-- A call makes nothing of the sessions that it is not for. -/
theorem effect_other {c : Call} {id : String} (hc : c.target = some id) {s : Session}
    (h : s.id ≠ id) : c.effect s = s := by
  cases c with
  | ask | clear =>
    cases hc
    exact if_neg h
  | create | get | suggestions | history | delete | contains | size => rfl

/-- What a call for a session makes of the sessions. -/
theorem leave_targeted (hnodup : st.ids.Nodup) {c : Call} {id : String} (hc : c.target = some id) :
    leave st c = { st with sessions :=
      if c.isEnd then Store.without id st.sessions else st.sessions.map c.effect } := by
  cases c with
  | create | contains | size => cases hc
  | delete =>
    cases hc
    exact next_delete id
  | ask =>
    cases hc
    exact next_ask hnodup _ _ _
  | clear =>
    cases hc
    exact next_clear hnodup id
  | get | suggestions | history =>
    refine (next_read rfl).trans ?_
    rw [effect_eq_id rfl, List.map_id]
    rfl

/-- A call for a session leaves the sessions of all other ids as they were. -/
theorem get_leave (hnodup : st.ids.Nodup) {c : Call} {id other : String}
    (hc : c.target = some id) (h : other ≠ id) : (leave st c).get other = st.get other := by
  rw [leave_targeted hnodup hc]
  split
  · exact Store.get_without h
  · refine Store.get_map (effect_id c) fun s hs => effect_other hc ?_
    rw [hs]
    exact h

/-- Only an end takes a session away. -/
theorem leave_ids (hnodup : st.ids.Nodup) {c : Call} {id : String} (hc : c.target = some id)
    (hstays : c.isEnd = false) : (leave st c).ids = st.ids := by
  rw [leave_targeted hnodup hc, hstays, if_neg Bool.false_ne_true]
  simp [Store.ids, Function.comp_def]

/-- Ids stay different. -/
theorem leave_nodup (hnodup : st.ids.Nodup) (c : Call) : (leave st c).ids.Nodup := by
  cases hc : c.target with
  | some id =>
    rw [leave_targeted hnodup hc]
    split
    · exact ((Store.without_sublist id st.sessions).map _).nodup hnodup
    · simpa [Store.ids, Function.comp_def] using hnodup
  | none =>
    cases c with
    | get | ask | suggestions | history | clear | delete => cases hc
    | contains | size => exact hnodup
    | create r units hasModel given =>
      have hbegun : (st.begin r units hasModel given).2.ids.Nodup := Store.join_nodup hnodup _
      unfold leave
      dsimp only
      split
      · rename_i hsettle
        exact ((Store.settle_sublist hsettle).map _).nodup hbegun
      · exact hbegun

/-- A question that fails keeps the sessions, their order and every history. -/
theorem leave_ask_failed (hnodup : st.ids.Nodup) {id : String} {reply : Session → Reply}
    (h : ∀ s, st.get id = .ok s → s.hasModel = false ∨ (reply s).isFailure = true)
    (question : String) :
    (leave st (.ask id question reply)).sessions.map Session.uncounted =
      st.sessions.map Session.uncounted := by
  rw [leave_targeted hnodup rfl, if_neg (by simp [Call.isEnd]), List.map_map]
  refine List.map_congr_left fun s hs => ?_
  by_cases hid : s.id = id
  · have hfails := h s ((Store.get_ok_iff hnodup).mpr ⟨hs, hid⟩)
    simp only [Function.comp_apply, Call.effect, if_pos hid]
    exact Session.afterAsk_failed hfails question
  · rw [Function.comp_apply, effect_other rfl hid]

end

end Conversation

/-! ## Tools -/

namespace Desk

open Conversation

/-- The call to the store that a tool call comes to, if it comes to one. -/
def callOf (w : Workplace) (d : Desk) : ToolCall → Except Failure Call
  | .analyze path useModel => do
    let c ← w.configuration
    let f ← ((w.after d.calls).analyze c path useModel false).outcome
    let provider ← (w.provider c).outcome
    return .create f.report f.source.units provider.isSome none
  | .ask id question => return .ask id question fun _ => nextReply w d
  | .suggestions id => return .suggestions id
  | .history id => return .history id
  | .delete id => return .delete id

/-- The session that a tool call is for. -/
def targetOf : ToolCall → Option String
  | .ask id _ | .suggestions id | .history id | .delete id => some id
  | .analyze .. => none

section

variable (w : Workplace) (d : Desk)

theorem ask_store (id question : String) :
    (d.ask w id question).desk.store =
      leave d.store (.ask id question fun _ => nextReply w d) := by
  simp only [ask, leave, next, perform, Store.ask, Trail.outcome_bind, Trail.outcome_ofExcept]
  cases d.store.get id with
  | error => rfl
  | ok s =>
    simp only [ok_bind]
    cases (s.ask question (nextReply w d)).outcome <;> rfl

theorem about_store (id : String) (say : Session → String) : (d.about id say).desk = d := by
  unfold about
  cases d.store.get id <;> rfl

theorem delete_store (id : String) :
    (d.delete id).desk.store = leave d.store (.delete id) := by
  simp only [delete, leave, next, perform]
  cases d.store.delete id <;> rfl

theorem keep_store (c : Configuration) (f : Findings) {provider : Option Provider}
    (h : (w.provider c).outcome = .ok provider) :
    (keep w d c f).desk.store =
      leave d.store (.create f.report f.source.units provider.isSome none) := by
  unfold keep leave
  rw [h]
  dsimp only
  cases (d.store.begin f.report f.source.units provider.isSome none).2.settle.outcome <;> rfl

/-- A tool call does to the store what the call does that it comes to, if it comes to one. -/
theorem serve_store (t : ToolCall) :
    (d.serve w t).desk.store =
      match d.callOf w t with
      | .ok c => leave d.store c
      | .error _ => d.store := by
  cases t with
  | analyze path useModel =>
    unfold serve analyze callOf
    cases w.configuration with
    | error => rfl
    | ok c =>
      simp only [ok_bind]
      cases ((w.after d.calls).analyze c path useModel false).outcome with
      | error e =>
        dsimp only
        cases excuse? path e <;> rfl
      | ok f =>
        simp only [ok_bind]
        cases hprovider : (w.provider c).outcome with
        | error e =>
          unfold keep
          rw [hprovider]
          rfl
        | ok provider => exact keep_store w _ c f hprovider
  | ask id question => exact ask_store w d id question
  | suggestions id =>
    rw [serve, about_store]
    exact (next_read rfl).symm
  | history id =>
    rw [serve, about_store]
    exact (next_read rfl).symm
  | delete id => exact delete_store d id

/-- A tool call for a session that is not there says so and changes nothing. -/
theorem serve_missing {t : ToolCall} {id : String} (ht : targetOf t = some id)
    (hid : id ∉ d.store.ids) : d.serve w t = ⟨.ok (some (notFound id)), d⟩ := by
  have hget := Store.get_absent hid
  cases t with
  | analyze => cases ht
  | ask | suggestions | history =>
    cases ht
    simp only [serve, ask, about, hget]
  | delete =>
    cases ht
    simp only [serve, delete, Store.delete, hget]
    rfl

/-- The text about a new report ends with the id of its session. -/
theorem reportText_id {r : Report} {id text : String} (h : reportText r id = .ok text) :
    ∃ shown, text = shown ++ "\n" ++ s!"Session ID: {id}" := by
  unfold reportText at h
  obtain ⟨summary, _, h⟩ := bind_eq_ok.mp h
  refine ⟨Text.join "\n" ([summary, ""] ++ (r.issues.take shownIssues).map Issue.headline ++ [""]),
    ?_⟩
  have hsplit := String.intercalate_append_of_ne_nil (s := "\n")
    (l := [summary, ""] ++ (r.issues.take shownIssues).map Issue.headline ++ [""])
    (m := [s!"Session ID: {id}"]) (by simp) (by simp)
  rw [String.intercalate_singleton] at hsplit
  rw [← Except.ok.inj h, Text.join, Text.join, ← hsplit]
  simp

/-- Where a report is told, its session was started with the id that is told. -/
theorem keep_said {c : Configuration} {f : Findings} {text : String}
    (h : (keep w d c f).text = .ok (some text)) :
    ∃ provider id, (w.provider c).outcome = .ok provider ∧
      perform d.store (.create f.report f.source.units provider.isSome none) =
        .ok (.id id, (keep w d c f).desk.store) ∧
      ∃ shown, text = shown ++ "\n" ++ s!"Session ID: {id}" := by
  unfold keep at h ⊢
  cases hprovider : (w.provider c).outcome with
  | error e =>
    rw [hprovider] at h
    cases h
  | ok provider =>
    rw [hprovider] at h
    dsimp only at h ⊢
    cases hsettle :
      (d.store.begin f.report f.source.units provider.isSome none).2.settle.outcome with
    | error e =>
      rw [hsettle] at h
      cases h
    | ok settled =>
      rw [hsettle] at h
      obtain ⟨told, htold, hsome⟩ := map_eq_ok.mp h
      obtain rfl := Option.some.inj hsome
      refine ⟨provider, _, rfl, ?_, reportText_id htold⟩
      simp only [perform, Store.create, Trail.outcome_bind, hsettle, ok_bind, Trail.outcome_pure]
      rfl

/-- A text about a target tells that it could not be analysed, and then the store is as it was, or
gives the report with the id of the one session that was started for it. -/
theorem analyze_said {path : String} {useModel : Bool} {text : String}
    (h : (d.analyze w path useModel).text = .ok (some text)) :
    (∃ c e, w.configuration = .ok c ∧
      ((w.after d.calls).analyze c path useModel false).outcome = .error e ∧
      excuse? path e = some text ∧ (d.analyze w path useModel).desk.store = d.store) ∨
    ∃ r units hasModel id,
      d.callOf w (.analyze path useModel) = .ok (.create r units hasModel none) ∧
      perform d.store (.create r units hasModel none) =
        .ok (.id id, (d.analyze w path useModel).desk.store) ∧
      ∃ shown, text = shown ++ "\n" ++ s!"Session ID: {id}" := by
  unfold analyze at h ⊢
  unfold callOf
  cases hconfiguration : w.configuration with
  | error e =>
    rw [hconfiguration] at h
    cases h
  | ok c =>
    rw [hconfiguration] at h
    dsimp only at h ⊢
    cases hfound : ((w.after d.calls).analyze c path useModel false).outcome with
    | error e =>
      rw [hfound] at h
      dsimp only at h ⊢
      cases hexcuse : excuse? path e with
      | none =>
        rw [hexcuse] at h
        cases h
      | some said =>
        rw [hexcuse] at h
        cases h
        exact .inl ⟨c, e, rfl, hfound, hexcuse, rfl⟩
    | ok f =>
      rw [hfound] at h
      obtain ⟨provider, id, hprovider, hperform, hshown⟩ := keep_said w _ h
      refine .inr ⟨f.report, f.source.units, provider.isSome, id, ?_, hperform, hshown⟩
      simp only [ok_bind, hfound, hprovider]
      rfl

end

/-! ## Runs -/

/-- What is done at a desk. -/
inductive Deed where
  /-- A call to the store itself. -/
  | call (c : Call)
  | tool (w : Workplace) (t : ToolCall)

def afterDeed (d : Desk) : Deed → Desk
  | .call c => { d with store := leave d.store c }
  | .tool w t => (d.serve w t).desk

/-- The desk after a run, the last deed first. -/
def after (d : Desk) : List Deed → Desk
  | [] => d
  | x :: earlier => (d.after earlier).afterDeed x

/-- A desk without sessions. -/
def opened (maxSessions evictCount : Int) (uncountable : Option String) : Desk :=
  { store := { maxSessions, evictCount, uncountable } }

theorem afterDeed_nodup {d : Desk} (h : d.store.ids.Nodup) (x : Deed) :
    (d.afterDeed x).store.ids.Nodup := by
  cases x with
  | call c => exact leave_nodup h c
  | tool w t =>
    change (d.serve w t).desk.store.ids.Nodup
    rw [serve_store]
    split
    · exact leave_nodup h _
    · exact h

theorem after_nodup (m e : Int) (kind : Option String) (run : List Deed) :
    ((opened m e kind).after run).store.ids.Nodup := by
  induction run with
  | nil => exact List.nodup_nil
  | cons x earlier ih => exact afterDeed_nodup ih x

/-- What calls leave alone at a desk. -/
structure Isolates (d : Desk) : Prop where
  /-- The store after a call that is answered is the one that comes with the answer. -/
  answered : ∀ c answer after, perform d.store c = .ok (answer, after) → leave d.store c = after
  /-- Calls fail for want of a session exactly if they are for one that is not there. -/
  missing : ∀ c id, perform d.store c = .error (.sessionNotFound id) ↔
    c.target = some id ∧ id ∉ d.store.ids
  /-- Such a call changes nothing. -/
  missing_kept : ∀ c id, perform d.store c = .error (.sessionNotFound id) →
    leave d.store c = d.store
  /-- A question for which the model fails, or is not there, keeps the sessions, their order and
  every history. -/
  failed_kept : ∀ id question reply,
    (∀ s, d.store.get id = .ok s → s.hasModel = false ∨ (reply s).isFailure = true) →
      (leave d.store (.ask id question reply)).sessions.map Session.uncounted =
        d.store.sessions.map Session.uncounted
  /-- A call for a session leaves all others as they were. -/
  others_kept : ∀ c id other, c.target = some id → other ≠ id →
    (leave d.store c).get other = d.store.get other
  /-- Only an end changes which sessions are there, and in which order. -/
  ids_kept : ∀ c id, c.target = some id → c.isEnd = false → (leave d.store c).ids = d.store.ids
  /-- A tool call does to the store what the call does that it comes to. An analysis that fails, or
  for which a model cannot be chosen, comes to none. -/
  served : ∀ w t, (d.serve w t).desk.store =
    match d.callOf w t with
    | .ok c => leave d.store c
    | .error _ => d.store
  /-- A tool call for a session that is not there says so and changes nothing. -/
  missing_told : ∀ w t id, targetOf t = some id → id ∉ d.store.ids →
    d.serve w t = ⟨.ok (some (notFound id)), d⟩
  /-- A text about a target tells that it could not be analysed, and then the store is as it was, or
  gives the report with the id of the one session that was started for it. -/
  analysis_told : ∀ w path useModel text,
    (d.serve w (.analyze path useModel)).text = .ok (some text) →
      (∃ c e, w.configuration = .ok c ∧
        ((w.after d.calls).analyze c path useModel false).outcome = .error e ∧
        excuse? path e = some text ∧
        (d.serve w (.analyze path useModel)).desk.store = d.store) ∨
      ∃ r units hasModel id,
        d.callOf w (.analyze path useModel) = .ok (.create r units hasModel none) ∧
        perform d.store (.create r units hasModel none) =
          .ok (.id id, (d.serve w (.analyze path useModel)).desk.store) ∧
        ∃ shown, text = shown ++ "\n" ++ s!"Session ID: {id}"

/-- **Sessions are isolated, and what fails changes nothing.** That holds after every run of tool
calls and of calls to the store, whatever the limits of the store are. -/
theorem sessions_isolated (m e : Int) (kind : Option String) (run : List Deed) :
    Isolates ((opened m e kind).after run) := by
  have hnodup := after_nodup m e kind run
  generalize (opened m e kind).after run = d at hnodup
  constructor
  case answered => exact fun c answer after h => leave_of_ok h
  case missing => exact fun c id => perform_missing_iff
  case missing_kept =>
    intro c id h
    obtain ⟨hc, hid⟩ := perform_missing_iff.mp h
    exact leave_missing hc hid
  case failed_kept => exact fun id question reply h => leave_ask_failed hnodup h question
  case others_kept => exact fun c id other hc hne => get_leave hnodup hc hne
  case ids_kept => exact fun c id hc hend => leave_ids hnodup hc hend
  case served => exact fun w t => serve_store w d t
  case missing_told => exact fun w t id ht hid => serve_missing w d ht hid
  case analysis_told => exact fun w path useModel text h => analyze_said w d h

/-- Of two sessions both stay when one is asked and the model is busy; a third is not there. -/
theorem sessions_isolated_pair :
    let r : Report := ⟨⟨1, 1, ["go"], 0, []⟩, [], ⟨0, 100, 0, 100⟩, [], "now"⟩
    let d := (opened 2 1 none).after (["b", "a"].map fun id => .call (.create r [] true (some id)))
    d.store.ids = ["a", "b"] ∧
      (leave d.store (.ask "b" "why?" fun _ => .serviceError "busy")).ids = ["a", "b"] ∧
      perform d.store (.history "c") = .error (.sessionNotFound "c") := by
  intro r d
  have hids : d.store.ids = ["a", "b"] := by decide
  have hd : Isolates d := sessions_isolated 2 1 none _
  refine ⟨hids, (hd.ids_kept _ "b" rfl rfl).trans hids, ?_⟩
  exact (hd.missing _ "c").mpr ⟨rfl, by rw [hids]; decide⟩

end Desk

end Assay
