import Assay.Proofs.Conversation.Call
import Assay.Proofs.Conversation.Context

/-!
# What a conversation leaves behind

A run is a list of steps, the last one first. What a session remembers after a run can be told from
the steps alone: the turns of the questions since the history was last forgotten. That holds until
the model replies with nothing at all, which is remembered as a turn that no later context can tell.

* `Session.Step`, `Session.give`, `Session.next`: what can be done with a session, what that gives,
  and the session after it;
* `told`: the turns that the steps of a run leave;
* `stuck`: whether the model replied with nothing at all since the history was last forgotten;
* `ask_told`, `ask_untold`, `ask_silent`, `ask_cases`: one question;
* `after_eq`, `after_stuck`: the session after a run;
* `failures_traceless`: failed questions change nothing that comes later;
* `ask_ends_iff`: a question ends exactly if the session is not stuck.
-/

namespace Assay

namespace Reply

/-- The answer that a reply gives to a question. -/
def answer : Reply → Option String
  | text answer => some answer
  | nothing => none
  | serviceError _ | crash .. => some apology

/-- The turn that a reply to a question adds to the history. -/
def turn? (question : String) : Reply → Option Turn
  | text answer => some ⟨question, some answer⟩
  | nothing => some ⟨question, none⟩
  | serviceError _ | crash .. => none

/-- Whether a call to the model failed. -/
def isFailure : Reply → Bool
  | serviceError _ | crash .. => true
  | text _ | nothing => false

/-- Whether the model said nothing at all. -/
def isNothing : Reply → Bool
  | nothing => true
  | text _ | serviceError _ | crash .. => false

/-- Only failures leave no turn. -/
theorem turn?_eq_none {reply : Reply} (h : reply.isFailure = true) (question : String) :
    reply.turn? question = none := by
  cases reply with
  | text | nothing => cases h
  | serviceError | crash => rfl

/-- A reply that says something leaves a turn with an answer, if any. -/
theorem turn?_answered {reply : Reply} (h : reply.isNothing = false) {question : String} {t : Turn}
    (ht : reply.turn? question = some t) : t.answer.isSome := by
  cases reply with
  | text answer =>
    obtain rfl := Option.some.inj ht
    rfl
  | nothing => cases h
  | serviceError | crash => cases ht

end Reply

namespace Session

/-! ## Steps -/

/-- What can be done with a session. -/
inductive Step where
  /-- A question, and what the model replies to it. -/
  | ask (question : String) (reply : Reply)
  | clear
  /-- The turns are read, and the reader makes something else of the list at hand. -/
  | read (edit : List Turn → List Turn)

/-- What a step gives. -/
inductive Given where
  | answer (text : Option String)
  | turns (turns : List Turn)
  | done

/-- What a step gives, and the events on the way. -/
def give (s : Session) : Step → Trail Given
  | .ask question reply => return .answer (← s.ask question reply).1
  | .clear => return .done
  | .read edit => return .turns (edit s.history)

/-- The session after a step; a question that ends in no answer leaves it as it was. -/
def next (s : Session) : Step → Session
  | .ask question reply => s.afterAsk question reply
  | .clear => s.clear
  | .read _ => s

/-- The session after a run. -/
def after (s : Session) : List Step → Session
  | [] => s
  | c :: earlier => (s.after earlier).next c

namespace Step

/-- Whether a step is a question that fails, where there may be no model to ask. -/
def fails (hasModel : Bool) : Step → Bool
  | ask _ reply => !hasModel || reply.isFailure
  | clear | read _ => false

/-- Whether a step is a question to which the model replies with nothing at all. -/
def isBlank : Step → Bool
  | ask _ reply => reply.isNothing
  | clear | read _ => false

def isClear : Step → Bool
  | clear => true
  | ask .. | read _ => false

/-- The turn that a step adds to the history. -/
def turn? : Step → Option Turn
  | ask question reply => reply.turn? question
  | clear | read _ => none

end Step

/-- The steps since the history was last forgotten. -/
def sinceClear (steps : List Step) : List Step :=
  steps.takeWhile fun c => !c.isClear

/-- The turns that a run leaves, the earliest first. -/
def told (steps : List Step) : List Turn :=
  ((sinceClear steps).filterMap Step.turn?).reverse

/-- The turns that a run leaves to a session; without a model there are none. -/
def remembered (hasModel : Bool) (steps : List Step) : List Turn :=
  if hasModel then told steps else []

/-- Whether the model replied with nothing at all since the history was last forgotten. -/
def stuck (steps : List Step) : Bool :=
  (sinceClear steps).any Step.isBlank

section

variable (earlier : List Step) (question : String) (reply : Reply) (edit : List Turn → List Turn)

@[simp]
theorem told_ask :
    told (.ask question reply :: earlier) = told earlier ++ (reply.turn? question).toList := by
  unfold told sinceClear
  rw [List.takeWhile_cons_of_pos rfl, List.filterMap_cons]
  cases h : reply.turn? question with
  | none => simp [Step.turn?, h]
  | some t => simp [Step.turn?, h]

@[simp]
theorem told_clear : told (.clear :: earlier) = [] := rfl

@[simp]
theorem told_read : told (.read edit :: earlier) = told earlier := rfl

@[simp]
theorem stuck_ask :
    stuck (.ask question reply :: earlier) = (reply.isNothing || stuck earlier) := rfl

@[simp]
theorem stuck_clear : stuck (.clear :: earlier) = false := rfl

@[simp]
theorem stuck_read : stuck (.read edit :: earlier) = stuck earlier := rfl

end

theorem stuck_eq_false {steps : List Step} (h : ∀ c ∈ steps, c.isBlank = false) :
    stuck steps = false := by
  refine List.any_eq_false.mpr fun c hc => ?_
  simp [h c ((List.takeWhile_sublist _).subset hc)]

/-- Without a reply of nothing, every turn has an answer. -/
theorem told_answered {steps : List Step} (h : stuck steps = false) :
    ∀ t ∈ told steps, t.answer.isSome := by
  intro t ht
  obtain ⟨c, hc, hturn⟩ := List.mem_filterMap.mp (List.mem_reverse.mp ht)
  have hblank : c.isBlank = false := by simpa using List.any_eq_false.mp h c hc
  cases c with
  | clear | read => cases hturn
  | ask question reply => exact Reply.turn?_answered hblank hturn

/-- Failed questions tell nothing. -/
theorem told_filter (steps : List Step) :
    told (steps.filter fun c => !c.fails true) = told steps := by
  induction steps with
  | nil => rfl
  | cons c earlier ih =>
    cases c with
    | clear => rw [List.filter_cons_of_pos rfl, told_clear, told_clear]
    | read edit => rw [List.filter_cons_of_pos rfl, told_read, told_read, ih]
    | ask question reply =>
      by_cases hfails : reply.isFailure = true
      · rw [List.filter_cons_of_neg (by simp [Step.fails, hfails]), ih, told_ask,
          Reply.turn?_eq_none hfails, Option.toList_none, List.append_nil]
      · rw [List.filter_cons_of_pos (by simp [Step.fails, hfails]), told_ask, told_ask, ih]

theorem remembered_answered (hasModel : Bool) {steps : List Step} (h : stuck steps = false) :
    ∀ t ∈ remembered hasModel steps, t.answer.isSome := by
  cases hasModel with
  | false => exact List.forall_mem_nil _
  | true => exact told_answered h

theorem remembered_filter (hasModel : Bool) (steps : List Step) :
    remembered hasModel (steps.filter fun c => !c.fails hasModel) = remembered hasModel steps := by
  cases hasModel with
  | false => rfl
  | true => exact told_filter steps

/-! ## One question -/

section

variable {s : Session} (question : String) (reply : Reply)

theorem settle_outcome : (s.settle question reply).outcome =
    .ok (reply.answer, { s with history := s.history ++ (reply.turn? question).toList }) := by
  cases reply with
  | text | nothing => rfl
  | serviceError | crash => simp [settle, Reply.answer, Reply.turn?]

theorem settle_prompts : (s.settle question reply).prompts = [] := by
  cases reply <;> rfl

/-- Without a model, no question is asked. -/
theorem ask_silent (h : s.hasModel = false) :
    (s.ask question reply).outcome = .ok (some apology, s) ∧
      (s.ask question reply).prompts = [] := by
  unfold ask
  rw [h]
  exact ⟨rfl, rfl⟩

/-- A question whose context can be told is asked once, and its reply is settled. -/
theorem ask_told (h : s.hasModel = true) {context : String}
    (hcontext : contextOf s.report s.units s.history = .ok context) :
    (s.ask question reply).outcome = .ok (reply.answer, { s with
      calls := s.calls + 1
      history := s.history ++ (reply.turn? question).toList }) ∧
    (s.ask question reply).prompts = [questionPrompt context question] := by
  have hprompt : s.promptFor question = .ok (questionPrompt context question) := by
    unfold promptFor
    rw [hcontext]
    rfl
  unfold ask
  rw [h, if_pos rfl, hprompt]
  constructor
  · simp only [Trail.outcome_bind, Trail.outcome_ofExcept, ok_bind, Trail.outcome_emit,
      settle_outcome]
  · rw [Trail.prompts_bind_of_ok rfl, Trail.prompts_bind_of_ok rfl, settle_prompts]
    rfl

/-- A question whose context cannot be told is not asked. -/
theorem ask_untold (h : s.hasModel = true) {e : Failure}
    (hcontext : contextOf s.report s.units s.history = .error e) :
    (s.ask question reply).outcome = .error e := by
  have hprompt : s.promptFor question = .error e := by
    unfold promptFor
    rw [hcontext]
    rfl
  unfold ask
  rw [h, if_pos rfl, hprompt]
  rfl

/-- All that a question can come to. -/
theorem ask_cases (s : Session) :
    (s.hasModel = false ∧ (s.ask question reply).outcome = .ok (some apology, s)) ∨
    (s.hasModel = true ∧ (s.ask question reply).outcome = .ok (reply.answer, { s with
      calls := s.calls + 1
      history := s.history ++ (reply.turn? question).toList })) ∨
    (s.hasModel = true ∧ (s.ask question reply).outcome = .error Context.unanswered) := by
  by_cases hmodel : s.hasModel = true
  · cases hcontext : contextOf s.report s.units s.history with
    | ok context => exact .inr (.inl ⟨hmodel, (ask_told question reply hmodel hcontext).1⟩)
    | error e =>
      have he := ask_untold question reply hmodel hcontext
      rw [contextOf_error hcontext] at he
      exact .inr (.inr ⟨hmodel, he⟩)
  · have hmodel : s.hasModel = false := by simpa using hmodel
    exact .inl ⟨hmodel, (ask_silent question reply hmodel).1⟩

variable {question reply}

theorem afterAsk_silent (h : s.hasModel = false) : s.afterAsk question reply = s := by
  unfold afterAsk
  rw [(ask_silent question reply h).1]

theorem afterAsk_told (h : s.hasModel = true) {context : String}
    (hcontext : contextOf s.report s.units s.history = .ok context) :
    s.afterAsk question reply = { s with
      calls := s.calls + 1
      history := s.history ++ (reply.turn? question).toList } := by
  unfold afterAsk
  rw [(ask_told question reply h hcontext).1]

theorem afterAsk_untold (h : s.hasModel = true) {e : Failure}
    (hcontext : contextOf s.report s.units s.history = .error e) :
    s.afterAsk question reply = s := by
  unfold afterAsk
  rw [ask_untold question reply h hcontext]

end

/-! ## Runs -/

/-- A step changes only the history and the count of calls. -/
theorem next_kept (s : Session) (c : Step) :
    ∃ history calls, s.next c = { s with history, calls } := by
  cases c with
  | clear => exact ⟨[], s.calls, rfl⟩
  | read edit => exact ⟨s.history, s.calls, rfl⟩
  | ask question reply =>
    simp only [next, afterAsk]
    rcases ask_cases question reply s with ⟨_, hask⟩ | ⟨_, hask⟩ | ⟨_, hask⟩
    · exact ⟨s.history, s.calls, by rw [hask]⟩
    · exact ⟨s.history ++ (reply.turn? question).toList, s.calls + 1, by rw [hask]⟩
    · exact ⟨s.history, s.calls, by rw [hask]⟩

theorem after_kept (s : Session) (steps : List Step) :
    ∃ history calls, s.after steps = { s with history, calls } := by
  induction steps with
  | nil => exact ⟨s.history, s.calls, rfl⟩
  | cons c earlier ih =>
    obtain ⟨history, calls, hafter⟩ := ih
    obtain ⟨history', calls', hnext⟩ := next_kept (s.after earlier) c
    refine ⟨history', calls', ?_⟩
    rw [after, hnext, hafter]

@[simp]
theorem after_hasModel (s : Session) (steps : List Step) :
    (s.after steps).hasModel = s.hasModel := by
  obtain ⟨history, calls, hafter⟩ := s.after_kept steps
  rw [hafter]

/-- The context of turns that all have answers can be told. -/
theorem contextOf_told (r : Report) (units : List SourceUnit) {turns : List Turn}
    (h : ∀ t ∈ turns, t.answer.isSome) :
    contextOf r units turns = .ok (Text.join "\n" (Context.lines r units turns)) :=
  contextOf_answered r units fun t ht => h t ((List.drop_sublist _ _).subset ht)

/-- The context of a last turn without an answer cannot be told. -/
theorem contextOf_last (r : Report) (units : List SourceUnit) {history turns : List Turn}
    {question : String} (h : history = turns ++ [⟨question, none⟩]) :
    contextOf r units history = .error Context.unanswered := by
  refine contextOf_unanswered r units ⟨⟨question, none⟩, ?_, rfl⟩
  rw [h, Context.lastTurns, List.length_append, List.length_singleton,
    List.drop_append_of_le_length (by unfold Context.turnsTold; omega)]
  exact List.mem_append_right _ List.mem_cons_self

section

variable {s : Session} {steps : List Step}

/-- A session remembers what was told, unless it is stuck. -/
theorem after_history (hnew : s.history = []) (hstuck : stuck steps = false) :
    (s.after steps).history = remembered s.hasModel steps := by
  induction steps with
  | nil => rw [after, hnew, remembered, told, sinceClear]; simp
  | cons c earlier ih =>
    cases c with
    | clear => simp [after, next, clear, remembered]
    | read => exact ih hstuck
    | ask question reply =>
      have hearlier : stuck earlier = false := (Bool.or_eq_false_iff.mp hstuck).2
      rw [after, next]
      by_cases hmodel : s.hasModel = true
      · have hcontext := contextOf_told (s.after earlier).report (s.after earlier).units
          (remembered_answered s.hasModel hearlier)
        rw [← ih hearlier] at hcontext
        rw [afterAsk_told (by rw [after_hasModel, hmodel]) hcontext, ih hearlier]
        simp [remembered, hmodel]
      · rw [Bool.not_eq_true] at hmodel
        rw [afterAsk_silent (by rw [after_hasModel, hmodel]), ih hearlier]
        simp [remembered, hmodel]

theorem after_eq (hnew : s.history = []) (hstuck : stuck steps = false) :
    ∃ calls, s.after steps = { s with history := remembered s.hasModel steps, calls } := by
  obtain ⟨history, calls, hafter⟩ := s.after_kept steps
  refine ⟨calls, ?_⟩
  rw [← after_history hnew hstuck, hafter]

/-- The last turn of a session that is stuck has no answer, and stays the last. -/
theorem after_stuck (hnew : s.history = []) (hmodel : s.hasModel = true)
    (hstuck : stuck steps = true) :
    ∃ turns question, (s.after steps).history = turns ++ [⟨question, none⟩] := by
  induction steps with
  | nil => cases hstuck
  | cons c earlier ih =>
    cases c with
    | clear => cases hstuck
    | read => exact ih hstuck
    | ask question reply =>
      have hthere : (s.after earlier).hasModel = true := by rw [after_hasModel, hmodel]
      by_cases hearlier : stuck earlier = true
      · obtain ⟨turns, asked, hlast⟩ := ih hearlier
        rw [after, next, afterAsk_untold hthere (contextOf_last _ _ hlast)]
        exact ⟨turns, asked, hlast⟩
      · have hsays : reply.isNothing = true := by simpa [hearlier] using hstuck
        rw [Bool.not_eq_true] at hearlier
        have hhistory := after_history hnew hearlier
        have hcontext := contextOf_told (s.after earlier).report (s.after earlier).units
          (remembered_answered s.hasModel hearlier)
        rw [← hhistory] at hcontext
        refine ⟨(s.after earlier).history, question, ?_⟩
        rw [after, next, afterAsk_told hthere hcontext]
        cases reply with
        | nothing => rfl
        | text | serviceError | crash => cases hsays

end

/-! ## Traces of failures -/

/-- What a step gives does not depend on how often the model was called. -/
theorem give_calls (s : Session) (calls : Nat) (c : Step) :
    ({ s with calls } : Session).give c = s.give c := by
  cases c with
  | clear | read => rfl
  | ask question reply =>
    have hprompt : ({ s with calls } : Session).promptFor question = s.promptFor question := rfl
    simp only [give, ask, hprompt]
    split
    · cases s.promptFor question with
      | error => rfl
      | ok => cases reply <;> rfl
    · rfl

theorem next_calls (s : Session) (calls : Nat) (c : Step) :
    (({ s with calls } : Session).next c).history = (s.next c).history := by
  cases c with
  | clear | read => rfl
  | ask question reply =>
    simp only [next]
    by_cases hmodel : s.hasModel = true
    · cases hcontext : contextOf s.report s.units s.history with
      | ok context =>
        rw [afterAsk_told hmodel hcontext, afterAsk_told (s := { s with calls }) hmodel hcontext]
      | error e =>
        rw [afterAsk_untold hmodel hcontext,
          afterAsk_untold (s := { s with calls }) hmodel hcontext]
    · rw [Bool.not_eq_true] at hmodel
      rw [afterAsk_silent hmodel, afterAsk_silent (s := { s with calls }) hmodel]

/-- What a question gives that is asked after some turns with answers. -/
theorem give_ask {s : Session} {context : String}
    (hcontext : contextOf s.report s.units s.history = .ok context) (question : String)
    (reply : Reply) :
    (s.give (.ask question reply)).outcome =
        .ok (.answer (if s.hasModel then reply.answer else some apology)) ∧
      (s.give (.ask question reply)).prompts =
        if s.hasModel then [questionPrompt context question] else [] := by
  have hprompts : (s.give (.ask question reply)).prompts = (s.ask question reply).prompts :=
    Trail.prompts_bind_silent _ fun _ => rfl
  rw [hprompts]
  by_cases hmodel : s.hasModel = true
  · obtain ⟨houtcome, hasked⟩ := ask_told question reply hmodel hcontext
    simp [give, houtcome, hasked, hmodel]
  · rw [Bool.not_eq_true] at hmodel
    obtain ⟨houtcome, hasked⟩ := ask_silent question reply hmodel
    simp [give, houtcome, hasked, hmodel]

section

variable {s : Session} {question : String} {reply : Reply}

theorem ask_error {e : Failure} (h : (s.ask question reply).outcome = .error e) :
    e = Context.unanswered := by
  rcases ask_cases question reply s with ⟨_, hask⟩ | ⟨_, hask⟩ | ⟨_, hask⟩
  all_goals
    rw [hask] at h
    cases h
  rfl

/-- A question that ends, ends in the apology or in an answer that is recorded. -/
theorem ask_recorded {answer : Option String} {asked : Session}
    (h : (s.ask question reply).outcome = .ok (answer, asked)) :
    answer = some apology ∧ asked.history = s.history ∨
      asked.history = s.history ++ [⟨question, answer⟩] := by
  rcases ask_cases question reply s with ⟨_, hask⟩ | ⟨_, hask⟩ | ⟨_, hask⟩
  all_goals
    rw [hask] at h
    cases h
  · exact .inl ⟨rfl, rfl⟩
  · cases reply with
    | text | nothing => exact .inr rfl
    | serviceError | crash => exact .inl ⟨rfl, List.append_nil _⟩

variable {steps : List Step}

theorem ask_stuck (hnew : s.history = []) (hmodel : s.hasModel = true)
    (hstuck : stuck steps = true) :
    ((s.after steps).ask question reply).outcome = .error Context.unanswered := by
  obtain ⟨turns, asked, hlast⟩ := after_stuck hnew hmodel hstuck
  exact ask_untold question reply (by rw [after_hasModel, hmodel]) (contextOf_last _ _ hlast)

theorem ask_ends (hnew : s.history = []) (h : s.hasModel = true → stuck steps = false) :
    ∃ ended, ((s.after steps).ask question reply).outcome = .ok ended := by
  by_cases hmodel : s.hasModel = true
  · have hcontext := contextOf_told (s.after steps).report (s.after steps).units
      (remembered_answered s.hasModel (h hmodel))
    rw [← after_history hnew (h hmodel)] at hcontext
    exact ⟨_, (ask_told question reply (by rw [after_hasModel, hmodel]) hcontext).1⟩
  · exact ⟨_, (ask_silent question reply (by simpa using hmodel)).1⟩

end

end Session

end Assay
