import TileMatch.Proofs.Session.Step

/-!
# Histories

A `Moment` is a call of a run together with the session in which it was made, and the history of a
run is the list of its moments. What is true of a run at some point is said about the moments before
that point: `LastWith` singles out the last of them with a property, and the moments since then.

Facts about all runs follow from facts about one call in two ways. `history_induction` grows a run
at its end and carries an invariant that relates the past to the session. `exists_calls_of_history`
opens a run in the middle, so that what comes after a moment is again the history of a run.
-/

namespace TileMatch

/-- A call together with the session in which it is made. -/
structure Moment where
  before : Session
  call : Call

namespace Moment

/-- What the call leads to. -/
def outcome (moment : Moment) : Session.Outcome := moment.before.step moment.call

/-- The session after the call. -/
def after (moment : Moment) : Session := moment.outcome.session

/-- What the call answers. -/
def answer (moment : Moment) : Answer := moment.outcome.answer

/-- The requests that the call sends, in order. -/
def sent (moment : Moment) : List OutboundRequest :=
  moment.outcome.effects.filterMap Effect.request?

/-- An open session takes in an event: the call handles it with success, or it leaves the room,
which is like being told that the room is left. -/
def Receives (moment : Moment) (event : ServerEvent) : Prop :=
  moment.before.closed = false ∧
    ((moment.answer = .handled (.ok ()) ∧ ∃ now, moment.call = .handle event now) ∨
      (event = .roomLeft ∧ moment.call = .leave))

theorem mem_sent_iff {moment : Moment} {request : OutboundRequest} :
    request ∈ moment.sent ↔ .send request ∈ moment.outcome.effects := by
  unfold sent
  rw [List.mem_filterMap]
  constructor
  · rintro ⟨effect, effect_mem, found⟩
    cases effect with
    | tell => simp [Effect.request?] at found
    | send other =>
        cases found
        exact effect_mem
  · intro effect_mem
    exact ⟨_, effect_mem, rfl⟩

theorem isOpen_of_mem_sent {moment : Moment} {request : OutboundRequest}
    (request_mem : request ∈ moment.sent) : moment.before.closed = false := by
  cases isClosed : moment.before.closed with
  | false => rfl
  | true =>
      have silent := (Session.step_of_closed isClosed moment.call).2
      simp [sent, outcome, silent] at request_mem

end Moment

/-- The moment is the last one of the past with a property, and these are the moments since. -/
def LastWith (property : Moment → Prop) (past : List Moment) (moment : Moment)
    (since : List Moment) : Prop :=
  (∃ earlier, past = earlier ++ moment :: since) ∧ property moment ∧
    ∀ other ∈ since, ¬property other

namespace LastWith

variable {property : Moment → Prop} {past since : List Moment} {moment next : Moment}

theorem of_property (past : List Moment) (holds : property next) :
    LastWith property (past ++ [next]) next [] :=
  ⟨⟨past, rfl⟩, holds, fun _ impossible => absurd impossible List.not_mem_nil⟩

/-- Moments without the property leave the last one with it as it was. -/
theorem append (last : LastWith property past moment since) {more : List Moment}
    (fail : ∀ other ∈ more, ¬property other) :
    LastWith property (past ++ more) moment (since ++ more) := by
  rcases last with ⟨⟨earlier, rfl⟩, holds, others⟩
  refine ⟨⟨earlier, by simp⟩, holds, ?_⟩
  intro other other_mem
  rcases List.mem_append.mp other_mem with old | new
  · exact others other old
  · exact fail other new

theorem snoc (last : LastWith property past moment since) (fails : ¬property next) :
    LastWith property (past ++ [next]) moment (since ++ [next]) := by
  apply last.append
  intro other other_mem
  rw [List.mem_singleton.mp other_mem]
  exact fails

theorem unique (first : LastWith property past moment since)
    {other : Moment} {sinceOther : List Moment}
    (second : LastWith property past other sinceOther) : moment = other ∧ since = sinceOther := by
  rcases first with ⟨⟨earlier, rfl⟩, holds, rest⟩
  rcases second with ⟨⟨earlierOther, split⟩, holdsOther, restOther⟩
  rcases List.append_eq_append_iff.mp split with ⟨gap, _, tail⟩ | ⟨gap, _, tail⟩
  · cases gap with
    | nil =>
        cases tail
        exact ⟨rfl, rfl⟩
    | cons inGap gap =>
        cases tail
        exact absurd holdsOther (rest other (by simp))
  · cases gap with
    | nil =>
        cases tail
        exact ⟨rfl, rfl⟩
    | cons inGap gap =>
        cases tail
        exact absurd holds (restOther moment (by simp))

end LastWith

namespace Session

/-- The session after a list of calls. -/
def after (session : Session) (calls : List Call) : Session := (session.run calls).1

/-- The moments of a list of calls. -/
def history (session : Session) : List Call → List Moment
  | [] => []
  | call :: rest => ⟨session, call⟩ :: (session.step call).session.history rest

variable (session : Session)

@[simp]
theorem after_nil : session.after [] = session := rfl

@[simp]
theorem after_cons (call : Call) (rest : List Call) :
    session.after (call :: rest) = (session.step call).session.after rest := rfl

theorem after_append (calls later : List Call) :
    session.after (calls ++ later) = (session.after calls).after later := by
  induction calls generalizing session with
  | nil => rfl
  | cons call rest hypothesis => exact hypothesis (session.step call).session

theorem history_append (calls later : List Call) :
    session.history (calls ++ later) =
      session.history calls ++ (session.after calls).history later := by
  induction calls generalizing session with
  | nil => rfl
  | cons call rest hypothesis => exact congrArg _ (hypothesis (session.step call).session)

/-- What relates a past to the session that it led to, and goes on to do so with every call, does so
after every further run. -/
theorem history_induction_from (related : List Moment → Session → Prop) {past : List Moment}
    {session : Session} (start : related past session)
    (next : ∀ past before call, related past before →
      related (past ++ [⟨before, call⟩]) (before.step call).session)
    (calls : List Call) : related (past ++ session.history calls) (session.after calls) := by
  induction calls generalizing past session with
  | nil => simpa [history] using start
  | cons call rest hypothesis =>
      have later := hypothesis (next past session call start)
      rwa [List.append_assoc] at later

/-- What relates the past to the session in the beginning, and goes on to do so with every call,
does so after every run. -/
theorem history_induction (related : List Moment → Session → Prop) {session : Session}
    (start : related [] session)
    (next : ∀ past before call, related past before →
      related (past ++ [⟨before, call⟩]) (before.step call).session)
    (calls : List Call) : related (session.history calls) (session.after calls) :=
  history_induction_from related start next calls

/-- What holds in the beginning and is preserved by every call holds after every run. -/
theorem after_induction (invariant : Session → Prop) {session : Session}
    (start : invariant session)
    (next : ∀ before call, invariant before → invariant (before.step call).session)
    (calls : List Call) : invariant (session.after calls) :=
  history_induction (fun _ => invariant) start (fun _ => next) calls

@[simp]
theorem after_localSlot (calls : List Call) :
    (session.after calls).localSlot = session.localSlot :=
  after_induction (·.localSlot = session.localSlot) rfl
    (fun before call same => (before.step_localSlot call).trans same) calls

theorem after_legality (calls : List Call) : (session.after calls).legality = session.legality :=
  after_induction (·.legality = session.legality) rfl
    (fun before call same => (before.step_legality call).trans same) calls

/-- Keys last as long in every session of a run as they did in the first. -/
@[simp]
theorem after_lifetime (calls : List Call) :
    (session.after calls).ledger.lifetime = session.ledger.lifetime :=
  after_induction (·.ledger.lifetime = session.ledger.lifetime) rfl
    (fun before call same => (before.step_lifetime call).trans same) calls

theorem after_of_closed {session : Session} (isClosed : session.closed = true) (calls : List Call) :
    session.after calls = session := by
  induction calls with
  | nil => rfl
  | cons call rest hypothesis => rwa [after_cons, (step_of_closed isClosed call).1]

theorem isOpen_of_after {session : Session} {calls : List Call}
    (stillOpen : (session.after calls).closed = false) : session.closed = false := by
  cases isClosed : session.closed with
  | false => rfl
  | true => rwa [after_of_closed isClosed, isClosed] at stillOpen

/-- A moment of a run is a call after some of the calls, and the moments after it are the history
of the calls that are left. -/
theorem exists_calls_of_history {session : Session} {calls : List Call}
    {earlier later : List Moment} {moment : Moment}
    (split : session.history calls = earlier ++ moment :: later) :
    ∃ first rest, calls = first ++ moment.call :: rest ∧ earlier = session.history first ∧
      moment.before = session.after first ∧ later = moment.after.history rest := by
  induction earlier generalizing session calls with
  | nil =>
      cases calls with
      | nil => exact absurd split.symm (List.cons_ne_nil _ _)
      | cons call rest =>
          simp only [history, List.nil_append, List.cons.injEq] at split
          rcases split with ⟨rfl, rfl⟩
          exact ⟨[], rest, rfl, rfl, rfl, rfl⟩
  | cons first earlier hypothesis =>
      cases calls with
      | nil => exact absurd split.symm (List.cons_ne_nil _ _)
      | cons call rest =>
          simp only [history, List.cons_append, List.cons.injEq] at split
          rcases split with ⟨rfl, split⟩
          rcases hypothesis split with ⟨before, others, rfl, rfl, same, rfl⟩
          exact ⟨call :: before, others, rfl, rfl, same, rfl⟩

end Session

end TileMatch
