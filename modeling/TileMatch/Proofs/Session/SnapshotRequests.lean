import TileMatch.Proofs.Session.KeysInFlight
import TileMatch.Proofs.Session.PlacementInTurn
import TileMatch.Proofs.Session.Refusal

/-!
# Requests for a snapshot

A snapshot is asked for when the player wants one, when one is refused and when a tick finds a
desync, and all three go by one key. While it is held past the present nothing is sent. It is freed
by a snapshot, by the start and the end of a game and by the end of the session, and otherwise a
tick drops it once it has run out. `Session.AskingStep` lists this for one call.

Two facts about runs follow. The key that is held is that of the last request sent
(`Session.AskingInStep`), so that after a desync for which nothing is sent a snapshot is awaited all
the same. And once a request is sent, its key is held until a lifetime has passed, or a call has
been made that late since (`Session.WaitsUntil`), so that no call sends another request before.
-/

namespace TileMatch

namespace Call

/-- The call brings a snapshot, or the start or the end of a game. -/
def SettlesRequest : Call → Prop
  | handle (.boardSnapshot _) _ | handle .gameStarted _ | handle (.gameEnded _) _ => True
  | _ => False

end Call

namespace Moment

/-- The call asks the server for a snapshot. -/
def SendsResync (moment : Moment) : Prop := .resync ∈ moment.sent

instance (moment : Moment) : Decidable moment.SendsResync := inferInstanceAs (Decidable (_ ∈ _))

/-- The call brings a snapshot that is refused. -/
def RefusesSnapshot (moment : Moment) : Prop :=
  ∃ rows now error, moment.call = .handle (.boardSnapshot rows) now ∧
    moment.answer = .handled (.error error)

/-- The call is a tick with which a desync is found. -/
def FindsDesync (moment : Moment) : Prop :=
  moment.before.closed = false ∧ ∃ now waited, moment.call = .tick now ∧
    .desync waited ∈ (moment.before.turn.tick now).2

end Moment

namespace Session

/-- The instant until which a request for a snapshot is held, if one is. -/
def askedUntil? (session : Session) : Option Instant :=
  session.ledger.expiry? (.resync session.localSlot)

/-- No request for a snapshot is held past the instant. -/
def MayAsk (session : Session) (now : Instant) : Prop :=
  ∀ expiry, session.askedUntil? = some expiry → expiry ≤ now

variable (session : Session) (now : Instant)

/-! ## Acting on a desync -/

theorem askForSnapshot_cases :
    (session.MayAsk now ∧ (session.askForSnapshot now).2 = [.send .resync] ∧
      (session.askForSnapshot now).1.askedUntil? = some (now + session.ledger.lifetime)) ∨
    (¬session.MayAsk now ∧ session.askForSnapshot now = (session, [])) := by
  have may : session.MayAsk now ↔ session.ledger.blocks (.resync session.localSlot) now = false :=
    Ledger.blocks_eq_false_iff.symm
  simp only [askForSnapshot, may]
  split
  case h_1 refused =>
    right
    refine ⟨?_, rfl⟩
    have started := session.ledger.begin?_isSome (.resync session.localSlot) now
    rw [refused] at started
    simpa using started
  case h_2 ledger began =>
    left
    refine ⟨(Ledger.begin?_eq_some_iff.mp began).1, rfl, ?_⟩
    exact (Ledger.expiry?_of_begin? began _).trans (if_pos rfl)

theorem obey_localExpired_asks :
    (session.obey now .localExpired).1.askedUntil? = session.askedUntil? ∧
      .send .resync ∉ (session.obey now .localExpired).2 := by
  have apart := RequestKey.pass_ne_resync session.localSlot session.localSlot
  cases blocked : session.ledger.blocks (.pass session.localSlot) now with
  | true =>
      rw [obey_localExpired_of_blocks session now blocked]
      exact ⟨rfl, session.send_notMem_loseTurn _⟩
  | false =>
      rw [obey_localExpired_of_not_blocks session now blocked]
      refine ⟨?_, by simp⟩
      exact (session.ledger.expiry?_hold _ _ _).trans (if_neg apart.symm)

/-- A snapshot is asked for when a desync is found, unless a request for one is held. -/
theorem send_resync_mem_obeyAll_iff (signals : List TurnSignal) :
    .send .resync ∈ (session.obeyAll now signals).2 ↔
      (∃ waited, .desync waited ∈ signals) ∧ session.MayAsk now := by
  induction signals generalizing session with
  | nil => simp [obeyAll]
  | cons signal rest hypothesis =>
      simp only [obeyAll, List.mem_append, hypothesis]
      cases signal with
      | display => simp [obey]
      | previousTimedOut => simp [obey]
      | localExpired =>
          rcases session.obey_localExpired_asks now with ⟨kept, silent⟩
          simp [MayAsk, kept, silent]
      | desync waited =>
          rcases session.askForSnapshot_cases now with ⟨may, asked, _⟩ | ⟨blocked, refused⟩
          · simp [obey, asked, may]
          · simp [obey, refused, blocked]

theorem obeyAll_asks_cases (signals : List TurnSignal) :
    (.send .resync ∈ (session.obeyAll now signals).2 ∧
      (session.obeyAll now signals).1.askedUntil? = some (now + session.ledger.lifetime)) ∨
    (.send .resync ∉ (session.obeyAll now signals).2 ∧
      (session.obeyAll now signals).1.askedUntil? = session.askedUntil?) := by
  induction signals generalizing session with
  | nil => exact .inr ⟨List.not_mem_nil, rfl⟩
  | cons signal rest hypothesis =>
      have later := hypothesis (session.obey now signal).1
      rw [obey_lifetime] at later
      simp only [obeyAll, List.mem_append]
      cases signal with
      | display => simpa [obey] using later
      | previousTimedOut => simpa [obey] using later
      | localExpired =>
          rcases session.obey_localExpired_asks now with ⟨kept, silent⟩
          simpa [silent, kept] using later
      | desync waited =>
          rcases session.askForSnapshot_cases now with ⟨_, asked, held⟩ | ⟨_, refused⟩
          · left
            refine ⟨by simp [obey, asked], ?_⟩
            rcases later with ⟨_, again⟩ | ⟨_, kept⟩
            · exact again
            · exact kept.trans held
          · simpa [obey, refused] using later

/-! ## Calls -/

/-- What a call of an open session does about the request for a snapshot. -/
inductive AskingStep (session : Session) (call : Call) (outcome : Outcome) : Prop
  /-- A snapshot is asked for. What was asked for before has been settled or has run out. -/
  | asked (time : Instant) (made : call.time? = some time)
      (sends : .send .resync ∈ outcome.effects)
      (due : call.SettlesRequest ∨ session.MayAsk time)
      (held : outcome.session.askedUntil? = some (time + session.ledger.lifetime))
  | freed (silent : .send .resync ∉ outcome.effects)
      (ends : call.SettlesRequest ∨ outcome.session.closed = true)
      (free : outcome.session.askedUntil? = none)
  | ranOut (now expiry : Instant) (ticks : call = .tick now)
      (silent : .send .resync ∉ outcome.effects)
      (held : session.askedUntil? = some expiry) (passed : expiry ≤ now)
      (free : outcome.session.askedUntil? = none)
  | kept (silent : .send .resync ∉ outcome.effects) (unsettled : ¬call.SettlesRequest)
      (same : outcome.session.askedUntil? = session.askedUntil?)

variable {session : Session}

theorem askingStep_of_settles (isOpen : session.closed = false) {call : Call}
    (settles : call.SettlesRequest) : session.AskingStep call (session.step call) := by
  have notClosed : ¬session.closed = true := by simp [isOpen]
  cases call with
  | handle event now =>
      cases event with
      | gameStarted | gameEnded =>
          simp only [step, handle, if_neg notClosed]
          exact .freed (by simp [Handled.applied, gameStarted, gameEnded]) (.inl trivial) rfl
      | boardSnapshot rows =>
          simp only [step, handle, if_neg notClosed]
          cases decoded : Snapshot.decode rows >>= session.board.applySnapshot with
          | ok result =>
              rw [session.boardSnapshot_of_accepted now decoded]
              apply AskingStep.freed (Effect.send_notMem_ofChanges _)
              · exact .inl trivial
              · exact (Ledger.expiry?_release _ _ _).trans (if_pos rfl)
          | error error =>
              rw [session.boardSnapshot_of_refused now decoded]
              apply AskingStep.asked now rfl (List.mem_singleton_self _)
              · exact .inl trivial
              · exact (Ledger.expiry?_hold _ _ _ _).trans (if_pos rfl)
      | _ => exact settles.elim
  | _ => exact settles.elim

/-- Releasing the placement that waits does not touch the request for a snapshot. -/
theorem expiry?_of_confirmed_released {prediction : Prediction} {ledger kept : Ledger} {slot : Slot}
    (keyed : prediction.IsKeyed)
    (same : kept.expiry? (.resync slot) = ledger.expiry? (.resync slot)) :
    (match prediction.confirmedKey? with
      | some confirmed => ledger.release confirmed
      | none => kept).expiry? (.resync slot) = ledger.expiry? (.resync slot) := by
  split
  case h_1 confirmed found =>
    rw [Ledger.expiry?_release, if_neg]
    rintro rfl
    cases keyed _ found
  case h_2 => exact same

theorem expiry?_resync_releaseAll (ledger : Ledger) (slot other : Slot) :
    (ledger.releaseAll .placement slot).expiry? (.resync other) =
      ledger.expiry? (.resync other) := by
  rw [Ledger.expiry?_releaseAll, if_neg]
  rintro ⟨kind, _⟩
  cases kind

theorem askedUntil?_turnChanged (keyed : session.prediction.IsKeyed) (change : TurnClock.Change)
    (now : Instant) :
    (session.turnChanged change now).1.askedUntil? = session.askedUntil? := by
  have apart := RequestKey.pass_ne_resync session.localSlot session.localSlot
  have passed : (session.ledger.release (.pass session.localSlot)).expiry?
      (.resync session.localSlot) = session.askedUntil? := by
    rw [Ledger.expiry?_release, if_neg apart.symm]
    rfl
  rw [turnChanged_fst]
  simp only [askedUntil?, localSlot, TurnClock.change_localSlot] at passed ⊢
  exact (expiry?_of_confirmed_released keyed rfl).trans passed

theorem askedUntil?_cellsPlaced (keyed : session.prediction.IsKeyed) (slot : Slot)
    (cells : List Position) (gained : Nat) :
    (session.cellsPlaced slot cells gained).1.askedUntil? = session.askedUntil? := by
  simp only [askedUntil?, cellsPlaced]
  split
  · exact (expiry?_resync_releaseAll _ _ _).trans (expiry?_of_confirmed_released keyed rfl)
  · exact expiry?_of_confirmed_released keyed rfl

theorem askedUntil?_swept_cases {swept : Session} {now : Instant}
    (ran : swept = { session with
      turn := (session.turn.tick now).1
      ledger := session.ledger.sweep now }) :
    (∃ expiry, session.askedUntil? = some expiry ∧ expiry ≤ now ∧ swept.askedUntil? = none) ∨
      swept.askedUntil? = session.askedUntil? := by
  have left : swept.askedUntil? = session.askedUntil?.filter fun expiry => now < expiry := by
    simp only [askedUntil?, localSlot_of_swept ran]
    rw [ran]
    exact Ledger.expiry?_sweep _ _ _
  cases asked : session.askedUntil? with
  | none =>
      right
      rw [left, asked]
      rfl
  | some expiry =>
      rw [asked, Option.filter_some] at left
      by_cases passed : expiry ≤ now
      · exact .inl ⟨expiry, rfl, passed, by simpa [Nat.not_lt.mpr passed] using left⟩
      · exact .inr (by simpa [Nat.lt_of_not_le passed] using left)

/-- A tick drops a request that has run out before it looks at the clock. -/
theorem askingStep_ticked {swept : Session} {now : Instant}
    (ran : swept = { session with
      turn := (session.turn.tick now).1
      ledger := session.ledger.sweep now }) :
    session.AskingStep (.tick now)
      ⟨(swept.obeyAll now (session.turn.tick now).2).1,
        (swept.obeyAll now (session.turn.tick now).2).2, .done⟩ := by
  rcases swept.obeyAll_asks_cases now (session.turn.tick now).2 with ⟨sends, held⟩ | ⟨silent, same⟩
  · have due : session.MayAsk now := by
      have may := ((swept.send_resync_mem_obeyAll_iff now _).mp sends).2
      rcases askedUntil?_swept_cases ran with ⟨expiry, asked, passed, _⟩ | unswept
      · simpa [MayAsk, asked] using passed
      · simpa only [MayAsk, unswept] using may
    have lifetime : swept.ledger.lifetime = session.ledger.lifetime := by
      rw [ran]
      rfl
    exact .asked now rfl sends (.inr due) (lifetime ▸ held)
  · rcases askedUntil?_swept_cases ran with ⟨expiry, asked, passed, free⟩ | unswept
    · exact .ranOut now expiry rfl silent asked passed (same.trans free)
    · exact .kept silent id (same.trans unswept)

theorem askingStep (isOpen : session.closed = false) (keyed : session.prediction.IsKeyed)
    (call : Call) : session.AskingStep call (session.step call) := by
  by_cases settles : call.SettlesRequest
  · exact askingStep_of_settles isOpen settles
  have stepped := stepped_of_isOpen isOpen call
  generalize session.step call = outcome at stepped ⊢
  cases stepped with
  | gameStarted | gameEnded | snapshotAccepted | snapshotRefused => exact absurd trivial settles
  | turnChanged _ _ _ _ _ now change =>
      exact .kept (send_notMem_turnChanged _ _ _ _) settles (askedUntil?_turnChanged keyed _ _)
  | cellsPlaced => exact .kept (by simp [cellsPlaced]) settles (askedUntil?_cellsPlaced keyed _ _ _)
  | placementRejected =>
      apply AskingStep.kept (by simp [placementRejected]) settles
      exact expiry?_of_confirmed_released keyed (expiry?_resync_releaseAll _ _ _)
  | disconnected | roomLeft | left =>
      exact .freed (by simp [disconnected, teardown]) (.inr rfl) rfl
  | confirmed now preview request ledger active turnOpen valid began =>
      apply AskingStep.kept (by simp) settles
      have apart := RequestKey.placement_ne_resync session.localSlot session.localSlot
        preview.anchor preview.shape.piece
      exact (Ledger.expiry?_of_begin? began _).trans (if_neg apart.symm)
  | asked now ledger began =>
      apply AskingStep.asked now rfl (List.mem_singleton_self _)
      · exact .inr (Ledger.blocks_eq_false_iff.mp (Ledger.begin?_eq_some_iff.mp began).1)
      · exact (Ledger.expiry?_of_begin? began _).trans (if_pos rfl)
  | ticked now swept ran => exact askingStep_ticked ran
  | dropped | roomChanged | selected | selectRefused | confirmStale | confirmRefused | cancelled
  | cancelRefused | notAsked => exact .kept (by simp) settles rfl

/-! ## What is held after a call -/

/-- A snapshot is asked for on request, when one is refused and when a desync is found. -/
theorem resync_sent_cases {call : Call} (sent : .send .resync ∈ (session.step call).effects) :
    (∃ now, call = .requestResync now) ∨ Moment.RefusesSnapshot ⟨session, call⟩ ∨
      Moment.FindsDesync ⟨session, call⟩ := by
  cases isClosed : session.closed with
  | true =>
      rw [(step_of_closed isClosed call).2] at sent
      exact absurd sent List.not_mem_nil
  | false =>
      have stepped := stepped_of_isOpen isClosed call
      generalize led : session.step call = outcome at stepped sent
      cases stepped with
      | asked now => exact .inl ⟨now, rfl⟩
      | snapshotRefused rows now error =>
          exact .inr (.inl ⟨rows, now, _, rfl, congrArg Outcome.answer led⟩)
      | ticked now =>
          rcases ((send_resync_mem_obeyAll_iff _ now _).mp sent).1 with ⟨waited, found⟩
          exact .inr (.inr ⟨isClosed, now, waited, rfl, found⟩)
      | turnChanged => exact absurd sent (send_notMem_turnChanged _ _ _ _)
      | _ =>
          simp [gameStarted, cellsPlaced, placementRejected, gameEnded, disconnected, teardown]
            at sent

/-- A request is held once a desync is found, be it the one that is sent for it or an older one. -/
theorem askedUntil?_of_findsDesync {moment : Moment} (finds : moment.FindsDesync) :
    ∃ expiry, moment.after.askedUntil? = some expiry := by
  rcases moment with ⟨session, call⟩
  rcases finds with ⟨isOpen, now, waited, rfl, found⟩
  have stepped := stepped_of_isOpen isOpen (.tick now)
  simp only [Moment.after, Moment.outcome]
  generalize session.step (.tick now) = outcome at stepped
  cases stepped with
  | ticked _ swept ran =>
      rcases swept.obeyAll_asks_cases now (session.turn.tick now).2 with ⟨_, held⟩ | ⟨silent, same⟩
      · exact ⟨_, held⟩
      · have blocked : ¬swept.MayAsk now := by
          intro may
          exact silent ((swept.send_resync_mem_obeyAll_iff now _).mpr ⟨⟨waited, found⟩, may⟩)
        simp only [MayAsk, Classical.not_forall] at blocked
        rcases blocked with ⟨expiry, asked, _⟩
        exact ⟨expiry, same.trans asked⟩

theorem askedUntil?_of_refusesSnapshot {moment : Moment} (refuses : moment.RefusesSnapshot) :
    ∃ expiry, moment.after.askedUntil? = some expiry := by
  rcases moment with ⟨session, call⟩
  rcases refuses with ⟨rows, now, error, rfl, refused⟩
  cases isClosed : session.closed with
  | true => simp [Moment.answer, Moment.outcome, step, handle, isClosed, Handled.applied] at refused
  | false =>
      simp only [Moment.answer, Moment.outcome, step, Answer.handled.injEq] at refused
      simp only [Moment.after, Moment.outcome, step, handle_snapshot_of_refused isClosed refused]
      exact ⟨_, (Ledger.expiry?_hold _ _ _ _).trans (if_pos rfl)⟩

/-! ## Runs -/

/-- The request that is held is the last one that was sent, and nothing has settled it since. -/
structure AskingInStep (seat : Slot) (lifetime : Duration) (past : List Moment)
    (session : Session) : Prop where
  sameSeat : session.localSlot = seat
  lasts : session.ledger.lifetime = lifetime
  keys : session.KeysInStep
  placed : session.PendingInLocalTurn
  lastSent : ∀ expiry, session.askedUntil? = some expiry → ∃ asking since time,
    LastWith Moment.SendsResync past asking since ∧ asking.call.time? = some time ∧
      (∀ other ∈ since, ¬other.call.SettlesRequest) ∧ expiry = time + lifetime

namespace AskingInStep

variable {seat : Slot} {lifetime : Duration} {past : List Moment}

theorem step (inStep : AskingInStep seat lifetime past session) (call : Call) :
    AskingInStep seat lifetime (past ++ [⟨session, call⟩]) (session.step call).session := by
  refine ⟨(session.step_localSlot call).trans inStep.sameSeat,
    (session.step_lifetime call).trans inStep.lasts, inStep.keys.step call,
    inStep.placed.step call, ?_⟩
  intro expiry awaited
  cases isClosed : session.closed with
  | true =>
      have free := inStep.keys.closed isClosed (.resync session.localSlot)
      rw [(step_of_closed isClosed call).1, askedUntil?] at awaited
      simp [Ledger.holds, awaited] at free
  | false =>
      cases askingStep isClosed inStep.placed.keyed call with
      | asked time made sends _ held =>
          cases awaited.symm.trans held
          have sends : Moment.SendsResync ⟨session, call⟩ := Moment.mem_sent_iff.mpr sends
          exact ⟨_, [], time, .of_property past sends, made, by simp, by rw [inStep.lasts]⟩
      | freed _ _ free | ranOut _ _ _ _ _ _ free => cases awaited.symm.trans free
      | kept silent unsettled same =>
          have silent : ¬Moment.SendsResync ⟨session, call⟩ := mt Moment.mem_sent_iff.mp silent
          rcases inStep.lastSent expiry (same.symm.trans awaited) with
            ⟨asking, since, time, last, made, others, found⟩
          refine ⟨asking, since ++ [⟨session, call⟩], time, last.snoc silent, made, ?_, found⟩
          intro other other_mem
          rcases List.mem_append.mp other_mem with old | new
          · exact others other old
          · rw [List.mem_singleton.mp new]
            exact unsettled

theorem of_history {roomId : String} {number : Int} {timing : Timing} {legality : LegalityRule}
    (joined : join roomId number timing legality = .ok session) {calls : List Call}
    {later : List Moment} {moment : Moment}
    (split : session.history calls = past ++ moment :: later) :
    AskingInStep session.localSlot timing.lifetime past moment.before := by
  rcases exists_calls_of_history split with ⟨first, rest, rfl, rfl, before, rfl⟩
  rw [before]
  refine history_induction (AskingInStep session.localSlot timing.lifetime) ?_
    (fun _ _ call inStep => inStep.step call) first
  have keys := KeysInStep.after_join joined []
  have placed := pendingInLocalTurn_after joined []
  rcases of_join joined with ⟨slot, _, rfl⟩
  exact ⟨rfl, rfl, keys, placed, nofun⟩

/-- A call that asks for a snapshot has a time, and from then on the request is held for a
lifetime. -/
theorem asked_of_sendsResync {moment : Moment}
    (inStep : AskingInStep seat lifetime past moment.before) (sends : moment.SendsResync) :
    ∃ time, moment.call.time? = some time ∧
      (moment.call.SettlesRequest ∨ moment.before.MayAsk time) ∧
      moment.after.askedUntil? = some (time + lifetime) := by
  have sent := Moment.mem_sent_iff.mp sends
  cases askingStep (Moment.isOpen_of_mem_sent sends) inStep.placed.keyed moment.call with
  | asked time made _ due held => exact ⟨time, made, due, inStep.lasts ▸ held⟩
  | freed silent | ranOut _ _ _ silent | kept silent => exact absurd sent silent

end AskingInStep

/-- Until an instant no snapshot is asked for: a request is held till then, or a call has been made
since at that time or later, or the session is closed. -/
inductive WaitsUntil (bound : Instant) (since : List Moment) (session : Session) : Prop
  | closed (isClosed : session.closed = true)
  | held (expiry : Instant) (asked : session.askedUntil? = some expiry) (bounded : bound ≤ expiry)
  | reached (other : Moment) (other_mem : other ∈ since) (time : Instant)
      (made : other.call.time? = some time) (passed : bound ≤ time)

namespace WaitsUntil

variable {bound : Instant} {since : List Moment}

theorem step (placed : session.PendingInLocalTurn) (waits : WaitsUntil bound since session)
    {call : Call} (unsettled : ¬call.SettlesRequest) :
    WaitsUntil bound (since ++ [⟨session, call⟩]) (session.step call).session := by
  have called (time : Instant) (made : call.time? = some time) (passed : bound ≤ time) :
      WaitsUntil bound (since ++ [⟨session, call⟩]) (session.step call).session :=
    .reached ⟨session, call⟩ (by simp) time made passed
  cases isClosed : session.closed with
  | true =>
      apply WaitsUntil.closed
      rwa [(step_of_closed isClosed call).1]
  | false =>
      cases waits with
      | closed nowClosed => exact absurd (isClosed.symm.trans nowClosed) (by simp)
      | reached other other_mem time made passed =>
          exact .reached other (List.mem_append_left _ other_mem) time made passed
      | held expiry asked bounded =>
          cases askingStep isClosed placed.keyed call with
          | asked time made _ due =>
              have may := due.resolve_left unsettled
              exact called time made (Nat.le_trans bounded (may expiry asked))
          | freed _ ends => exact .closed (ends.resolve_left unsettled)
          | ranOut now other ticks _ held passed =>
              cases asked.symm.trans held
              exact called now (ticks ▸ rfl) (Nat.le_trans bounded passed)
          | kept _ _ same => exact .held expiry (same.trans asked) bounded

/-- Whatever is called and settles nothing, the wait goes on. -/
theorem after (placed : session.PendingInLocalTurn) (waits : WaitsUntil bound [] session)
    {calls : List Call}
    (unsettled : ∀ other ∈ session.history calls, ¬other.call.SettlesRequest) :
    WaitsUntil bound (session.history calls) (session.after calls) := by
  refine (history_induction (fun past session => session.PendingInLocalTurn ∧
    ((∀ other ∈ past, ¬other.call.SettlesRequest) → WaitsUntil bound past session))
    ⟨placed, fun _ => waits⟩ ?_ calls).2 unsettled
  rintro past before call ⟨placed, waits⟩
  refine ⟨placed.step call, ?_⟩
  intro unsettled
  apply WaitsUntil.step placed
  · exact waits fun other other_mem => unsettled other (List.mem_append_left _ other_mem)
  · exact unsettled ⟨before, call⟩ (by simp)

/-- A request that is held after a call makes every later call wait. -/
theorem of_held {first second : Moment} {calls : List Call} {earlier between later : List Moment}
    (split : session.history calls = earlier ++ first :: (between ++ second :: later))
    (placed : first.before.PendingInLocalTurn) (held : first.after.askedUntil? = some bound)
    (unsettled : ∀ other ∈ between, ¬other.call.SettlesRequest) :
    WaitsUntil bound between second.before := by
  rcases exists_calls_of_history split with ⟨_, rest, _, _, _, splitRest⟩
  rcases exists_calls_of_history splitRest.symm with ⟨amid, _, _, rfl, atSecond, _⟩
  rw [atSecond]
  exact WaitsUntil.after (placed.step first.call) (.held bound held (Nat.le_refl _)) unsettled

/-- A call that asks for a snapshot is not made before the wait is over, where none of the calls
since is made after it. -/
theorem le_of_sendsResync {moment : Moment} (waits : WaitsUntil bound since moment.before)
    (sends : moment.SendsResync) {time : Instant} (may : moment.before.MayAsk time)
    (ordered : ∀ other ∈ since, ∀ otherTime, other.call.time? = some otherTime →
      otherTime ≤ time) : bound ≤ time := by
  cases waits with
  | closed isClosed =>
      have isOpen := Moment.isOpen_of_mem_sent sends
      exact absurd (isClosed.symm.trans isOpen) (by simp)
  | held expiry asked bounded => exact Nat.le_trans bounded (may expiry asked)
  | reached other other_mem otherTime made passed =>
      exact Nat.le_trans passed (ordered other other_mem otherTime made)

end WaitsUntil

/-- Where the times of the calls never decrease, a call is not made before an earlier one. -/
theorem time_le_of_history {calls : List Call}
    (ordered : (calls.filterMap Call.time?).Pairwise (· ≤ ·)) {earlier later : List Moment}
    {other moment : Moment} (split : session.history calls = earlier ++ moment :: later)
    (other_mem : other ∈ earlier) {otherTime time : Instant}
    (otherMade : other.call.time? = some otherTime) (made : moment.call.time? = some time) :
    otherTime ≤ time := by
  rcases List.append_of_mem other_mem with ⟨past, between, rfl⟩
  rw [List.append_assoc, List.cons_append] at split
  rcases exists_calls_of_history split with ⟨first, rest, rfl, _, _, splitRest⟩
  rcases exists_calls_of_history splitRest.symm with ⟨amid, further, rfl, _⟩
  rw [List.pairwise_filterMap, List.pairwise_append, List.pairwise_cons] at ordered
  exact ordered.2.1.1 moment.call (by simp) otherTime otherMade time made

/-- A call that leaves a request for a snapshot held computes nothing wide. -/
theorem time_of_awaited {moment : Moment} (finds : moment.FindsDesync ∨ moment.RefusesSnapshot) :
    ∃ now, moment.call.time? = some now ∧ moment.before.outgrows moment.call = false := by
  rcases finds with ⟨_, now, _, ticks, _⟩ | ⟨_, now, _, handles, _⟩
  · exact ⟨now, by simp [ticks, Call.time?], by simp [ticks, outgrows]⟩
  · exact ⟨now, by simp [handles, Call.time?], by simp [handles, outgrows]⟩

/-- In a run of a session that joined a room, whose calls are made at times that never decrease, a
request for a snapshot follows another after the lifetime of a key at the earliest, unless a
snapshot arrives or a game starts or ends in between. After a tick with which a desync is found, and
after a snapshot that is refused, a request is held; it has been sent, and nothing has settled it
since. But such a call panics instead, with nothing asked for, if it would send something while the
clock ends within a lifetime of keys. -/
theorem snapshot_requests_throttled {roomId : String} {number : Int} {timing : Timing}
    {legality : LegalityRule} (joined : join roomId number timing legality = .ok session)
    (calls : List Call) :
    ((calls.filterMap Call.time?).Pairwise (· ≤ ·) → ∀ earlier first between second later,
      session.history calls = earlier ++ first :: (between ++ second :: later) →
      first.SendsResync → second.SendsResync →
      (∀ other ∈ between ++ [second], ¬other.call.SettlesRequest) →
        ∃ firstTime secondTime, first.call.time? = some firstTime ∧
          second.call.time? = some secondTime ∧ firstTime + timing.lifetime ≤ secondTime) ∧
    ∀ past moment later, session.history calls = past ++ moment :: later →
      moment.FindsDesync ∨ moment.RefusesSnapshot →
        moment.after.ledger.holds (.resync session.localSlot) = true ∧
        (∃ asking since time, LastWith Moment.SendsResync (past ++ [moment]) asking since ∧
          asking.call.time? = some time ∧ (∀ other ∈ since, ¬other.call.SettlesRequest) ∧
          moment.after.ledger.expiry? (.resync session.localSlot) =
            some (time + timing.lifetime)) ∧
        ∀ arithmetic, moment.Panics arithmetic ↔ (∃ request, request ∈ moment.sent) ∧
          ∃ now, moment.call.time? = some now ∧ Instant.limit ≤ now + timing.lifetime := by
  constructor
  · intro ordered earlier first between second later split firstSends secondSends unsettled
    have firstInStep := AskingInStep.of_history joined split
    rcases firstInStep.asked_of_sendsResync firstSends with ⟨firstTime, firstMade, _, held⟩
    have waits := WaitsUntil.of_held split firstInStep.placed held
      fun other other_mem => unsettled other (List.mem_append_left _ other_mem)
    rw [← List.cons_append, ← List.append_assoc] at split
    have secondInStep := AskingInStep.of_history joined split
    rcases secondInStep.asked_of_sendsResync secondSends with ⟨secondTime, secondMade, due, _⟩
    have may := due.resolve_left (unsettled second (by simp))
    refine ⟨firstTime, secondTime, firstMade, secondMade, ?_⟩
    apply waits.le_of_sendsResync secondSends may
    intro other other_mem otherTime made
    exact time_le_of_history ordered split (by simp [other_mem]) made secondMade
  · intro past moment later split finds
    have inStep : AskingInStep session.localSlot timing.lifetime (past ++ [moment]) moment.after :=
      (AskingInStep.of_history joined split).step moment.call
    have awaited : ∃ expiry, moment.after.askedUntil? = some expiry := by
      rcases finds with finds | refuses
      · exact askedUntil?_of_findsDesync finds
      · exact askedUntil?_of_refusesSnapshot refuses
    rcases awaited with ⟨expiry, awaited⟩
    rcases inStep.lastSent expiry awaited with ⟨asking, since, time, last, made, others, rfl⟩
    rw [askedUntil?, inStep.sameSeat] at awaited
    refine ⟨by simp [Ledger.holds, awaited], ⟨asking, since, time, last, made, others, awaited⟩, ?_⟩
    intro arithmetic
    rcases time_of_awaited finds with ⟨now, atTime, narrow⟩
    rw [Moment.panics_iff_of_narrow atTime narrow, lifetime_of_history joined split]
    simp [atTime]

/-- A run in which a desync is found, a request is refused while the one sent for it is held, and
another is sent once that one has run out. -/
def desyncUnanswered : List Call :=
  [.handle (.turnChanged 1 none (.ofBits 0x41f00000) false 1) 0, .tick (Duration.ofSeconds 30),
    .tick (Duration.ofSeconds 35), .requestResync (Duration.ofSeconds 40),
    .tick (Duration.ofSeconds 45), .requestResync (Duration.ofSeconds 45)]

theorem desyncUnanswered_asks_again : ∃ session,
    join "room" 1 .standard (.constant true) = .ok session ∧
    ∃ earlier first between second later,
      session.history desyncUnanswered = earlier ++ first :: (between ++ second :: later) ∧
      (∃ firstTime secondTime, first.call.time? = some firstTime ∧
        second.call.time? = some secondTime ∧
        firstTime + Timing.standard.lifetime ≤ secondTime) ∧
      first.FindsDesync ∧ first.after.ledger.holds (.resync session.localSlot) = true := by
  have joined : join "room" 1 .standard (.constant true) = .ok _ := rfl
  have split (session : Session) : session.history desyncUnanswered =
      [_, _] ++ ⟨_, _⟩ :: ([_, _] ++ ⟨_, _⟩ :: []) := rfl
  have law := snapshot_requests_throttled joined desyncUnanswered
  refine ⟨_, joined, _, _, _, _, _, split _,
    law.1 ?ordered _ _ _ _ _ (split _) ?firstSends ?secondSends ?unsettled, ?finds,
    (law.2 _ _ _ (split _) (.inl ?finds)).1⟩
  case ordered => decide +kernel
  case firstSends => decide +kernel
  case secondSends => decide +kernel
  case unsettled => simp [Call.SettlesRequest]
  case finds => exact ⟨by decide +kernel, _, .ofSeconds 5, rfl, by decide +kernel⟩

/-- With a lifetime of keys beyond the end of the clock nothing is asked for in place of a snapshot
that is no board: the session panics over it. -/
theorem snapshot_unasked_for : ∃ settings session,
    Settings.ofText? "(game: (dedup_ttl_seconds: 1e19))" = some settings ∧
    join "room" 1 settings.game.timing .occupancy = .ok session ∧
    let started := (session.step (.handle .gameStarted 0)).session
    Moment.RefusesSnapshot ⟨started, .handle (.boardSnapshot [[0]]) 1⟩ ∧
    ∀ arithmetic, session.call? arithmetic (.handle .gameStarted 0) ≠ none ∧
      Moment.Panics arithmetic ⟨started, .handle (.boardSnapshot [[0]]) 1⟩ := by
  rcases Settings.unending_accepted with ⟨settings, accepted, timing⟩
  refine ⟨settings, ?_⟩
  rw [timing]
  refine ⟨_, accepted, rfl, ⟨_, _, _, rfl, rfl⟩, fun arithmetic => ⟨?_, ?_⟩⟩
  · simp [call?_handle_eq_none_iff, RefusesBoard, outgrows]
  · exact call?_eq_none_of_outlasts (by decide +kernel) arithmetic

end Session

end TileMatch
