import TileMatch.Proofs.Session.AutomaticPass
import TileMatch.Proofs.Session.Submission

/-!
# Keys in flight

A key in the ledger says something about the rest of the session. The key of a pass is held only
while the expired turn of the local player runs, the key of a placement only while the prediction
waits under that very key, and beside them there is the key of a request for a snapshot
(`Session.AccountsFor`).

The first is `PassKeyLatched`. For the second, an event with which the prediction stops waiting
releases the key it waited under, and a preview never coexists with the key of a placement, so that
a confirmation finds its key free.
-/

namespace TileMatch

theorem ServerEvent.not_isSettling_of_isAboutRoom (event : ServerEvent)
    (aboutRoom : event.IsAboutRoom) : ¬event.IsSettling := by
  cases event <;> simp_all [IsAboutRoom, IsSettling]

namespace Prediction

/-- The prediction waits for the placement of a seat under a key. -/
def Awaits (prediction : Prediction) (slot : Slot) (key : RequestKey) : Prop :=
  ∃ request, prediction = .confirmed request key ∧
    key = .placement slot request.anchor request.piece

variable {prediction : Prediction} {slot : Slot} {key : RequestKey}

theorem Awaits.confirmedKey? (awaits : prediction.Awaits slot key) :
    prediction.confirmedKey? = some key := by
  rcases awaits with ⟨request, rfl, _⟩
  rfl

theorem Awaits.isAwaiting (awaits : prediction.Awaits slot key) :
    prediction.isAwaiting = true := by
  simp [Prediction.isAwaiting, awaits.confirmedKey?]

theorem Awaits.afterTurnLost (awaits : prediction.Awaits slot key) :
    prediction.afterTurnLost.Awaits slot key := by
  rcases awaits with ⟨request, rfl, made⟩
  exact ⟨request, rfl, made⟩

@[simp]
theorem isAwaiting_afterTurnChange (prediction : Prediction) :
    prediction.afterTurnChange.isAwaiting = false := by
  cases prediction <;> rfl

end Prediction

namespace Session

/-- What a key in flight says about the rest of the session. -/
inductive AccountsFor (session : Session) : RequestKey → Prop
  | resync : session.AccountsFor (.resync session.localSlot)
  /-- The turn of the local player runs, and its expiry has been noted. -/
  | pass (countdown : Countdown) (active : session.turn.phase = .active (some countdown))
      (own : countdown.slot = session.localSlot) (noted : countdown.expiredAt ≠ none) :
      session.AccountsFor (.pass session.localSlot)
  /-- The prediction waits for a placement under this key. -/
  | placement (key : RequestKey) (awaits : session.prediction.Awaits session.localSlot key) :
      session.AccountsFor key

theorem AccountsFor.slot_eq {session : Session} {key : RequestKey}
    (accounted : session.AccountsFor key) : key.slot = session.localSlot := by
  cases accounted with
  | resync => rfl
  | pass => rfl
  | placement _ awaits =>
      rcases awaits with ⟨request, _, rfl⟩
      rfl

/-- The key of a placement is held only while the prediction waits under it. -/
def PlacementKeyAwaited (session : Session) : Prop :=
  ∀ key, session.ledger.holds key = true →
    key = .resync session.localSlot ∨ key = .pass session.localSlot ∨
      session.prediction.Awaits session.localSlot key

variable {session : Session}

/-! ## Releasing what the prediction waits under -/

/-- When the key that the prediction waits under is released, or another part of the ledger is kept
because there is none, what is still held is not that key. -/
theorem holds_of_confirmed_released {prediction : Prediction} {ledger kept : Ledger}
    {key : RequestKey}
    (subset : kept.holds key = true → ledger.holds key = true)
    (held : (match prediction.confirmedKey? with
      | some confirmed => ledger.release confirmed
      | none => kept).holds key = true) :
    ledger.holds key = true ∧ prediction.confirmedKey? ≠ some key := by
  split at held
  case h_1 confirmed found =>
    refine ⟨Ledger.holds_of_release held, ?_⟩
    rw [found, ne_eq, Option.some.injEq]
    exact fun same => Ledger.ne_of_holds_release held same.symm
  case h_2 found =>
    rw [found]
    exact ⟨subset held, nofun⟩

/-- Once the key that the prediction waited under is released, none of a placement is left. -/
theorem PlacementKeyAwaited.of_released (awaited : session.PlacementKeyAwaited) {key : RequestKey}
    (left : session.ledger.holds key = true ∧ session.prediction.confirmedKey? ≠ some key) :
    key = .resync session.localSlot ∨ key = .pass session.localSlot := by
  rcases awaited key left.1 with resync | pass | awaits
  · exact .inl resync
  · exact .inr pass
  · exact absurd awaits.confirmedKey? left.2

theorem released_of_turnChanged {change : TurnClock.Change} {now : Instant} {key : RequestKey}
    (held : (session.turnChanged change now).1.ledger.holds key = true) :
    session.ledger.holds key = true ∧ session.prediction.confirmedKey? ≠ some key := by
  rw [turnChanged_fst] at held
  have left := holds_of_confirmed_released id held
  exact ⟨Ledger.holds_of_release left.1, left.2⟩

theorem released_of_cellsPlaced {slot : Slot} {cells : List Position} {gained : Nat}
    {key : RequestKey} (held : (session.cellsPlaced slot cells gained).1.ledger.holds key = true) :
    session.ledger.holds key = true ∧ session.prediction.confirmedKey? ≠ some key := by
  simp only [cellsPlaced] at held
  apply holds_of_confirmed_released id
  split at held
  · exact Ledger.holds_of_releaseAll held
  · exact held

theorem released_of_placementRejected (reason : RejectionReason) {key : RequestKey}
    (held : (session.placementRejected reason).1.ledger.holds key = true) :
    session.ledger.holds key = true ∧ session.prediction.confirmedKey? ≠ some key :=
  holds_of_confirmed_released Ledger.holds_of_releaseAll held

/-! ## Calls -/

theorem placementKeyAwaited_step (awaited : session.PlacementKeyAwaited) (call : Call) :
    (session.step call).session.PlacementKeyAwaited := by
  unfold PlacementKeyAwaited
  rw [step_localSlot]
  intro key held
  cases isClosed : session.closed with
  | true =>
      rw [(step_of_closed isClosed call).1] at held ⊢
      exact awaited key held
  | false =>
      have stepped := stepped_of_isOpen isClosed call
      generalize session.step call = outcome at stepped held ⊢
      cases stepped with
      | gameStarted | gameEnded | disconnected | roomLeft | left => cases held
      | turnChanged =>
          exact (awaited.of_released (released_of_turnChanged held)).imp id .inl
      | cellsPlaced =>
          exact (awaited.of_released (released_of_cellsPlaced held)).imp id .inl
      | placementRejected code =>
          have released := released_of_placementRejected (.ofCode code) held
          exact (awaited.of_released released).imp id .inl
      | snapshotAccepted => exact awaited key (Ledger.holds_of_release held)
      | snapshotRefused rows now error ledger refused began =>
          by_cases resync : key = .resync session.localSlot
          · exact .inl resync
          · rw [Ledger.holds_begin?_of_ne began resync] at held
            exact awaited key (Ledger.holds_of_release held)
      | asked now ledger began =>
          by_cases resync : key = .resync session.localSlot
          · exact .inl resync
          · rw [Ledger.holds_begin?_of_ne began resync] at held
            exact awaited key held
      | confirmed now preview request ledger active turnOpen valid began made =>
          by_cases begun : key = .placement session.localSlot preview.anchor preview.shape.piece
          · subst begun
            exact .inr (.inr ⟨request, rfl, by rw [made]; rfl⟩)
          · rw [Ledger.holds_begin?_of_ne began begun] at held
            refine (awaited key held).imp id (Or.imp id fun awaits => ?_)
            exact absurd awaits.isAwaiting (by simp [active])
      | selected shape anchor now preview free =>
          refine (awaited key held).imp id (Or.imp id fun awaits => ?_)
          exact absurd awaits.isAwaiting (by simp [free])
      | confirmStale now preview active | cancelled preview active =>
          refine (awaited key held).imp id (Or.imp id fun awaits => ?_)
          exact absurd awaits.isAwaiting (by simp [active])
      | ticked now swept ran =>
          have same := localSlot_of_swept ran
          by_cases resync : key = .resync session.localSlot
          · exact .inl resync
          by_cases pass : key = .pass session.localSlot
          · exact .inr (.inl pass)
          -- Any other key was held before the tick, and the tick keeps a confirmed placement.
          have noResync : key ≠ .resync swept.localSlot := same ▸ resync
          have noPass : key ≠ .pass swept.localSlot := same ▸ pass
          unfold Ledger.holds at held
          rw [obeyAll_expiry? swept now noResync fun begun => absurd begun noPass, ran] at held
          rcases awaited key (Ledger.holds_of_sweep held) with impossible | impossible | awaits
          · exact absurd impossible resync
          · exact absurd impossible pass
          · right; right
            rw [obeyAll_prediction, ran]
            split
            · exact awaits.afterTurnLost
            · exact awaits
      | dropped | roomChanged | selectRefused | confirmRefused | cancelRefused | notAsked =>
          exact awaited key held

/-- What ties the ledger to the rest of the session. -/
structure KeysInStep (session : Session) : Prop where
  passed : session.PassKeyLatched
  placed : session.PlacementKeyAwaited
  /-- A closed session has given up every request. -/
  closed : session.closed = true → ∀ key, session.ledger.holds key = false

namespace KeysInStep

theorem step (inStep : session.KeysInStep) (call : Call) :
    (session.step call).session.KeysInStep where
  passed := passKeyLatched_step inStep.passed call
  placed := placementKeyAwaited_step inStep.placed call
  closed := by
    intro nowClosed key
    cases isClosed : session.closed with
    | true =>
        rw [(step_of_closed isClosed call).1]
        exact inStep.closed isClosed key
    | false =>
        have stepped := stepped_of_isOpen isClosed call
        generalize session.step call = outcome at stepped nowClosed ⊢
        cases stepped with
        | disconnected | roomLeft | left => rfl
        | turnChanged =>
            rw [turnChanged_fst] at nowClosed
            exact absurd nowClosed (by simp [isClosed])
        | ticked now swept ran =>
            rw [obeyAll_frame, ran] at nowClosed
            exact absurd nowClosed (by simp [isClosed])
        | _ =>
            exact absurd nowClosed
              (by simp [gameStarted, cellsPlaced, placementRejected, gameEnded, isClosed])

theorem after_join {roomId : String} {number : Int} {timing : Timing} {legality : LegalityRule}
    (joined : join roomId number timing legality = .ok session) (calls : List Call) :
    (session.after calls).KeysInStep := by
  refine after_induction KeysInStep ?_ (fun _ call inStep => inStep.step call) calls
  rcases of_join joined with ⟨slot, _, rfl⟩
  exact ⟨nofun, nofun, nofun⟩

theorem accountsFor (inStep : session.KeysInStep) {key : RequestKey}
    (held : session.ledger.holds key = true) : session.AccountsFor key := by
  rcases inStep.placed key held with rfl | rfl | awaits
  · exact .resync
  · rcases inStep.passed held with ⟨countdown, active, own, noted⟩
    exact .pass countdown active own noted
  · exact .placement key awaits

theorem size_le (inStep : session.KeysInStep) : session.ledger.size ≤ 3 := by
  have listed : session.ledger.size ≤ (.resync session.localSlot :: .pass session.localSlot ::
      session.prediction.confirmedKey?.toList).length := by
    apply Ledger.size_le_length
    intro key held
    rcases inStep.placed key held with rfl | rfl | awaits
    · simp
    · simp
    · simp [awaits.confirmedKey?]
  have one := Option.length_toList_le (o := session.prediction.confirmedKey?)
  simp only [List.length_cons] at listed
  omega

theorem placements_le (inStep : session.KeysInStep) :
    (session.ledger.filter (·.1.operation == .placement)).size ≤ 1 := by
  have listed : (session.ledger.filter (·.1.operation == .placement)).size ≤
      session.prediction.confirmedKey?.toList.length := by
    apply Ledger.size_le_length
    intro key held
    have kind := Ledger.operation_of_holds_filter held
    rcases inStep.placed key (Ledger.holds_of_filter held) with rfl | rfl | awaits
    · cases kind
    · cases kind
    · simp [awaits.confirmedKey?]
  exact Nat.le_trans listed Option.length_toList_le

/-- With a preview the key of its placement is free, so that confirming is not refused for it. -/
theorem confirm_ne_duplicateSubmission (inStep : session.KeysInStep) {preview : Preview}
    (active : session.prediction = .previewing preview) (now : Instant) :
    (session.confirm now).2.2 ≠ .error .duplicateSubmission := by
  have free : session.ledger.holds
      (.placement session.localSlot preview.anchor preview.shape.piece) = false := by
    rw [Bool.eq_false_iff]
    intro held
    rcases inStep.placed _ held with impossible | impossible | awaits
    · exact RequestKey.placement_ne_resync _ _ _ _ impossible
    · exact RequestKey.pass_ne_placement _ _ _ _ impossible.symm
    · exact absurd awaits.isAwaiting (by simp [active])
  have began := Ledger.begin?_of_not_holds free now
  unfold confirm
  split
  · simp
  · simp only [active, Prediction.confirm, began]
    split
    · simp
    · split <;> simp

/-- Where the prediction does not wait no key of a placement is held. -/
theorem not_holds_placement (inStep : session.KeysInStep)
    (free : session.prediction.isAwaiting = false) {key : RequestKey}
    (kind : key.operation = .placement) : session.ledger.holds key = false := by
  rw [Bool.eq_false_iff]
  intro held
  rcases inStep.placed key held with rfl | rfl | awaits
  · cases kind
  · cases kind
  · simp [awaits.isAwaiting] at free

end KeysInStep

/-- An event that settles a placement leaves none waiting. -/
theorem isAwaiting_of_settling (isOpen : session.closed = false) {event : ServerEvent}
    {now : Instant} (settling : event.IsSettling)
    (handled : (session.step (.handle event now)).answer = .handled (.ok ())) :
    (session.step (.handle event now)).session.prediction.isAwaiting = false := by
  have stepped := stepped_handle isOpen event now
  generalize session.step (.handle event now) = outcome at stepped handled ⊢
  cases stepped with
  | dropped => cases handled
  | roomChanged _ _ _ aboutRoom =>
      exact absurd settling (event.not_isSettling_of_isAboutRoom aboutRoom)
  | turnChanged =>
      rw [turnChanged_fst]
      dsimp only
      split <;> simp
  | snapshotAccepted | snapshotRefused | disconnected | roomLeft => exact settling.elim
  | gameStarted | cellsPlaced | placementRejected | gameEnded => rfl

/-- In every state that a session which joined a room can reach, each key in flight is the local
player's and is accounted for by the turn, by the prediction, or as a request for a snapshot. So
there are at most three, one of them of a placement at most; a preview is never refused as a
duplicate; and an event that settles a placement leaves no key of one. -/
theorem keys_in_flight_accounted_for {roomId : String} {number : Int} {timing : Timing}
    {legality : LegalityRule} (joined : join roomId number timing legality = .ok session)
    (calls : List Call) :
    (∀ key, (session.after calls).ledger.holds key = true →
      key.slot = session.localSlot ∧ (session.after calls).AccountsFor key) ∧
    (session.after calls).ledger.size ≤ 3 ∧
    ((session.after calls).ledger.filter (·.1.operation == .placement)).size ≤ 1 ∧
    (∀ preview now, (session.after calls).prediction = .previewing preview →
      ((session.after calls).confirm now).2.2 ≠ .error .duplicateSubmission) ∧
    ∀ event now, event.IsSettling → ((session.after calls).handle event now).answer = .ok () →
      ∀ key, key.operation = .placement →
        ((session.after calls).handle event now).session.ledger.holds key = false := by
  have inStep := KeysInStep.after_join joined calls
  refine ⟨?_, inStep.size_le, inStep.placements_le, ?_, ?_⟩
  · intro key held
    refine ⟨?_, inStep.accountsFor held⟩
    rw [← session.after_localSlot calls]
    exact (inStep.accountsFor held).slot_eq
  · intro preview now active
    exact inStep.confirm_ne_duplicateSubmission active now
  · intro event now settling handled key kind
    have later := inStep.step (.handle event now)
    cases isClosed : (session.after calls).closed with
    | true =>
        have same := (step_of_closed isClosed (.handle event now)).1
        simp only [step] at same
        rw [same]
        exact inStep.closed isClosed key
    | false =>
        have free := isAwaiting_of_settling isClosed settling (congrArg Answer.handled handled)
        exact later.not_holds_placement free kind

/-- A run after which a placement, a pass and a request for a snapshot are all in flight. -/
def threeRequests : List Call :=
  [.handle (.turnChanged 1 none (.ofBits 0x41f00000) false 1) 0,
    .select ⟨.single, .none, .none⟩ ⟨0, 0⟩ 1, .confirm 2, .requestResync 3,
    .tick (Duration.ofSeconds 30)]

theorem threeRequests_accounted_for : ∃ session,
    join "room" 1 ⟨.ofSeconds 5, .ofSeconds 100, .ofSeconds 30⟩ (.constant true) = .ok session ∧
    (session.after threeRequests).ledger.size = 3 ∧
    (∀ key, (session.after threeRequests).ledger.holds key = true →
      key.slot = session.localSlot ∧ (session.after threeRequests).AccountsFor key) ∧
    ∀ key, key.operation = .placement →
      ((session.after threeRequests).handle (.cellsPlaced 2 none [] none)
        (Duration.ofSeconds 31)).session.ledger.holds key = false := by
  have joined : join "room" 1 ⟨.ofSeconds 5, .ofSeconds 100, .ofSeconds 30⟩ (.constant true) =
      .ok _ := rfl
  rcases keys_in_flight_accounted_for joined threeRequests with ⟨accounted, _, _, _, settled⟩
  refine ⟨_, joined, by decide +kernel, accounted, ?_⟩
  exact settled (.cellsPlaced 2 none [] none) (Duration.ofSeconds 31) trivial rfl

end Session

end TileMatch
