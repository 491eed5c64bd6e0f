import TileMatch.Proofs.Board.Decoding
import TileMatch.Proofs.Session.Agreement

/-!
# What is refused

An event is refused for what it says and nothing else: a number that names no seat, or a snapshot
that is no board. `ServerEvent.fault?` finds it without a session, and a session that is open
refuses exactly the events with a fault, naming the first one. A refused event leaves no trace,
except that a refused snapshot is asked for again.
-/

namespace TileMatch

/-- The numbers of the server that name seats. -/
def Slot.IsNumber (number : Int) : Prop := 1 ≤ number ∧ number ≤ 4

instance (number : Int) : Decidable (Slot.IsNumber number) := inferInstanceAs (Decidable (_ ∧ _))

/-- The failure for the first number in a list that names no seat. -/
def unseated? (numbers : List Int) : Option SyncError :=
  (numbers.find? fun number => ¬Slot.IsNumber number).map SyncError.invalidSlot

namespace ServerEvent

/-- The numbers for which an event needs a seat, in their order. -/
def seatNumbers : ServerEvent → List Int
  | roomJoined _ players => players.map SeatEntry.slot
  | playerJoined number _ _ | playerLeft number | playerReady number _ | hostChanged number
  | turnChanged number _ _ _ _ | cellsPlaced number _ _ _ => [number]
  | scoresUpdated scores => scores.map Prod.fst
  | _ => []

/-- The first thing wrong with an event. Of a snapshot the dimensions come first, and then the codes
in row-major order. -/
def fault? : ServerEvent → Option SyncError
  | boardSnapshot rows =>
    if Snapshot.HasBoardSize rows then
      (rows.flatten.find? fun code => ¬CellOwner.IsCode code).map SyncError.invalidSlot
    else some (.malformedBoard rows.length (Snapshot.widest rows))
  | event => unseated? event.seatNumbers

/-- A number of the event names no seat, or it brings a snapshot that is no board. -/
def IsFaulty (event : ServerEvent) : Prop :=
  (∃ number ∈ event.seatNumbers, ¬Slot.IsNumber number) ∨
    ∃ rows, event = boardSnapshot rows ∧
      (¬Snapshot.HasBoardSize rows ∨ ∃ row ∈ rows, ∃ code ∈ row, ¬CellOwner.IsCode code)

theorem isSome_unseated?_iff (numbers : List Int) :
    (unseated? numbers).isSome = true ↔ ∃ number ∈ numbers, ¬Slot.IsNumber number := by
  simp [unseated?, List.find?_isSome]

theorem isSome_fault?_iff (event : ServerEvent) : event.fault?.isSome = true ↔ event.IsFaulty := by
  cases event with
  | boardSnapshot rows =>
      by_cases fits : Snapshot.HasBoardSize rows
      · simp [fault?, IsFaulty, seatNumbers, fits, List.find?_isSome]
      · simp [fault?, IsFaulty, seatNumbers, fits]
  | _ => simp [fault?, IsFaulty, isSome_unseated?_iff]

end ServerEvent

namespace Session

/-! ## Lists of seats -/

theorem failure?_seatOf (number : Int) : failure? (seatOf number) =
    if Slot.IsNumber number then none else some (.invalidSlot number) := by
  unfold seatOf Slot.ofServer
  by_cases inRange : 1 ≤ number ∧ number ≤ 4
  · have named : Slot.IsNumber number := inRange
    rw [dif_pos inRange, if_pos named]
    rfl
  · have unnamed : ¬Slot.IsNumber number := inRange
    rw [dif_neg inRange, if_neg unnamed]
    rfl

theorem unseated?_cons (number : Int) (rest : List Int) :
    unseated? (number :: rest) = (failure? (seatOf number)).or (unseated? rest) := by
  rw [failure?_seatOf]
  by_cases named : Slot.IsNumber number <;> simp [unseated?, named]

/-- A roster is refused for the first of its entries without a seat. -/
theorem failure?_seatEntries (room : Room) (host : Option Slot) (entries : List SeatEntry) :
    failure? (seatEntries room host entries) = unseated? (entries.map SeatEntry.slot) := by
  induction entries generalizing room host with
  | nil => rfl
  | cons entry rest hypothesis =>
      rw [List.map_cons, unseated?_cons, seatEntries]
      cases seatOf entry.slot with
      | ok slot => exact hypothesis _ _
      | error error => rfl

theorem failure?_roomOf (roomId : String) (players : List SeatEntry) :
    failure? (roomOf roomId players) = unseated? (players.map SeatEntry.slot) := by
  rw [← failure?_seatEntries (.empty roomId) none, roomOf]
  split <;> simp [*]

theorem failure?_scoresOf (scores : List (Int × Nat)) :
    failure? (scoresOf scores) = unseated? (scores.map Prod.fst) := by
  induction scores with
  | nil => rfl
  | cons entry rest hypothesis =>
      rw [List.map_cons, unseated?_cons, scoresOf]
      cases seatOf entry.1 with
      | ok slot => exact (failure?_map _ _).trans hypothesis
      | error error => rfl

/-! ## Events -/

theorem failure?_atSeat (view : SharedView) (number : Int) (change : Slot → SharedView) :
    failure? (view.atSeat number change).2 = unseated? [number] := by
  rw [unseated?_cons, SharedView.atSeat]
  cases seatOf number <;> rfl

/-- The shared view refuses an event for its fault. -/
theorem failure?_receive {view : SharedView} (isOpen : view.closed = false) (event : ServerEvent) :
    failure? (view.receive event).2 = event.fault? := by
  have notClosed : ¬view.closed = true := by simp [isOpen]
  unfold SharedView.receive
  rw [if_neg notClosed]
  cases event with
  | playerJoined | playerLeft | playerReady | hostChanged | turnChanged | cellsPlaced =>
      exact failure?_atSeat view _ _
  | roomJoined roomId players =>
      refine Eq.trans ?_ (failure?_roomOf roomId players)
      dsimp only
      cases roomOf roomId players <;> rfl
  | scoresUpdated scores =>
      refine Eq.trans ?_ (failure?_scoresOf scores)
      dsimp only
      cases scoresOf scores <;> rfl
  | boardSnapshot rows =>
      refine Eq.trans ?_ (Snapshot.ofBoardError_failure?_decode rows)
      rw [← view.board.failure?_decode_applySnapshot]
      dsimp only
      cases Snapshot.decode rows >>= view.board.applySnapshot <;> rfl
  | gameStarted | placementRejected | gameEnded | disconnected | roomLeft => rfl

variable {session : Session}

theorem failure?_handle (isOpen : session.closed = false) (event : ServerEvent) (now : Instant) :
    failure? (session.handle event now).answer = event.fault? := by
  have answered : (session.handle event now).answer = (session.shared.receive event).2 :=
    congrArg Prod.snd (session.shared_handle now event)
  rw [answered]
  exact failure?_receive isOpen event

theorem atSeat_of_refused {number : Int} {apply : Slot → Session × List Effect} {error : SyncError}
    (refused : (session.atSeat number apply).answer = .error error) :
    session.atSeat number apply = .dropped session error := by
  unfold atSeat at refused ⊢
  split at refused
  case h_1 => cases refused
  case h_2 =>
    cases refused
    rfl

/-- A refused event is dropped, if it is not a snapshot. -/
theorem handle_of_refused (isOpen : session.closed = false) {event : ServerEvent} {now : Instant}
    {error : SyncError} (refused : (session.handle event now).answer = .error error)
    (other : ∀ rows, event ≠ .boardSnapshot rows) :
    session.handle event now = .dropped session error := by
  have notClosed : ¬session.closed = true := by simp [isOpen]
  unfold handle at refused ⊢
  rw [if_neg notClosed] at refused ⊢
  cases event with
  | playerJoined | playerLeft | playerReady | hostChanged | turnChanged | cellsPlaced =>
      exact atSeat_of_refused refused
  | roomJoined | scoresUpdated =>
      simp only [roomJoined, scoresUpdated] at refused ⊢
      split at refused
      case h_1 =>
        cases refused
        rfl
      case h_2 => cases refused
  | boardSnapshot rows => exact absurd rfl (other rows)
  | gameStarted | placementRejected | gameEnded | disconnected | roomLeft => cases refused

/-- A refused snapshot changes nothing but the key of the request for one, which is sent. -/
theorem handle_snapshot_of_refused (isOpen : session.closed = false) {rows : List (List Int)}
    {now : Instant} {error : SyncError}
    (refused : (session.handle (.boardSnapshot rows) now).answer = .error error) :
    session.handle (.boardSnapshot rows) now =
      ⟨{ session with
          ledger := (session.ledger.release (.resync session.localSlot)).hold
            (.resync session.localSlot) (now + session.ledger.lifetime) },
        [.send .resync], .error error⟩ := by
  have notClosed : ¬session.closed = true := by simp [isOpen]
  unfold handle at refused ⊢
  rw [if_neg notClosed] at refused ⊢
  dsimp only at refused ⊢
  cases decoded : Snapshot.decode rows >>= session.board.applySnapshot with
  | ok result =>
      simp only [boardSnapshot, decoded] at refused
      cases refused
  | error fault =>
      rw [boardSnapshot_of_refused session now decoded] at refused ⊢
      cases refused
      rfl

theorem refusesBoard_iff_isFaulty (isOpen : session.closed = false) {event : ServerEvent} :
    session.RefusesBoard event ↔ (∃ rows, event = .boardSnapshot rows) ∧ event.IsFaulty := by
  constructor
  · rintro ⟨_, rows, error, rfl, refused⟩
    refine ⟨⟨rows, rfl⟩, ?_⟩
    rw [← ServerEvent.isSome_fault?_iff, ← failure?_handle isOpen _ 0]
    simp [handle, isOpen, session.boardSnapshot_of_refused 0 refused, failure?]
  · rintro ⟨⟨rows, rfl⟩, faulty⟩
    cases decoded : Snapshot.decode rows >>= session.board.applySnapshot with
    | error error => exact ⟨isOpen, rows, error, rfl, decoded⟩
    | ok result =>
        rw [← ServerEvent.isSome_fault?_iff, ← failure?_handle isOpen _ 0] at faulty
        simp [handle, isOpen, session.boardSnapshot_of_accepted 0 decoded, Handled.applied,
          failure?] at faulty

/-- How a session deals with a faulty event, when keys last for a lifetime. -/
structure RefusesFaults (session : Session) (lifetime : Duration) (event : ServerEvent)
    (now : Instant) : Prop where
  refused_iff : (∃ error, (session.handle event now).answer = .error error) ↔ event.IsFaulty
  names_first (error : SyncError) (refused : (session.handle event now).answer = .error error) :
    event.fault? = some error
  untouched (error : SyncError) (refused : (session.handle event now).answer = .error error)
    (other : ∀ rows, event ≠ .boardSnapshot rows) :
    (session.handle event now).session = session ∧ (session.handle event now).effects = []
  asks_again (error : SyncError) (refused : (session.handle event now).answer = .error error)
    (rows : List (List Int)) (snapshot : event = .boardSnapshot rows) :
    (session.handle event now).effects = [.send .resync] ∧
    (session.handle event now).session =
      { session with ledger := (session.handle event now).session.ledger } ∧
    (session.handle event now).session.ledger.lifetime = session.ledger.lifetime ∧
    ∀ key, (session.handle event now).session.ledger.expiry? key =
      if key = .resync session.localSlot then some (now + lifetime)
      else session.ledger.expiry? key
  panics_iff (arithmetic : Arithmetic) :
    session.call? arithmetic (.handle event now) = none ↔
      ((∃ rows, event = .boardSnapshot rows) ∧ event.IsFaulty ∧ Instant.limit ≤ now + lifetime) ∨
      (arithmetic = .checked ∧ session.outgrows (.handle event now) = true)

/-- As long as a session that joined a room is open, it refuses an event exactly if it is faulty,
and names the first fault. Nothing comes of the event then, except that a refused snapshot is asked
for again, whether or not one had been asked for already. But it panics over a faulty snapshot if
the clock ends within a lifetime of keys. -/
theorem faults_refused {roomId : String} {number : Int} {timing : Timing} {legality : LegalityRule}
    (joined : join roomId number timing legality = .ok session) (calls : List Call)
    (isOpen : (session.after calls).closed = false) (event : ServerEvent) (now : Instant) :
    (session.after calls).RefusesFaults timing.lifetime event now := by
  have lifetime := lifetime_after_join joined calls
  generalize session.after calls = later at isOpen lifetime ⊢
  have failure := failure?_handle isOpen event now
  refine ⟨?_, ?_, ?_, ?_, ?_⟩
  · rw [← failure?_isSome_iff, failure]
    exact event.isSome_fault?_iff
  · intro error refused
    rw [← failure]
    exact failure?_eq_some_iff.mpr refused
  · intro error refused other
    rw [handle_of_refused isOpen refused other]
    exact ⟨rfl, rfl⟩
  · rintro error refused rows rfl
    rw [handle_snapshot_of_refused isOpen refused]
    refine ⟨rfl, rfl, rfl, fun key => ?_⟩
    rw [Ledger.expiry?_hold, Ledger.expiry?_release, lifetime]
    split <;> rfl
  · intro arithmetic
    rw [call?_handle_eq_none_iff, refusesBoard_iff_isFaulty isOpen, lifetime, and_assoc]

theorem faults_refused_while_asking : ∃ session,
    join "room" 1 .standard (.constant true) = .ok session ∧
    (session.after [.requestResync 0]).ledger.expiry? (.resync ⟨0⟩) =
      some (Duration.ofSeconds 10) ∧
    ((session.after [.requestResync 0]).handle (.boardSnapshot []) 5).effects = [.send .resync] ∧
    ((session.after [.requestResync 0]).handle
      (.scoresUpdated [(1, 7), (9, 7), (0, 7)]) 5).session = session.after [.requestResync 0] := by
  have joined : join "room" 1 .standard (.constant true) = .ok _ := rfl
  refine ⟨_, joined, by decide, ?_, ?_⟩
  · exact ((faults_refused joined [.requestResync 0] rfl (.boardSnapshot []) 5).asks_again
      (.malformedBoard 0 0) rfl [] rfl).1
  · exact ((faults_refused joined [.requestResync 0] rfl
      (.scoresUpdated [(1, 7), (9, 7), (0, 7)]) 5).untouched (.invalidSlot 9) rfl (by simp)).1

/-- With a lifetime of keys beyond the end of the clock, a faulty snapshot is not refused: the
session panics. -/
theorem faulty_snapshot_unrefused : ∃ settings session,
    Settings.ofText? "(game: (dedup_ttl_seconds: 1e19))" = some settings ∧
    join "room" 1 settings.game.timing .occupancy = .ok session ∧
    (ServerEvent.boardSnapshot [[0, 7]]).IsFaulty ∧
    ∀ arithmetic, session.call? arithmetic
      (.handle (.boardSnapshot [[0, 7]]) (Duration.ofSeconds 1)) = none := by
  rcases Settings.unending_accepted with ⟨settings, accepted, timing⟩
  refine ⟨settings, ?_⟩
  rw [timing]
  refine ⟨_, accepted, rfl, (ServerEvent.isSome_fault?_iff _).mp (by decide), fun arithmetic => ?_⟩
  exact call?_eq_none_of_outlasts (by decide +kernel) arithmetic

end Session

end TileMatch
