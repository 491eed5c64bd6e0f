import TileMatch.Proofs.Room.Repeating
import TileMatch.Proofs.Room.Succession
import TileMatch.Proofs.Session.Refusal
import TileMatch.Proofs.Session.Running

/-!
# A roster that is taken over

A roster may list a seat more than once and flag any number of its entries as host. The entries are
seated one after the other, so that the last entry for a seat keeps it, while the first entry of all
becomes host and stays host, even if its seat is listed again. Only at the end is the last of the
flagged entries named host instead, if there is one.

The two parts are kept apart here. Who sits where does not depend on who is host, and is read off
the room without its flags (`Room.unflagged`). Who is host follows from how a room hands on its
host, and from the last flagged entry having a seat.
-/

namespace TileMatch

theorem Slot.toServer_inj {first second : Slot} :
    first.toServer = second.toServer ↔ first = second := by
  constructor
  · intro same
    have found := ofServer_toServer first
    rw [same, ofServer_toServer] at found
    exact (Except.ok.inj found).symm
  · exact congrArg toServer

/-- The player whom an entry of a roster seats. -/
def SeatEntry.player (entry : SeatEntry) (isHost : Bool) : Player :=
  ⟨entry.userId, entry.displayName, entry.ready, isHost, 0, 21⟩

/-- The last entry that lists a seat. -/
def entryOf? (players : List SeatEntry) (slot : Slot) : Option SeatEntry :=
  players.reverse.find? fun entry => entry.slot = slot.toServer

/-- The last entry that is flagged as host. -/
def lastFlagged? (players : List SeatEntry) : Option SeatEntry :=
  players.reverse.find? SeatEntry.isHost

/-- The entry that becomes host: the last flagged one, or else the first of all. -/
def hostOf? (players : List SeatEntry) : Option SeatEntry :=
  (lastFlagged? players).or players.head?

/-- The room is as a list of seated players says. -/
structure Room.IsRosterOf (room : Room) (roomId : String) (players : List SeatEntry) : Prop where
  roomId : room.roomId = roomId
  idle : room.started = false
  /-- The seats that are listed are taken, and no others. -/
  taken : ∀ slot, (room.player? slot).isSome = true ↔
    ∃ entry ∈ players, entry.slot = slot.toServer
  /-- In each of them sits the player of its last entry. -/
  seated : ∀ slot, room.player? slot = (entryOf? players slot).map fun entry =>
    entry.player (decide ((hostOf? players).map SeatEntry.slot = some slot.toServer))
  /-- If there are any, exactly one is host. -/
  hosted : players ≠ [] → ∃ host, (hostOf? players).map SeatEntry.slot = some host.toServer ∧
    room.host? = some host ∧ ∀ slot, room.HostedBy slot ↔ slot = host

/-! ## Entries of a roster -/

section Entries

variable {players : List SeatEntry} {entry : SeatEntry} {slot : Slot}

theorem entryOf?_cons (entry : SeatEntry) (rest : List SeatEntry) (slot : Slot) :
    entryOf? (entry :: rest) slot =
      (entryOf? rest slot).or (if entry.slot = slot.toServer then some entry else none) := by
  by_cases listed : entry.slot = slot.toServer <;> simp [entryOf?, List.find?_append, listed]

theorem lastFlagged?_cons (entry : SeatEntry) (rest : List SeatEntry) :
    lastFlagged? (entry :: rest) =
      (lastFlagged? rest).or (if entry.isHost then some entry else none) := by
  cases flagged : entry.isHost <;> simp [lastFlagged?, List.find?_append, flagged]

theorem isSome_entryOf?_iff : (entryOf? players slot).isSome = true ↔
    ∃ entry ∈ players, entry.slot = slot.toServer := by
  simp [entryOf?, List.find?_isSome]

theorem mem_of_lastFlagged? (found : lastFlagged? players = some entry) : entry ∈ players := by
  simpa using List.mem_of_find?_eq_some found

end Entries

/-! ## The players without the host -/

namespace Room

variable {room : Room} {slot other : Slot}

/-- The player in a seat, with the flag of the host taken away. -/
def unflagged (room : Room) (slot : Slot) : Option Player :=
  (room.player? slot).map fun player => { player with isHost := false }

theorem unflagged_seat_setReady (room : Room) (entry : SeatEntry) (slot other : Slot) :
    ((room.seat slot entry.userId entry.displayName).setReady slot entry.ready).unflagged other =
      if other = slot then some (entry.player false) else room.unflagged other := by
  unfold unflagged setReady seat
  simp only [player?_modify, player?_setSeat]
  by_cases same : other = slot
  · simp [same, Player.newcomer, SeatEntry.player, Piece.countPerPlayer]
  · simp [same]

theorem unflagged_setHost (room : Room) (named slot : Slot) :
    (room.setHost named).unflagged slot = room.unflagged slot := by
  unfold setHost
  split
  · simp [unflagged, Function.comp_def]
  · rfl

theorem isSome_of_hostedBy (hosted : room.HostedBy slot) :
    (room.player? slot).isSome = true := by
  unfold HostedBy hostFlag at hosted
  rcases Option.map_eq_some_iff.mp hosted with ⟨player, held, _⟩
  rw [held, Option.isSome_some]

@[simp]
theorem hostedBy_setReady (room : Room) (seat : Slot) (ready : Bool) (slot : Slot) :
    (room.setReady seat ready).HostedBy slot ↔ room.HostedBy slot := by
  simp [HostedBy]

@[simp]
theorem isSome_unflagged (room : Room) (slot : Slot) :
    (room.unflagged slot).isSome = (room.player? slot).isSome := by
  simp [unflagged]

/-- Who sits in a seat is known from the rest of the player and the host. -/
theorem player?_of_unflagged {entry : Option SeatEntry} {isHost : Bool}
    (rest : room.unflagged slot = entry.map (·.player false))
    (flag : room.HostedBy slot ↔ entry.isSome = true ∧ isHost = true) :
    room.player? slot = entry.map (·.player isHost) := by
  unfold unflagged at rest
  unfold HostedBy hostFlag at flag
  cases entry with
  | none => simpa using rest
  | some entry =>
      rcases Option.map_eq_some_iff.mp rest with ⟨player, held, same⟩
      have isHost_eq : player.isHost = isHost := by
        rw [Bool.eq_iff_iff]
        simpa [held] using flag
      rw [held, Option.map_some, ← isHost_eq]
      -- The two differ in the flag at most, and it is the same.
      rcases player with ⟨userId, displayName, ready, playerIsHost, score, remainingPieces⟩
      cases same
      rfl

end Room

namespace Session

theorem eq_toServer_iff {number : Int} {seat slot : Slot} (found : seatOf number = .ok seat) :
    number = slot.toServer ↔ slot = seat := by
  rw [← Slot.toServer_of_ofServer (seatOf_eq_ok_iff.mp found), Slot.toServer_inj, eq_comm]

variable {room seated : Room} {host last : Option Slot} {entries : List SeatEntry}

/-- The first entry is seated, and then the others in the room that it leaves. -/
theorem seatEntries_cons_eq_ok_iff {entry : SeatEntry} {rest : List SeatEntry} :
    seatEntries room host (entry :: rest) = .ok (seated, last) ↔
      ∃ seat, seatOf entry.slot = .ok seat ∧
        seatEntries ((room.seat seat entry.userId entry.displayName).setReady seat entry.ready)
          (if entry.isHost then some seat else host) rest = .ok (seated, last) := by
  simp only [seatEntries]
  cases seatOf entry.slot with
  | error error => simp
  | ok seat => simp

/-! ## Seating the entries -/

theorem unflagged_seatEntries (accepted : seatEntries room host entries = .ok (seated, last))
    (slot : Slot) : seated.unflagged slot =
      ((entryOf? entries slot).map (·.player false)).or (room.unflagged slot) := by
  induction entries generalizing room host with
  | nil =>
      cases accepted
      simp [entryOf?]
  | cons entry rest hypothesis =>
      rcases seatEntries_cons_eq_ok_iff.mp accepted with ⟨seat, found, later⟩
      rw [hypothesis later, Room.unflagged_seat_setReady, entryOf?_cons, Option.map_or,
        Option.or_assoc]
      simp only [eq_toServer_iff found]
      by_cases own : slot = seat <;> simp [own]

/-- The seat of the last flagged entry is passed on. -/
theorem last_seatEntries (accepted : seatEntries room host entries = .ok (seated, last)) :
    last.map Slot.toServer =
      ((lastFlagged? entries).map SeatEntry.slot).or (host.map Slot.toServer) := by
  induction entries generalizing room host with
  | nil =>
      cases accepted
      simp [lastFlagged?]
  | cons entry rest hypothesis =>
      rcases seatEntries_cons_eq_ok_iff.mp accepted with ⟨seat, found, later⟩
      have number := (eq_toServer_iff found).mpr rfl
      rw [hypothesis later, lastFlagged?_cons, Option.map_or, Option.or_assoc]
      cases flagged : entry.isHost <;> simp [number]

/-- A host stays host while entries are seated. -/
theorem hostedBy_seatEntries {first : Slot} (hosted : ∀ slot, room.HostedBy slot ↔ slot = first)
    (accepted : seatEntries room host entries = .ok (seated, last)) :
    ∀ slot, seated.HostedBy slot ↔ slot = first := by
  induction entries generalizing room host with
  | nil =>
      cases accepted
      exact hosted
  | cons entry rest hypothesis =>
      rcases seatEntries_cons_eq_ok_iff.mp accepted with ⟨seat, _, later⟩
      refine hypothesis (fun slot => ?_) later
      have unique := Room.hasOneHostAtMost_of_iff hosted
      have firstHosted := (hosted first).mpr rfl
      rw [Room.hostedBy_setReady]
      by_cases own : seat = first
      · subst own
        exact unique.seat_host firstHosted _ _
      · exact unique.seat_other firstHosted own _ _

/-- In a new room the first entry becomes host. -/
theorem hostedBy_seatEntries_empty {roomId : String} {entry : SeatEntry} {rest : List SeatEntry}
    (accepted : seatEntries (.empty roomId) none (entry :: rest) = .ok (seated, last)) :
    ∃ first, entry.slot = first.toServer ∧ ∀ slot, seated.HostedBy slot ↔ slot = first := by
  rcases seatEntries_cons_eq_ok_iff.mp accepted with ⟨seat, found, later⟩
  have vacant (slot : Slot) : ¬(Room.empty roomId).HostedBy slot := by
    simp [Room.HostedBy, Room.count_eq_zero_iff.mp (Room.count_empty roomId) slot]
  refine ⟨seat, (eq_toServer_iff found).mpr rfl, hostedBy_seatEntries (fun slot => ?_) later⟩
  have idle : (Room.empty roomId).started = false := rfl
  rw [Room.hostedBy_setReady, Room.hostedBy_seat_iff]
  simp [vacant, idle]

/-! ## The whole roster -/

theorem unflagged_roomOf {roomId : String} {players : List SeatEntry} {room : Room}
    (accepted : roomOf roomId players = .ok room) (slot : Slot) :
    room.unflagged slot = (entryOf? players slot).map (·.player false) := by
  have vacant : (Room.empty roomId).unflagged slot = none := by
    simp [Room.unflagged, Room.player?, Room.empty]
  unfold roomOf at accepted
  split at accepted
  case h_1 => cases accepted
  case h_2 seated found =>
    cases accepted
    rw [unflagged_seatEntries found, vacant, Option.or_none]
  case h_3 seated host found =>
    cases accepted
    rw [Room.unflagged_setHost, unflagged_seatEntries found, vacant, Option.or_none]

/-- The last flagged entry is host, or else the first of all. -/
theorem hostedBy_roomOf {roomId : String} {entry : SeatEntry} {rest : List SeatEntry} {room : Room}
    (accepted : roomOf roomId (entry :: rest) = .ok room) :
    ∃ host, (hostOf? (entry :: rest)).map SeatEntry.slot = some host.toServer ∧
      ∀ slot, room.HostedBy slot ↔ slot = host := by
  unfold roomOf at accepted
  split at accepted
  case h_1 => cases accepted
  case h_2 seated found =>
    cases accepted
    have unflagged := last_seatEntries found
    rcases hostedBy_seatEntries_empty found with ⟨first, number, hosted⟩
    refine ⟨first, ?_, hosted⟩
    have none_flagged : lastFlagged? (entry :: rest) = none := by simpa using unflagged.symm
    simp [hostOf?, none_flagged, number]
  case h_3 seated host found =>
    cases accepted
    have flagged := last_seatEntries found
    rw [Option.map_none, Option.or_none] at flagged
    rcases Option.map_eq_some_iff.mp flagged.symm with ⟨named, last, number⟩
    refine ⟨host, by simp [hostOf?, last, number], fun slot => ?_⟩
    -- The flagged entry is listed, so that its seat is taken and the host can be named.
    have listed : (entryOf? (entry :: rest) host).isSome = true :=
      isSome_entryOf?_iff.mpr ⟨named, mem_of_lastFlagged? last, number⟩
    apply Room.hostedBy_setHost_of_seated
    rw [← Room.isSome_unflagged, unflagged_seatEntries found]
    simp [listed]

theorem roomId_roomOf {roomId : String} {players : List SeatEntry} {room : Room}
    (accepted : roomOf roomId players = .ok room) : room.roomId = roomId := by
  refine roomOf_induction (·.roomId = roomId) rfl ?_ ?_ accepted
  · exact fun room slot userId displayName ready same => same
  · intro room slot same
    unfold Room.setHost
    split <;> exact same

/-- A roster whose entries all have seats is a room. -/
theorem exists_roomOf {players : List SeatEntry}
    (valid : ∀ entry ∈ players, Slot.IsNumber entry.slot) (roomId : String) :
    ∃ room, roomOf roomId players = .ok room := by
  rw [← failure?_eq_none_iff, failure?_roomOf, unseated?, Option.map_eq_none_iff,
    List.find?_eq_none]
  simpa using valid

theorem isRosterOf_roomOf {roomId : String} {players : List SeatEntry} {room : Room}
    (accepted : roomOf roomId players = .ok room) : room.IsRosterOf roomId players := by
  have unflagged := unflagged_roomOf accepted
  have taken (slot : Slot) : (room.player? slot).isSome = (entryOf? players slot).isSome := by
    rw [← Room.isSome_unflagged, unflagged, Option.isSome_map]
  have hosted : players ≠ [] →
      ∃ host, (hostOf? players).map SeatEntry.slot = some host.toServer ∧
        ∀ slot, room.HostedBy slot ↔ slot = host := by
    intro listed
    rcases List.exists_cons_of_ne_nil listed with ⟨entry, rest, rfl⟩
    exact hostedBy_roomOf accepted
  refine ⟨roomId_roomOf accepted, started_of_roomOf accepted, fun slot => ?taken,
    fun slot => ?seated, fun listed => ?hosted⟩
  case taken => rw [taken, isSome_entryOf?_iff]
  case seated =>
    apply Room.player?_of_unflagged (unflagged slot)
    have sits : room.HostedBy slot → (entryOf? players slot).isSome = true := by
      intro hostedBy
      rw [← taken]
      exact Room.isSome_of_hostedBy hostedBy
    by_cases vacant : players = []
    · subst vacant
      simpa [entryOf?] using sits
    · rcases hosted vacant with ⟨host, number, hosted⟩
      rw [decide_eq_true_iff, number, Option.some.injEq, Slot.toServer_inj, @eq_comm _ host]
      rw [hosted] at sits ⊢
      exact ⟨fun same => ⟨sits same, same⟩, And.right⟩
  case hosted =>
    rcases hosted listed with ⟨host, number, hosted⟩
    have unique := Room.hasOneHostAtMost_of_iff hosted
    exact ⟨host, number, unique.host?_eq_some_iff.mpr ((hosted host).mpr rfl), hosted⟩

/-- Whatever went before, an open session takes over a roster whose entries all have seats, and
nothing else changes. The room is the same whatever the room was. -/
theorem roster_taken_over {players : List SeatEntry}
    (valid : ∀ entry ∈ players, Slot.IsNumber entry.slot) (roomId : String) :
    ∃ room : Room, room.IsRosterOf roomId players ∧
      ∀ {joinedId : String} {number : Int} {timing : Timing} {legality : LegalityRule}
        {session : Session}, join joinedId number timing legality = .ok session →
      ∀ calls, (session.after calls).closed = false → ∀ now,
        (session.after calls).handle (.roomJoined roomId players) now =
          ⟨{ session.after calls with room }, [], .ok ()⟩ := by
  rcases exists_roomOf valid roomId with ⟨room, accepted⟩
  refine ⟨room, isRosterOf_roomOf accepted, ?_⟩
  intro joinedId number timing legality session joined calls isOpen now
  have notClosed : ¬(session.after calls).closed = true := by simp [isOpen]
  rw [handle, if_neg notClosed]
  simp only [roomJoined, accepted, Handled.applied]

/-- A roster that lists two seats twice and flags one entry of each. -/
def doubledRoster : List SeatEntry :=
  [⟨2, "ada", "Ada", true, true⟩, ⟨3, "bea", "Bea", false, true⟩, ⟨2, "cid", "Cid", false, false⟩,
    ⟨3, "dan", "Dan", true, false⟩]

theorem doubledRoster_taken_over : ∃ session,
    join "room" 1 .standard (.constant true) = .ok session ∧
    let before := session.after [.handle (.playerJoined 4 "eve" "Eve") 0, .handle .gameStarted 1]
    let after := (before.handle (.roomJoined "hall" doubledRoster) 2).session
    after.room.IsRosterOf "hall" doubledRoster ∧ after.room.host? = some ⟨2⟩ ∧
      after.room.player? ⟨1⟩ = some ⟨"cid", "Cid", false, false, 0, 21⟩ ∧
      after.room.player? ⟨2⟩ = some ⟨"dan", "Dan", true, true, 0, 21⟩ ∧
      after.room.player? ⟨3⟩ = none := by
  have joined : join "room" 1 .standard (.constant true) = .ok _ := rfl
  have valid : ∀ entry ∈ doubledRoster, Slot.IsNumber entry.slot := by decide
  rcases roster_taken_over valid "hall" with ⟨room, isRoster, taken⟩
  refine ⟨_, joined, ?_⟩
  have handled := taken joined
    [.handle (.playerJoined 4 "eve" "Eve") 0, .handle .gameStarted 1] rfl 2
  intro before after
  have same : after.room = room := congrArg (fun result => result.session.room) handled
  rw [same]
  refine ⟨isRoster, ?_, (isRoster.seated _).trans (by decide),
    (isRoster.seated _).trans (by decide), (isRoster.seated _).trans (by decide)⟩
  rcases isRoster.hosted (by decide) with ⟨host, number, named, _⟩
  have flagged : (hostOf? doubledRoster).map SeatEntry.slot = some (Slot.toServer ⟨2⟩) := by
    decide
  rw [flagged, Option.some.injEq, Slot.toServer_inj] at number
  rw [named, number]

end Session

end TileMatch
