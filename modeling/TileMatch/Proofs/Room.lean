import TileMatch.Proofs.Unmended
import TileMatch.Room

/-!
# The host of a room

A room with players should have a host whenever no game runs. Seating and removing see to it, with
one exception: who sits down in the empty room of a running game does not become host, and the end
of the game does not make up for it. `Room.isHosted_after_iff` says that nothing else goes wrong,
and what sets it right again.

All that matters for this is who is seated and who is host, which `Room.hostFlag` shows, so that
most operations are disposed of by what they leave of it.
-/

namespace TileMatch

/-- What can be done to a room. -/
inductive RoomCall where
  | seat (slot : Slot) (userId displayName : String)
  | remove (slot : Slot)
  | setReady (slot : Slot) (ready : Bool)
  | setHost (slot : Slot)
  | applyScores (scores : List (Slot × Nat))
  | recordPlacement (slot : Slot) (gained : Nat)
  | startGame
  | endGame
  | prepareGame

/-- A call together with the room in which it is made. -/
structure RoomMoment where
  before : Room
  call : RoomCall

@[simp]
theorem Slot.mem_all (slot : Slot) : slot ∈ Slot.all :=
  List.mem_map.mpr ⟨slot.index, List.mem_finRange _, rfl⟩

namespace Room

/-- Makes one call. -/
def step (room : Room) : RoomCall → Room
  | .seat slot userId displayName => room.seat slot userId displayName
  | .remove slot => room.remove slot
  | .setReady slot ready => room.setReady slot ready
  | .setHost slot => room.setHost slot
  | .applyScores scores => room.applyScores scores
  | .recordPlacement slot gained => room.recordPlacement slot gained
  | .startGame => room.startGame
  | .endGame => room.endGame
  | .prepareGame => room.prepareGame

/-- The room after a list of calls. -/
def after (room : Room) (calls : List RoomCall) : Room := calls.foldl step room

/-- If there are players, one of them is host. -/
def IsHosted (room : Room) : Prop := 0 < room.count → room.host?.isSome = true

/-- While no game runs, one of the players is host if there are any. -/
def IsHostedWhileIdle (room : Room) : Prop := room.started = false → room.IsHosted

instance (room : Room) : Decidable room.IsHosted := inferInstanceAs (Decidable (_ → _))

instance (room : Room) : Decidable room.IsHostedWhileIdle := inferInstanceAs (Decidable (_ → _))

/-- Whether there is a player in a seat, and then whether that player is host. -/
def hostFlag (room : Room) (slot : Slot) : Option Bool := (room.player? slot).map Player.isHost

variable {room other : Room} {slot : Slot} {player : Player}

/-! ## Reading the roster -/

theorem mem_players_iff : (slot, player) ∈ room.players ↔ room.player? slot = some player := by
  simp only [players, List.mem_filterMap, Option.map_eq_some_iff, Prod.mk.injEq]
  constructor
  · rintro ⟨_, _, _, found, rfl, rfl⟩
    exact found
  · exact fun found => ⟨slot, slot.mem_all, player, found, rfl, rfl⟩

theorem count_eq_zero_iff : room.count = 0 ↔ ∀ slot, room.hostFlag slot = none := by
  rw [count, List.length_eq_zero_iff, List.eq_nil_iff_forall_not_mem]
  simp only [Prod.forall, mem_players_iff, hostFlag, Option.map_eq_none_iff]
  exact forall_congr' fun _ => Option.eq_none_iff_forall_ne_some.symm

theorem host?_isSome_iff : room.host?.isSome = true ↔ ∃ slot, room.hostFlag slot = some true := by
  simp only [host?, Option.isSome_map, List.find?_isSome, Prod.exists, mem_players_iff, hostFlag,
    Option.map_eq_some_iff]

theorem isHosted_iff : room.IsHosted ↔ room.count = 0 ∨ room.host?.isSome = true := by
  rw [IsHosted, Nat.pos_iff_ne_zero, ← Decidable.or_iff_not_imp_left]

theorem isHosted_of_count_eq_zero (vacant : room.count = 0) : room.IsHosted :=
  isHosted_iff.mpr (.inl vacant)

@[simp]
theorem count_empty (roomId : String) : (empty roomId).count = 0 := by
  rw [count_eq_zero_iff]
  intro slot
  simp [hostFlag, player?, empty]

theorem count_eq_zero_congr (same : ∀ slot, room.hostFlag slot = other.hostFlag slot) :
    room.count = 0 ↔ other.count = 0 := by
  simp only [count_eq_zero_iff, same]

theorem isHosted_congr (same : ∀ slot, room.hostFlag slot = other.hostFlag slot) :
    room.IsHosted ↔ other.IsHosted := by
  rw [isHosted_iff, isHosted_iff, count_eq_zero_congr same]
  simp only [host?_isSome_iff, same]

/-- A room with a host is not empty. -/
theorem count_ne_zero_of_host (hosted : room.host?.isSome = true) : room.count ≠ 0 := by
  intro vacant
  rcases host?_isSome_iff.mp hosted with ⟨slot, flag⟩
  simp [count_eq_zero_iff.mp vacant slot] at flag

/-! ## What the operations leave of it -/

@[simp]
theorem hostFlag_mapSeats (change : Slot → Option Player → Option Player) (slot : Slot) :
    (room.mapSeats change).hostFlag slot = (change slot (room.player? slot)).map Player.isHost := by
  simp [hostFlag]

theorem hostFlag_setSeat (written read : Slot) (player : Option Player) :
    (room.setSeat written player).hostFlag read =
      if read = written then player.map Player.isHost else room.hostFlag read := by
  simp only [hostFlag, player?_setSeat]
  split <;> rfl

/-- A change to a player that keeps the flag leaves all flags as they are. -/
theorem hostFlag_modify {change : Player → Player}
    (keeps : ∀ player, (change player).isHost = player.isHost) (written read : Slot) :
    (room.modify written change).hostFlag read = room.hostFlag read := by
  rw [modify, hostFlag_setSeat]
  split
  case isTrue same =>
    subst same
    simp [hostFlag, Function.comp_def, keeps]
  case isFalse => rfl

@[simp]
theorem hostFlag_setReady (seat : Slot) (ready : Bool) (slot : Slot) :
    (room.setReady seat ready).hostFlag slot = room.hostFlag slot := by
  apply hostFlag_modify
  exact fun _ => rfl

@[simp]
theorem hostFlag_setScore (seat : Slot) (score : Nat) (slot : Slot) :
    (room.setScore seat score).hostFlag slot = room.hostFlag slot := by
  apply hostFlag_modify
  exact fun _ => rfl

@[simp]
theorem hostFlag_recordPlacement (seat : Slot) (gained : Nat) (slot : Slot) :
    (room.recordPlacement seat gained).hostFlag slot = room.hostFlag slot := by
  apply hostFlag_modify
  exact fun _ => rfl

@[simp]
theorem hostFlag_applyScores (scores : List (Slot × Nat)) (slot : Slot) :
    (room.applyScores scores).hostFlag slot = room.hostFlag slot := by
  induction scores generalizing room with
  | nil => rfl
  | cons entry rest hypothesis => exact hypothesis.trans (hostFlag_setScore _ _ _)

/-- A change to every player that keeps the flags leaves them as they are. -/
theorem hostFlag_mapPlayers {change : Player → Player}
    (keeps : ∀ player, (change player).isHost = player.isHost) (slot : Slot) :
    (room.mapSeats fun _ player => player.map change).hostFlag slot = room.hostFlag slot := by
  rw [hostFlag_mapSeats, Option.map_map]
  exact congrArg (Option.map · _) (funext keeps)

@[simp]
theorem hostFlag_prepareGame (slot : Slot) :
    room.prepareGame.hostFlag slot = room.hostFlag slot := by
  apply hostFlag_mapPlayers
  exact fun _ => rfl

@[simp]
theorem hostFlag_startGame (slot : Slot) : room.startGame.hostFlag slot = room.hostFlag slot :=
  hostFlag_prepareGame slot

@[simp]
theorem hostFlag_endGame (slot : Slot) : room.endGame.hostFlag slot = room.hostFlag slot := by
  apply hostFlag_mapPlayers
  exact fun _ => rfl

/-! ## Seating, removing and naming a host -/

theorem host?_setSeat_none_iff (slot : Slot) :
    (room.setSeat slot none).host?.isSome = true ↔
      ∃ other, other ≠ slot ∧ room.hostFlag other = some true := by
  simp only [host?_isSome_iff, hostFlag_setSeat]
  refine exists_congr fun other => ?_
  by_cases same : other = slot <;> simp [same]

/-- Of the room without a seat and the seat itself, one has the host. -/
theorem host?_isSome_iff_of_seat (slot : Slot) :
    room.host?.isSome = true ↔
      (room.setSeat slot none).host?.isSome = true ∨ room.hostFlag slot = some true := by
  rw [host?_setSeat_none_iff, host?_isSome_iff]
  constructor
  · rintro ⟨other, flag⟩
    by_cases same : other = slot
    · exact .inr (same ▸ flag)
    · exact .inl ⟨other, same, flag⟩
  · rintro (⟨other, _, flag⟩ | flag)
    · exact ⟨other, flag⟩
    · exact ⟨slot, flag⟩

theorem any_isHost_iff (slot : Slot) :
    (room.player? slot).any Player.isHost = true ↔ room.hostFlag slot = some true := by
  simp [hostFlag, Option.any_eq_true]

variable (room slot) (userId displayName : String)

theorem count_seat_ne_zero : (room.seat slot userId displayName).count ≠ 0 := by
  intro vacant
  have flag := count_eq_zero_iff.mp vacant slot
  simp [seat, hostFlag_setSeat] at flag

/-- The newcomer becomes host when nobody else is, and no game runs or the one replaced was. -/
theorem hostFlag_seat_self : (room.seat slot userId displayName).hostFlag slot = some true ↔
    (room.setSeat slot none).host?.isSome = false ∧
      (room.hostFlag slot = some true ∨ room.started = false) := by
  rw [seat, hostFlag_setSeat, if_pos rfl, ← any_isHost_iff]
  simp [Player.newcomer]

/-- After a player has sat down there is a host if there was one before or if no game runs. -/
theorem host?_seat_isSome_iff :
    (room.seat slot userId displayName).host?.isSome = true ↔
      room.host?.isSome = true ∨ room.started = false := by
  have others : (room.setSeat slot none).host?.isSome = true ↔
      ((room.seat slot userId displayName).setSeat slot none).host?.isSome = true := by
    simp only [host?_setSeat_none_iff, seat, hostFlag_setSeat]
    refine exists_congr fun other => and_congr_right fun apart => ?_
    simp [apart]
  rw [host?_isSome_iff_of_seat slot, room.host?_isSome_iff_of_seat slot, ← others,
    hostFlag_seat_self]
  cases (room.setSeat slot none).host?.isSome <;> simp

theorem isHosted_seat_iff : (room.seat slot userId displayName).IsHosted ↔
    room.started = false ∨ (room.count ≠ 0 ∧ room.IsHosted) := by
  have occupied := room.count_seat_ne_zero slot userId displayName
  rw [isHosted_iff, host?_seat_isSome_iff, isHosted_iff]
  constructor
  · rintro (vacant | hosted | idle)
    · exact absurd vacant occupied
    · exact .inr ⟨count_ne_zero_of_host hosted, .inr hosted⟩
    · exact .inl idle
  · rintro (idle | ⟨seated, vacant | hosted⟩)
    · exact .inr (.inr idle)
    · exact absurd vacant seated
    · exact .inr (.inl hosted)

theorem count_setSeat_none_eq_zero (vacant : room.count = 0) :
    (room.setSeat slot none).count = 0 := by
  rw [count_eq_zero_iff] at vacant ⊢
  intro other
  rw [hostFlag_setSeat, vacant]
  split <;> rfl

/-- Anybody but the host leaves without a trace in the other seats. -/
theorem remove_of_not_host (guest : ¬room.hostFlag slot = some true) :
    room.remove slot = room.setSeat slot none := by
  unfold remove
  exact if_neg (mt (any_isHost_iff slot).mp guest)

/-- When the host leaves, the player in the lowest seat becomes host. -/
theorem isHosted_remove_of_host (leaves : room.hostFlag slot = some true) :
    (room.remove slot).IsHosted := by
  unfold remove
  rw [if_pos (any_isHost_iff slot |>.mpr leaves)]
  split
  case h_1 next player lowest =>
    have seated := mem_players_iff.mp (List.mem_of_head? lowest)
    refine isHosted_iff.mpr (.inr (host?_isSome_iff.mpr ⟨next, ?_⟩))
    simp [modify, hostFlag_setSeat, seated]
  case h_2 nobody =>
    apply isHosted_of_count_eq_zero
    rw [count, List.head?_eq_none_iff.mp nobody, List.length_nil]

/-- After a player has left, the room is empty or has a host exactly if it had one before. -/
theorem isHosted_remove_iff :
    (room.remove slot).IsHosted ↔ (room.remove slot).count = 0 ∨ room.IsHosted := by
  by_cases leaves : room.hostFlag slot = some true
  · have hosted : room.host?.isSome = true := host?_isSome_iff.mpr ⟨slot, leaves⟩
    exact iff_of_true (room.isHosted_remove_of_host slot leaves)
      (.inr (isHosted_iff.mpr (.inr hosted)))
  · have same : (room.setSeat slot none).host?.isSome = true ↔ room.host?.isSome = true := by
      simp [room.host?_isSome_iff_of_seat slot, leaves]
    rw [room.remove_of_not_host slot leaves, isHosted_iff, isHosted_iff, same]
    constructor
    · exact Or.imp_right .inr
    · rintro (vacant | vacant | hosted)
      · exact .inl vacant
      · exact .inl (room.count_setSeat_none_eq_zero slot vacant)
      · exact .inr hosted

theorem isHosted_setHost_iff : (room.setHost slot).IsHosted ↔
    (room.player? slot).isSome = true ∨ (room.setHost slot).count = 0 ∨ room.IsHosted := by
  unfold setHost
  split
  case isTrue found =>
    refine iff_of_true (isHosted_iff.mpr (.inr (host?_isSome_iff.mpr ⟨slot, ?_⟩))) (.inl found)
    rcases Option.isSome_iff_exists.mp found with ⟨player, held⟩
    simp [held]
  case isFalse absent =>
    rw [isHosted_iff]
    simp [absent]

/-- An operation that keeps the flags keeps the host. -/
theorem isHosted_iff_of_kept {after : Room}
    (kept : ∀ slot, after.hostFlag slot = room.hostFlag slot) :
    after.IsHosted ↔ after.count = 0 ∨ room.IsHosted := by
  rw [isHosted_congr kept, count_eq_zero_congr kept, isHosted_iff, or_self_left]

/-! ## Operations that neither start nor end a game -/

@[simp]
theorem started_remove : (room.remove slot).started = room.started := by
  simp only [remove]
  repeat' split
  all_goals rfl

@[simp]
theorem started_setHost : (room.setHost slot).started = room.started := by
  unfold setHost
  split <;> rfl

@[simp]
theorem started_applyScores (scores : List (Slot × Nat)) :
    (room.applyScores scores).started = room.started := by
  induction scores generalizing room with
  | nil => rfl
  | cons entry rest hypothesis => exact hypothesis _

end Room

/-! ## Runs -/

namespace RoomMoment

/-- The call seats a player in the empty room of a running game. -/
def Orphans (moment : RoomMoment) : Prop :=
  moment.before.started = true ∧ moment.before.count = 0 ∧
    ∃ slot userId displayName, moment.call = .seat slot userId displayName

/-- The call seats a player while no game runs, names a host, or leaves the room empty. -/
def Mends (moment : RoomMoment) : Prop :=
  (moment.before.started = false ∧
    ∃ slot userId displayName, moment.call = .seat slot userId displayName) ∨
  (∃ slot, moment.call = .setHost slot ∧ (moment.before.player? slot).isSome = true) ∨
  (moment.before.step moment.call).count = 0

end RoomMoment

namespace Room

/-- The moments of a list of calls. -/
def history (room : Room) : List RoomCall → List RoomMoment
  | [] => []
  | call :: rest => ⟨room, call⟩ :: (room.step call).history rest

variable (room : Room)

theorem isHosted_step_iff (call : RoomCall) : (room.step call).IsHosted ↔
    ¬RoomMoment.Orphans ⟨room, call⟩ ∧ (RoomMoment.Mends ⟨room, call⟩ ∨ room.IsHosted) := by
  simp only [RoomMoment.Mends, RoomMoment.Orphans]
  cases call with
  | seat slot userId displayName =>
      have occupied := room.count_seat_ne_zero slot userId displayName
      simp only [step]
      rw [isHosted_seat_iff]
      cases room.started <;> simp [occupied]
  | remove slot =>
      simp only [step]
      rw [isHosted_remove_iff]
      simp
  | setHost slot =>
      simp only [step]
      rw [isHosted_setHost_iff]
      simp [or_assoc]
  | setReady | applyScores | recordPlacement | startGame | endGame | prepareGame =>
      simp only [step]
      rw [room.isHosted_iff_of_kept (by simp)]
      simp

theorem isHosted_after_iff_from {past : List RoomMoment} {room : Room}
    (fact : room.IsHosted ↔ ¬Unmended RoomMoment.Orphans RoomMoment.Mends past)
    (calls : List RoomCall) : (room.after calls).IsHosted ↔
      ¬Unmended RoomMoment.Orphans RoomMoment.Mends (past ++ room.history calls) := by
  induction calls generalizing past room with
  | nil => simpa [after, history] using fact
  | cons call rest hypothesis =>
      have later := hypothesis (Unmended.fact_snoc_iff fact (room.isHosted_step_iff call))
      rwa [List.append_assoc] at later

/-- After any calls on a new room, if there are players then one of them is host, unless a player
has been seated in the empty room of a running game and nothing has mended that since. -/
theorem isHosted_after_iff (roomId : String) (calls : List RoomCall) :
    ((empty roomId).after calls).IsHosted ↔
      ¬Unmended RoomMoment.Orphans RoomMoment.Mends ((empty roomId).history calls) := by
  refine isHosted_after_iff_from (iff_of_true ?_ Unmended.not_nil) calls
  exact isHosted_of_count_eq_zero (count_empty roomId)

end Room

end TileMatch
