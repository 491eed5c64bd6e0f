import TileMatch.Proofs.Room

/-!
# The same change again

What an event does to a room it does not do twice: who is seated twice in one seat sits there once,
and a seat that is free, a flag, the host and a total score stay what they are when they are set
again. The one change that adds up is a placement, which costs a piece and gains points each time,
and it touches nothing but the standing of its seat (`Room.SameButStanding`).
-/

namespace TileMatch

namespace Player

@[simp]
theorem refreshed_refreshed (player : Player) : player.refreshed.refreshed = player.refreshed := rfl

end Player

namespace Room

variable {room first second : Room} {slot : Slot}

theorem ext_player? (roomId : first.roomId = second.roomId)
    (started : first.started = second.started)
    (players : ∀ slot, first.player? slot = second.player? slot) : first = second := by
  rcases first with ⟨_, firstSeats, _⟩
  rcases second with ⟨_, secondSeats, _⟩
  cases roomId
  cases started
  congr
  apply Vector.ext
  intro index below
  exact players ⟨⟨index, below⟩⟩

/-! ## One seat -/

theorem setSeat_player? (room : Room) (slot : Slot) :
    room.setSeat slot (room.player? slot) = room := by
  refine ext_player? rfl rfl ?_
  intro read
  rw [player?_setSeat]
  split
  case isTrue same => rw [same]
  case isFalse => rfl

@[simp]
theorem setSeat_setSeat (room : Room) (slot : Slot) (before after : Option Player) :
    (room.setSeat slot before).setSeat slot after = room.setSeat slot after := by
  refine ext_player? rfl rfl ?_
  intro read
  simp only [player?_setSeat]
  split <;> rfl

theorem modify_modify {change : Player → Player}
    (settles : ∀ player, change (change player) = change player) (room : Room) (slot : Slot) :
    (room.modify slot change).modify slot change = room.modify slot change := by
  simp only [modify, setSeat_setSeat, player?_setSeat, if_true, Option.map_map]
  congr 2
  exact funext settles

theorem player?_modify (room : Room) (written read : Slot) (change : Player → Player) :
    (room.modify written change).player? read =
      if read = written then (room.player? read).map change else room.player? read := by
  rw [modify, player?_setSeat]
  split
  case isTrue same => rw [same]
  case isFalse => rfl

/-! ## What events do -/

/-- Seated again in the same seat, a newcomer is host if it was host the first time. -/
theorem seat_seat (room : Room) (slot : Slot) (userId displayName : String) :
    (room.seat slot userId displayName).seat slot userId displayName =
      room.seat slot userId displayName := by
  simp only [seat, setSeat_setSeat, player?_setSeat, if_true, Option.any_some]
  -- A flag that has been given because no game runs, or taken over, is given for the same reason.
  have flag : ∀ vacant had idle : Bool,
      (vacant && ((vacant && (had || idle)) || idle)) = (vacant && (had || idle)) := by decide
  simp only [Player.newcomer, setSeat, flag]

theorem player?_remove_self (room : Room) (slot : Slot) :
    (room.remove slot).player? slot = none := by
  have vacated : (room.setSeat slot none).player? slot = none := by simp [player?_setSeat]
  unfold remove
  dsimp only
  split
  · split
    · rw [player?_modify, vacated]
      split <;> rfl
    · exact vacated
  · exact vacated

theorem remove_of_vacant (vacant : room.player? slot = none) : room.remove slot = room := by
  have same := room.setSeat_player? slot
  rw [vacant] at same
  simp [remove, vacant, same]

theorem remove_remove (room : Room) (slot : Slot) :
    (room.remove slot).remove slot = room.remove slot :=
  remove_of_vacant (room.player?_remove_self slot)

theorem setReady_setReady (room : Room) (slot : Slot) (ready : Bool) :
    (room.setReady slot ready).setReady slot ready = room.setReady slot ready := by
  apply modify_modify
  intro player
  rfl

theorem setHost_setHost (room : Room) (slot : Slot) :
    (room.setHost slot).setHost slot = room.setHost slot := by
  by_cases seated : (room.player? slot).isSome = true
  · have named : room.setHost slot = room.mapSeats fun other player =>
        player.map ({ · with isHost := decide (other = slot) }) := if_pos seated
    rw [named, setHost, player?_mapSeats, Option.isSome_map, if_pos seated]
    refine ext_player? rfl rfl ?_
    intro read
    simp [Function.comp_def]
  · have vacant : room.setHost slot = room := if_neg seated
    rw [vacant, vacant]

/-- Of several total scores for a seat the last one counts. -/
theorem player?_applyScores (room : Room) (scores : List (Slot × Nat)) (slot : Slot) :
    (room.applyScores scores).player? slot = (room.player? slot).map fun player =>
      { player with
        score := ((scores.reverse.lookup slot).map UInt32.ofNat).getD player.score } := by
  induction scores generalizing room with
  | nil => simp [applyScores]
  | cons entry rest hypothesis =>
      rcases entry with ⟨scored, score⟩
      have later := hypothesis (room.setScore scored score)
      simp only [applyScores, List.foldl_cons] at later ⊢
      rw [later, setScore, player?_modify, List.reverse_cons, List.lookup_append]
      by_cases own : slot = scored
      · simp [own, Function.comp_def]
      · have apart : (slot == scored) = false := by simpa using own
        simp [own, apart, List.lookup_cons]

@[simp]
theorem roomId_applyScores (room : Room) (scores : List (Slot × Nat)) :
    (room.applyScores scores).roomId = room.roomId := by
  induction scores generalizing room with
  | nil => rfl
  | cons entry rest hypothesis => exact hypothesis _

theorem applyScores_applyScores (room : Room) (scores : List (Slot × Nat)) :
    (room.applyScores scores).applyScores scores = room.applyScores scores := by
  refine ext_player? (by simp) (by simp) ?_
  intro slot
  simp only [player?_applyScores, Option.map_map, Function.comp_def]
  cases scores.reverse.lookup slot <;> rfl

theorem player?_startGame (room : Room) (slot : Slot) :
    room.startGame.player? slot = (room.player? slot).map Player.refreshed := by
  simp [startGame, prepareGame, player?, mapSeats]

theorem player?_endGame (room : Room) (slot : Slot) :
    room.endGame.player? slot =
      (room.player? slot).map fun player => { player with ready := false } := by
  simp [endGame, player?, mapSeats]

theorem startGame_startGame (room : Room) : room.startGame.startGame = room.startGame := by
  refine ext_player? rfl rfl ?_
  intro slot
  simp [player?_startGame, Function.comp_def]

theorem endGame_endGame (room : Room) : room.endGame.endGame = room.endGame := by
  refine ext_player? rfl rfl ?_
  intro slot
  simp [player?_endGame, Function.comp_def]

/-! ## Placements -/

/-- Nothing but the standing of one seat differs, its score and its remaining pieces. -/
structure SameButStanding (slot : Slot) (first second : Room) : Prop where
  roomId : first.roomId = second.roomId
  started : first.started = second.started
  others : ∀ other, other ≠ slot → first.player? other = second.player? other
  own : (first.player? slot).map Player.refreshed = (second.player? slot).map Player.refreshed

theorem sameButStanding_recordPlacement (room : Room) (slot : Slot) (gained : Nat) :
    SameButStanding slot (room.recordPlacement slot gained) room where
  roomId := rfl
  started := rfl
  others := by
    intro other apart
    rw [recordPlacement, player?_modify, if_neg apart]
  own := by
    rw [recordPlacement, player?_modify, if_pos rfl, Option.map_map]
    rfl

end Room

end TileMatch
