import TileMatch.Proofs.Room.Repeating

/-!
# What a player has reached

A room keeps a score and a number of remaining pieces for each of its players. This is the
`Standing`, and for each operation of a room there is a lemma here on what becomes of the standing
in a seat. Most leave it alone; only seating, removing, placing, scoring and starting a game do not.

A score has thirty-two bits and stands for a total that may have more: `IsScoreOf` says which.
-/

namespace TileMatch

/-- The score is a total in thirty-two bits, and the total itself as long as it fits. -/
structure IsScoreOf (score : UInt32) (total : Nat) : Prop where
  reduced : score = .ofNat total
  exact : total < UInt32.size → score.toNat = total

namespace IsScoreOf

variable {score : UInt32} {total : Nat}

theorem ofNat (total : Nat) : IsScoreOf (.ofNat total) total := ⟨rfl, UInt32.toNat_ofNat_of_lt'⟩

theorem toNat (score : UInt32) : IsScoreOf score score.toNat :=
  ⟨UInt32.ofNat_toNat.symm, fun _ => rfl⟩

/-- Points are added to the total. -/
theorem add (counted : IsScoreOf score total) (points : Nat) :
    IsScoreOf (score + .ofNat points) (total + points) := by
  rw [counted.reduced, ← UInt32.ofNat_add]
  exact .ofNat _

end IsScoreOf

/-- What a player has reached in a game. -/
structure Standing where
  score : UInt32
  remainingPieces : Nat

namespace Standing

/-- The standing of a player who has not placed anything. -/
def fresh : Standing := ⟨0, 21⟩

/-- The standing after a placement. -/
def placed (standing : Standing) (points : Nat) : Standing :=
  ⟨standing.score + .ofNat points, standing.remainingPieces - 1⟩

/-- The standing with the score of a total. -/
def scored (standing : Standing) (total : Nat) : Standing :=
  { standing with score := .ofNat total }

end Standing

/-- What the player has reached. -/
def Player.standing (player : Player) : Standing := ⟨player.score, player.remainingPieces⟩

namespace Room

/-- What the player in a seat has reached. -/
def standing? (room : Room) (slot : Slot) : Option Standing :=
  (room.player? slot).map Player.standing

variable {room : Room} {written slot : Slot}

theorem standing?_of_player? {player : Player} (seated : room.player? slot = some player) :
    room.standing? slot = some player.standing := by
  rw [standing?, seated, Option.map_some]

theorem standing?_setSeat (player : Option Player) :
    (room.setSeat written player).standing? slot =
      if slot = written then player.map Player.standing else room.standing? slot := by
  rw [standing?, player?_setSeat]
  split <;> rfl

/-- A change to one player is a change to the standing in one seat. -/
theorem standing?_modify {change : Player → Player} (effect : Standing → Standing)
    (acts : ∀ player, (change player).standing = effect player.standing) :
    (room.modify written change).standing? slot =
      if slot = written then (room.standing? slot).map effect else room.standing? slot := by
  rw [standing?, player?_modify]
  split
  · simp [standing?, Function.comp_def, acts]
  · rfl

/-- A change to one player that leaves the standing. -/
theorem standing?_modify_of_kept {change : Player → Player}
    (keeps : ∀ player, (change player).standing = player.standing) :
    (room.modify written change).standing? slot = room.standing? slot := by
  rw [standing?_modify id keeps]
  simp

@[simp]
theorem standing?_empty (roomId : String) : (empty roomId).standing? slot = none := by
  simp [standing?, player?, empty]

theorem standing?_seat (userId displayName : String) :
    (room.seat written userId displayName).standing? slot =
      if slot = written then some .fresh else room.standing? slot := by
  unfold seat
  simp only [standing?_setSeat]
  split <;> rfl

theorem standing?_remove : (room.remove written).standing? slot =
    if slot = written then none else room.standing? slot := by
  -- Whoever becomes host instead keeps the standing.
  refine Eq.trans ?_ (standing?_setSeat none)
  unfold remove
  split
  · dsimp only
    split
    · exact standing?_modify_of_kept fun _ => rfl
    · rfl
  · rfl

@[simp]
theorem standing?_setReady (ready : Bool) :
    (room.setReady written ready).standing? slot = room.standing? slot :=
  standing?_modify_of_kept fun _ => rfl

@[simp]
theorem standing?_setHost : (room.setHost written).standing? slot = room.standing? slot := by
  unfold setHost
  split
  · simp only [standing?, player?_mapSeats, Option.map_map]
    rfl
  · rfl

theorem standing?_recordPlacement (points : Nat) :
    (room.recordPlacement written points).standing? slot =
      if slot = written then (room.standing? slot).map (·.placed points) else room.standing? slot :=
  standing?_modify (·.placed points) fun _ => rfl

theorem standing?_applyScores (scores : List (Slot × Nat)) :
    (room.applyScores scores).standing? slot = (room.standing? slot).map fun standing =>
      ((scores.reverse.lookup slot).map standing.scored).getD standing := by
  simp only [standing?, player?_applyScores, Option.map_map]
  congr 1
  funext player
  cases scores.reverse.lookup slot <;> rfl

theorem standing?_startGame :
    room.startGame.standing? slot = (room.standing? slot).map fun _ => .fresh := by
  simp only [standing?, player?_startGame, Option.map_map]
  rfl

@[simp]
theorem standing?_endGame : room.endGame.standing? slot = room.standing? slot := by
  simp only [standing?, player?_endGame, Option.map_map]
  rfl

end Room

end TileMatch
