import TileMatch.Proofs.Room

/-!
# One host, and who follows

A room never has two hosts, and once it has one it keeps one until nobody is left. Seating looks for
another host only after the seat has been freed, and removing hands the role on without taking it
from anybody, so that both are right only in a room that has one host at most. That is the invariant
here (`Room.HasOneHostAtMost`), and what the operations make of the host (`Room.HandsOnHost`) is
read off it.
-/

namespace TileMatch

theorem Slot.all_sorted : Slot.all.Pairwise fun first second => first.index < second.index := by
  decide

namespace Room

def HostedBy (room : Room) (slot : Slot) : Prop := room.hostFlag slot = some true

instance (room : Room) (slot : Slot) : Decidable (room.HostedBy slot) :=
  inferInstanceAs (Decidable (_ = _))

/-- No two players are host. -/
def HasOneHostAtMost (room : Room) : Prop :=
  ∀ first second, room.HostedBy first → room.HostedBy second → first = second

/-- A seat is taken, and it is the lowest such seat apart from a given one. -/
def FollowedBy (room : Room) (leaving next : Slot) : Prop :=
  next ≠ leaving ∧ (room.player? next).isSome = true ∧
    ∀ other, other ≠ leaving → (room.player? other).isSome = true → next.index ≤ other.index

/-- How a room deals with the role of the host. -/
structure HandsOnHost (room : Room) : Prop where
  /-- There is one host at most. -/
  unique : room.HasOneHostAtMost
  /-- The host that the room names is the player with the role. -/
  named : ∀ slot, room.host? = some slot ↔ room.HostedBy slot
  /-- Whatever is done to a room with a host, it is empty afterwards or has exactly one. -/
  kept : ∀ call host, room.HostedBy host →
    (room.step call).count = 0 ∨
      ∃ only, ∀ slot, (room.step call).HostedBy slot ↔ slot = only
  /-- Who is seated in place of the host is the host. -/
  seat_host : ∀ host userId displayName, room.HostedBy host →
    (room.seat host userId displayName).player? host = some (.newcomer userId displayName true) ∧
      ∀ slot, (room.seat host userId displayName).HostedBy slot ↔ slot = host
  /-- When the host leaves, the player in the lowest seat that is taken is the host. -/
  remove_host : ∀ host, room.HostedBy host →
    ∀ slot, (room.remove host).HostedBy slot ↔ room.FollowedBy host slot
  /-- The host stays host when anybody else sits down. -/
  seat_other : ∀ host other userId displayName, room.HostedBy host → other ≠ host →
    ∀ slot, (room.seat other userId displayName).HostedBy slot ↔ slot = host
  /-- The host stays host when anybody else leaves. -/
  remove_other : ∀ host other, room.HostedBy host → other ≠ host →
    ∀ slot, (room.remove other).HostedBy slot ↔ slot = host
  /-- A player who is named host is the only one. -/
  setHost_seated : ∀ named, (room.player? named).isSome = true →
    ∀ slot, (room.setHost named).HostedBy slot ↔ slot = named
  /-- An empty seat cannot be named host. -/
  setHost_vacant : ∀ named, room.player? named = none → room.setHost named = room

variable {room : Room} {slot other : Slot}

/-! ## Reading the roster -/

theorem hostedBy_of_host? (named : room.host? = some slot) : room.HostedBy slot := by
  rcases Option.map_eq_some_iff.mp named with ⟨⟨seat, player⟩, found, rfl⟩
  have seated := mem_players_iff.mp (List.mem_of_find?_eq_some found)
  simpa [HostedBy, hostFlag, seated] using List.find?_some found

theorem FollowedBy.unique {leaving : Slot} (first : room.FollowedBy leaving slot)
    (second : room.FollowedBy leaving other) : slot = other :=
  congrArg Slot.mk <| Fin.le_antisymm (first.2.2 other second.1 second.2.1)
    (second.2.2 slot first.1 first.2.1)

/-- The first of the players sits in the lowest seat that is taken. -/
theorem head?_players_eq_some_iff {player : Player} :
    room.players.head? = some (slot, player) ↔
      room.player? slot = some player ∧
        ∀ lower, lower.index < slot.index → room.player? lower = none := by
  rw [players, List.head?_filterMap, List.findSome?_eq_some_iff]
  -- Seats are passed in order, so that the lower ones are those before the one that is found.
  constructor
  · rintro ⟨before, found, after, split, held, vacant⟩
    rcases Option.map_eq_some_iff.mp held with ⟨_, seated, same⟩
    cases same
    refine ⟨seated, fun lower below => ?_⟩
    have sorted := Slot.all_sorted
    rw [split, List.pairwise_append, List.pairwise_cons] at sorted
    have lower_mem : lower ∈ before ++ slot :: after := split ▸ lower.mem_all
    rcases List.mem_append.mp lower_mem with earlier | later
    · exact Option.map_eq_none_iff.mp (vacant lower earlier)
    · rcases List.mem_cons.mp later with rfl | later
      · exact absurd below (Nat.lt_irrefl _)
      · exact absurd (sorted.2.1.1 lower later) (Nat.lt_asymm below)
  · rintro ⟨seated, vacant⟩
    rcases List.append_of_mem slot.mem_all with ⟨before, after, split⟩
    refine ⟨before, slot, after, split, by simp [seated], fun lower lower_mem => ?_⟩
    have sorted := Slot.all_sorted
    rw [split, List.pairwise_append] at sorted
    rw [vacant lower (sorted.2.2 lower lower_mem slot List.mem_cons_self), Option.map_none]

/-- Without a seat, the first of the players is the one who follows its player. -/
theorem head?_players_vacated_iff {leaving next : Slot} :
    (∃ player, (room.setSeat leaving none).players.head? = some (next, player)) ↔
      room.FollowedBy leaving next := by
  simp only [head?_players_eq_some_iff, player?_setSeat, FollowedBy]
  constructor
  · rintro ⟨player, seated, lowest⟩
    split at seated
    case isTrue => cases seated
    case isFalse apart =>
      refine ⟨apart, by simp [seated], fun other stays taken => ?_⟩
      refine Nat.le_of_not_lt fun below => ?_
      have vacant := lowest other below
      rw [if_neg stays] at vacant
      simp [vacant] at taken
  · rintro ⟨apart, taken, lowest⟩
    rcases Option.isSome_iff_exists.mp taken with ⟨player, seated⟩
    refine ⟨player, by simp [apart, seated], fun lower below => ?_⟩
    split
    case isTrue => rfl
    case isFalse stays =>
      rw [← Option.not_isSome_iff_eq_none]
      exact fun lowerTaken => absurd below (Nat.not_lt_of_le (lowest lower stays lowerTaken))

/-! ## Who is host after an operation -/

theorem hostedBy_seat_iff (userId displayName : String) :
    (room.seat slot userId displayName).HostedBy other ↔
      if other = slot then
        (∀ rival, rival ≠ slot → ¬room.HostedBy rival) ∧
          (room.HostedBy slot ∨ room.started = false)
      else room.HostedBy other := by
  split
  case isTrue same =>
    subst same
    rw [HostedBy, hostFlag_seat_self, ← Bool.not_eq_true, host?_setSeat_none_iff]
    simp only [HostedBy, not_exists, not_and]
  case isFalse apart => simp [HostedBy, seat, hostFlag_setSeat, apart]

theorem hostedBy_remove_of_host (hosted : room.HostedBy slot) :
    (room.remove slot).HostedBy other ↔
      room.FollowedBy slot other ∨ (other ≠ slot ∧ room.HostedBy other) := by
  unfold remove
  rw [if_pos ((any_isHost_iff slot).mpr hosted), ← head?_players_vacated_iff]
  split
  case h_1 next player lowest =>
    have seated := (head?_players_eq_some_iff.mp lowest).1
    have apart := (head?_players_vacated_iff.mp ⟨player, lowest⟩).1
    simp only [HostedBy, modify, hostFlag_setSeat, lowest, Option.some.injEq, Prod.mk.injEq,
      exists_and_left, exists_eq', and_true]
    by_cases follows : other = next
    · simp [follows, seated]
    · by_cases left : other = slot
      · simp [left, Ne.symm apart, apart]
      · simp [follows, left, Ne.symm follows]
  case h_2 nobody =>
    simp only [HostedBy, hostFlag_setSeat, nobody]
    by_cases left : other = slot <;> simp [left]

theorem hostedBy_remove_of_not_host (guest : ¬room.HostedBy slot) :
    (room.remove slot).HostedBy other ↔ room.HostedBy other := by
  rw [room.remove_of_not_host slot guest, HostedBy, hostFlag_setSeat]
  split
  case isTrue left =>
    subst left
    simp [guest]
  case isFalse => rfl

theorem hostedBy_setHost_of_seated (seated : (room.player? slot).isSome = true) :
    (room.setHost slot).HostedBy other ↔ other = slot := by
  rw [setHost, if_pos seated, HostedBy, hostFlag_mapSeats]
  cases held : room.player? other with
  | some player => simp
  | none =>
      refine iff_of_false (by simp) ?_
      rintro rfl
      simp [held] at seated

theorem setHost_of_vacant (vacant : room.player? slot = none) : room.setHost slot = room := by
  rw [setHost, vacant]
  rfl

/-! ## What every operation keeps -/

theorem hasOneHostAtMost_empty (roomId : String) : (empty roomId).HasOneHostAtMost := by
  intro first second firstHosted
  have vacant := count_eq_zero_iff.mp (count_empty roomId) first
  exact absurd (vacant.symm.trans firstHosted) nofun

theorem hasOneHostAtMost_of_iff {only : Slot} (hosted : ∀ slot, room.HostedBy slot ↔ slot = only) :
    room.HasOneHostAtMost := by
  intro first second firstHosted secondHosted
  rw [(hosted first).mp firstHosted, (hosted second).mp secondHosted]

namespace HasOneHostAtMost

theorem hostedBy_iff (unique : room.HasOneHostAtMost) {host : Slot}
    (hosted : room.HostedBy host) : room.HostedBy slot ↔ slot = host :=
  ⟨fun slotHosted => unique slot host slotHosted hosted, fun same => same ▸ hosted⟩

theorem host?_eq_some_iff (unique : room.HasOneHostAtMost) :
    room.host? = some slot ↔ room.HostedBy slot := by
  refine ⟨hostedBy_of_host?, fun hosted => ?_⟩
  rcases Option.isSome_iff_exists.mp (host?_isSome_iff.mpr ⟨slot, hosted⟩) with ⟨other, named⟩
  rw [named, (unique.hostedBy_iff hosted).mp (hostedBy_of_host? named)]

/-- An operation that makes nobody host keeps the invariant. -/
theorem of_hostedBy {after : Room} (unique : room.HasOneHostAtMost)
    (kept : ∀ slot, after.HostedBy slot → room.HostedBy slot) : after.HasOneHostAtMost :=
  fun first second firstHosted secondHosted =>
    unique first second (kept first firstHosted) (kept second secondHosted)

theorem seat (unique : room.HasOneHostAtMost) (slot : Slot) (userId displayName : String) :
    (room.seat slot userId displayName).HasOneHostAtMost := by
  intro first second firstHosted secondHosted
  rw [hostedBy_seat_iff] at firstHosted secondHosted
  split at firstHosted <;> split at secondHosted
  case isTrue.isTrue firstHere secondHere => rw [firstHere, secondHere]
  case isTrue.isFalse apart => exact absurd secondHosted (firstHosted.1 second apart)
  case isFalse.isTrue apart _ => exact absurd firstHosted (secondHosted.1 first apart)
  case isFalse.isFalse => exact unique first second firstHosted secondHosted

theorem hostedBy_remove_iff (unique : room.HasOneHostAtMost) (hosted : room.HostedBy slot) :
    (room.remove slot).HostedBy other ↔ room.FollowedBy slot other := by
  rw [hostedBy_remove_of_host hosted]
  -- The flags of the others are not touched, so that only the invariant rules out a second host.
  refine or_iff_left ?_
  rintro ⟨apart, otherHosted⟩
  exact apart (unique other slot otherHosted hosted)

theorem remove (unique : room.HasOneHostAtMost) (slot : Slot) :
    (room.remove slot).HasOneHostAtMost := by
  by_cases hosted : room.HostedBy slot
  · intro first second firstHosted secondHosted
    rw [unique.hostedBy_remove_iff hosted] at firstHosted secondHosted
    exact firstHosted.unique secondHosted
  · exact unique.of_hostedBy fun other => (hostedBy_remove_of_not_host hosted).mp

theorem setHost (unique : room.HasOneHostAtMost) (slot : Slot) :
    (room.setHost slot).HasOneHostAtMost := by
  cases held : room.player? slot with
  | none => rwa [setHost_of_vacant held]
  | some player =>
      have seated : (room.player? slot).isSome = true := by rw [held, Option.isSome_some]
      exact hasOneHostAtMost_of_iff fun _ => hostedBy_setHost_of_seated seated

theorem step (unique : room.HasOneHostAtMost) (call : RoomCall) :
    (room.step call).HasOneHostAtMost := by
  cases call with
  | seat slot userId displayName => exact unique.seat slot userId displayName
  | remove slot => exact unique.remove slot
  | setHost slot => exact unique.setHost slot
  | setReady | applyScores | recordPlacement | startGame | endGame | prepareGame =>
      refine unique.of_hostedBy fun slot => ?_
      simp only [HostedBy, Room.step]
      simp

theorem after (unique : room.HasOneHostAtMost) (calls : List RoomCall) :
    (room.after calls).HasOneHostAtMost := by
  induction calls generalizing room with
  | nil => exact unique
  | cons call rest hypothesis => exact hypothesis (unique.step call)

theorem seat_other (unique : room.HasOneHostAtMost) {host seat : Slot}
    (hosted : room.HostedBy host) (apart : seat ≠ host) (userId displayName : String) :
    (room.seat seat userId displayName).HostedBy slot ↔ slot = host := by
  rw [hostedBy_seat_iff]
  split
  case isTrue here =>
    refine iff_of_false (fun newcomer => ?_) (here ▸ apart)
    exact newcomer.1 host apart.symm hosted
  case isFalse => exact unique.hostedBy_iff hosted

theorem seat_host (unique : room.HasOneHostAtMost) {host : Slot} (hosted : room.HostedBy host)
    (userId displayName : String) :
    (room.seat host userId displayName).HostedBy slot ↔ slot = host := by
  rw [hostedBy_seat_iff]
  split
  case isTrue here =>
    refine iff_of_true ⟨fun rival apart rivalHosted => ?_, .inl hosted⟩ here
    exact apart (unique rival host rivalHosted hosted)
  case isFalse => exact unique.hostedBy_iff hosted

theorem exists_only_of_step (unique : room.HasOneHostAtMost) {host : Slot}
    (hosted : room.HostedBy host) (call : RoomCall) : (room.step call).count = 0 ∨
      ∃ only, ∀ slot, (room.step call).HostedBy slot ↔ slot = only := by
  have hadHost : room.host?.isSome = true := host?_isSome_iff.mpr ⟨host, hosted⟩
  have stillHosted : (room.step call).IsHosted := by
    refine (room.isHosted_step_iff call).mpr ⟨?_, .inr (isHosted_iff.mpr (.inr hadHost))⟩
    exact fun orphaned => count_ne_zero_of_host hadHost orphaned.2.1
  refine (isHosted_iff.mp stillHosted).imp_right fun hasHost => ?_
  rcases host?_isSome_iff.mp hasHost with ⟨only, onlyHosted⟩
  exact ⟨only, fun slot => (unique.step call).hostedBy_iff onlyHosted⟩

end HasOneHostAtMost

theorem player?_seat_host (unique : room.HasOneHostAtMost) {host : Slot}
    (hosted : room.HostedBy host) (userId displayName : String) :
    (room.seat host userId displayName).player? host =
      some (.newcomer userId displayName true) := by
  have flag : (room.seat host userId displayName).HostedBy host :=
    (unique.seat_host hosted userId displayName).mpr rfl
  have seated : ∃ isHost, (room.seat host userId displayName).player? host =
      some (.newcomer userId displayName isHost) :=
    ⟨_, by rw [Room.seat, player?_setSeat, if_pos rfl]⟩
  rcases seated with ⟨isHost, seated⟩
  rw [HostedBy, hostFlag, seated] at flag
  cases Option.some.inj flag
  exact seated

/-- After any calls on a new room there is one host at most, the room keeps its host until nobody is
left, and the role goes to who replaces the host, to the lowest seat when the host leaves, and to
who is named, and to nobody else. -/
theorem host_unique_and_handed_on (roomId : String) (calls : List RoomCall) :
    ((empty roomId).after calls).HandsOnHost := by
  have unique := (hasOneHostAtMost_empty roomId).after calls
  generalize (empty roomId).after calls = room at unique ⊢
  exact {
    unique
    named := fun slot => unique.host?_eq_some_iff
    kept := fun call host hosted => unique.exists_only_of_step hosted call
    seat_host := fun host userId displayName hosted =>
      ⟨player?_seat_host unique hosted userId displayName,
        fun slot => unique.seat_host hosted userId displayName⟩
    remove_host := fun host hosted slot => unique.hostedBy_remove_iff hosted
    seat_other := fun host other userId displayName hosted apart slot =>
      unique.seat_other hosted apart userId displayName
    remove_other := fun host other hosted apart slot => by
      rw [hostedBy_remove_of_not_host (mt (unique.hostedBy_iff hosted).mp apart)]
      exact unique.hostedBy_iff hosted
    setHost_seated := fun named seated slot => hostedBy_setHost_of_seated seated
    setHost_vacant := fun named vacant => setHost_of_vacant vacant }

theorem host_handed_on_in_game :
    let room := (empty "room").after
      [.seat ⟨2⟩ "ada" "Ada", .seat ⟨3⟩ "bea" "Bea", .seat ⟨1⟩ "cid" "Cid", .startGame]
    room.HostedBy ⟨2⟩ ∧ room.FollowedBy ⟨2⟩ ⟨1⟩ ∧ (room.remove ⟨2⟩).HostedBy ⟨1⟩ ∧
      (room.seat ⟨2⟩ "dan" "Dan").HostedBy ⟨2⟩ := by
  intro room
  have handsOn : room.HandsOnHost := host_unique_and_handed_on "room" _
  have hosted : room.HostedBy ⟨2⟩ := by decide
  have followed : room.FollowedBy ⟨2⟩ ⟨1⟩ := by
    refine ⟨by decide, by decide, ?_⟩
    rintro ⟨index⟩
    revert index
    decide
  refine ⟨hosted, followed, (handsOn.remove_host _ hosted _).mpr followed, ?_⟩
  exact ((handsOn.seat_host _ "dan" "Dan" hosted).2 _).mpr rfl

end Room

end TileMatch
