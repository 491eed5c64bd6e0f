import TileMatch.Duration
import TileMatch.Piece
import TileMatch.Slot

/-!
# Requests in flight

Every outgoing request has a `RequestKey`. The `Ledger` holds the keys of requests that wait for an
answer, each until an instant, and refuses to begin a request whose key it holds past the present.
A key is released by the answer and otherwise runs out, so a lost answer never blocks a request for
ever. `Ledger.expiry?` is the view of a ledger: what it holds for a key.

A key lasts for as long as is configured, which may be longer than the clock goes. Then a program
cannot say when the key runs out, and an `Attempt` to begin a request ends it. `Ledger.begin?` is
what becomes of the attempt otherwise.
-/

namespace TileMatch

/-- The kinds of requests. -/
inductive Operation where
  | placement
  | pass
  | resync
  deriving DecidableEq, Repr

namespace Operation

/-- Every kind of request. -/
def all : List Operation := [placement, pass, resync]

end Operation

/-- What makes two requests the same: kind and seat, and for a placement its anchor and piece. -/
structure RequestKey where
  operation : Operation
  slot : Slot
  anchor : Option Position
  piece : Option Piece
  deriving DecidableEq, Repr

namespace RequestKey

/-- The key of a placement. -/
def placement (slot : Slot) (anchor : Position) (piece : Piece) : RequestKey :=
  ⟨.placement, slot, some anchor, some piece⟩

/-- The key of a pass. -/
def pass (slot : Slot) : RequestKey := ⟨.pass, slot, none, none⟩

/-- The key of a request for a full snapshot. -/
def resync (slot : Slot) : RequestKey := ⟨.resync, slot, none, none⟩

end RequestKey

/-- The keys in flight with the instants at which they run out, and the time that a key lasts. No
key is held twice. -/
structure Ledger where
  lifetime : Duration
  entries : List (RequestKey × Instant)
  nodup : (entries.map Prod.fst).Nodup
  deriving DecidableEq

namespace Ledger

/-- How long a key lasts unless configured otherwise. -/
def defaultLifetime : Duration := .ofSeconds 10

/-- A ledger without keys. -/
def empty (lifetime : Duration) : Ledger := ⟨lifetime, [], List.nodup_nil⟩

/-- The instant at which a held key runs out, passed or not. -/
def expiry? (ledger : Ledger) (key : RequestKey) : Option Instant := ledger.entries.lookup key

/-- Whether a key is held, run out or not. -/
def holds (ledger : Ledger) (key : RequestKey) : Bool := (ledger.expiry? key).isSome

/-- The number of keys held. -/
def size (ledger : Ledger) : Nat := ledger.entries.length

/-- The ledger with the entries of a given property. -/
def filter (ledger : Ledger) (keep : RequestKey × Instant → Bool) : Ledger :=
  ⟨ledger.lifetime, ledger.entries.filter keep,
    List.Pairwise.sublist (List.filter_sublist.map _) ledger.nodup⟩

/-- Among entries with distinct keys, dropping some of them drops what they say of their keys. -/
theorem lookup_filter {entries : List (RequestKey × Instant)}
    (distinct : (entries.map Prod.fst).Nodup) (keep : RequestKey × Instant → Bool)
    (key : RequestKey) :
    (entries.filter keep).lookup key =
      (entries.lookup key).filter fun expiry => keep (key, expiry) := by
  induction entries with
  | nil => rfl
  | cons entry rest hypothesis =>
    obtain ⟨held, expiry⟩ := entry
    simp only [List.map_cons, List.nodup_cons] at distinct
    have later := hypothesis distinct.2
    by_cases same : key = held
    · subst same
      have absent : rest.lookup key = none := by
        rw [List.lookup_eq_none_iff]
        intro other other_mem
        rw [bne_iff_ne]
        exact fun equal => distinct.1 (equal ▸ List.mem_map_of_mem other_mem)
      rw [absent] at later
      by_cases kept : keep (key, expiry) = true
      · simp [kept, Option.filter]
      · simp [kept, Option.filter, later]
    · have different : (key == held) = false := by simpa using same
      by_cases kept : keep (held, expiry) = true
      · simp [kept, List.lookup_cons, different, later]
      · simp [kept, List.lookup_cons, different, later]

@[simp]
theorem expiry?_empty (lifetime : Duration) (key : RequestKey) :
    (empty lifetime).expiry? key = none := rfl

theorem expiry?_filter (ledger : Ledger) (keep : RequestKey × Instant → Bool) (key : RequestKey) :
    (ledger.filter keep).expiry? key =
      (ledger.expiry? key).filter fun expiry => keep (key, expiry) :=
  lookup_filter ledger.nodup keep key

/-- Releases a key. -/
def release (ledger : Ledger) (key : RequestKey) : Ledger := ledger.filter (·.1 != key)

/-- Releases all keys of one kind and seat. -/
def releaseAll (ledger : Ledger) (operation : Operation) (slot : Slot) : Ledger :=
  ledger.filter fun entry => !(entry.1.operation == operation && entry.1.slot == slot)

/-- Drops the keys that have run out. -/
def sweep (ledger : Ledger) (now : Instant) : Ledger := ledger.filter fun entry => now < entry.2

theorem expiry?_release (ledger : Ledger) (released key : RequestKey) :
    (ledger.release released).expiry? key =
      if key = released then none else ledger.expiry? key := by
  rw [release, expiry?_filter]
  by_cases same : key = released
  · simp [same]
  · cases ledger.expiry? key <;> simp [Option.filter, same]

theorem expiry?_releaseAll (ledger : Ledger) (operation : Operation) (slot : Slot)
    (key : RequestKey) :
    (ledger.releaseAll operation slot).expiry? key =
      if key.operation = operation ∧ key.slot = slot then none else ledger.expiry? key := by
  rw [releaseAll, expiry?_filter]
  by_cases same : key.operation = operation ∧ key.slot = slot
  · simp [same]
  · rw [if_neg same]
    cases ledger.expiry? key <;> simp_all [Option.filter]

theorem expiry?_sweep (ledger : Ledger) (now : Instant) (key : RequestKey) :
    (ledger.sweep now).expiry? key = (ledger.expiry? key).filter fun expiry => now < expiry := by
  rw [sweep, expiry?_filter]

/-- Releases every key. -/
def clear (ledger : Ledger) : Ledger := empty ledger.lifetime

/-- Holds a key until an instant, in place of any earlier entry for it. -/
def hold (ledger : Ledger) (key : RequestKey) (expiry : Instant) : Ledger :=
  ⟨ledger.lifetime, (key, expiry) :: (ledger.release key).entries, by
    simp only [List.map_cons, List.nodup_cons]
    refine ⟨?_, (ledger.release key).nodup⟩
    simp [release, filter]⟩

@[simp]
theorem expiry?_clear (ledger : Ledger) (key : RequestKey) : ledger.clear.expiry? key = none := rfl

theorem expiry?_hold (ledger : Ledger) (held : RequestKey) (expiry : Instant) (key : RequestKey) :
    (ledger.hold held expiry).expiry? key =
      if key = held then some expiry else ledger.expiry? key := by
  by_cases same : key = held
  · subst same
    simp [hold, expiry?]
  · have different : (key == held) = false := by simpa using same
    have released := expiry?_release ledger held key
    simp only [same, if_false, expiry?] at released
    simp [hold, expiry?, List.lookup_cons, different, same, released]

/-- Whether a key is held past an instant. -/
def blocks (ledger : Ledger) (key : RequestKey) (now : Instant) : Bool :=
  (ledger.expiry? key).any (now < ·)

/-- What an attempt to begin a request comes to. -/
inductive Attempt where
  /-- The key is already held. -/
  | refused
  /-- The key is held from now on. -/
  | begun (ledger : Ledger)
  /-- The clock does not go so far as the key would have to be held. -/
  | panicked
  deriving DecidableEq

/-- Tries to begin a request: holds its key for a lifetime from now, unless it is held past now. -/
def attempt (ledger : Ledger) (key : RequestKey) (now : Instant) : Attempt :=
  if ledger.blocks key now then .refused
  else
    match Instant.after? now ledger.lifetime with
    | some expiry => .begun (ledger.hold key expiry)
    | none => .panicked

/-- Whether the request is begun, if the attempt comes to an answer. -/
def Attempt.answer? : Attempt → Option Bool
  | begun _ => some true
  | refused => some false
  | panicked => none

/-- Whether an attempt to begin a request panics. -/
def panics (ledger : Ledger) (key : RequestKey) (now : Instant) : Bool :=
  ledger.attempt key now = .panicked

/-- Begins a request on a clock that goes as far as is needed: holds its key for a lifetime from
now, unless it is held past now. -/
def begin? (ledger : Ledger) (key : RequestKey) (now : Instant) : Option Ledger :=
  if ledger.blocks key now then none else some (ledger.hold key (now + ledger.lifetime))

/-- An attempt comes to what it would on an endless clock, unless the key outlasts the real one. -/
theorem attempt_eq (ledger : Ledger) (key : RequestKey) (now : Instant) :
    ledger.attempt key now =
      match ledger.begin? key now with
      | none => .refused
      | some after =>
        if now + ledger.lifetime < Instant.limit then .begun after else .panicked := by
  by_cases blocked : ledger.blocks key now = true
  · simp [attempt, begin?, blocked]
  · by_cases lasts : now + ledger.lifetime < Instant.limit <;>
      simp [attempt, begin?, Instant.after?, blocked, lasts]

theorem begin?_isSome (ledger : Ledger) (key : RequestKey) (now : Instant) :
    (ledger.begin? key now).isSome = !ledger.blocks key now := by
  unfold begin?
  split <;> simp_all

end Ledger

end TileMatch
