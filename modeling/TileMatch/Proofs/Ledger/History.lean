import Mathlib.Data.List.Induction
import TileMatch.Proofs.Ledger
import TileMatch.Proofs.Unmended

/-!
# Which requests are begun

A ledger keeps entries that have run out until they are swept or replaced, and it gives up entries
in three ways. What it answers to a request can be said without any of this
(`Ledger.begins_iff_not_outlasted`): the request is refused if an earlier one under its key was
begun, lasts beyond the present and has not been released since. Otherwise it is begun, or its key
would outlast the clock.

Only whether a key is held past the present matters for this. A call that is made by then changes
that for the keys it concerns alone, and a sweep concerns none. The argument needs times that do
not decrease: a sweep at a later time drops what would still have refused a request at an earlier
one.
-/

namespace TileMatch

namespace Ledger

/-- The calls that change a ledger. -/
inductive Call where
  /-- Tries to begin a request. -/
  | request (key : RequestKey) (now : Instant)
  /-- Releases a key, because its request has been answered or by force. -/
  | release (key : RequestKey)
  | releaseAll (operation : Operation) (slot : Slot)
  | sweep (now : Instant)
  | clear
  deriving DecidableEq, Repr

namespace Call

/-- The time at which the call is made, if it depends on it. -/
def time? : Call → Option Instant
  | request _ now | sweep now => some now
  | release _ | releaseAll _ _ | clear => none

/-- The call releases a key. -/
def Releases (key : RequestKey) : Call → Prop
  | release released => key = released
  | releaseAll operation slot => key.operation = operation ∧ key.slot = slot
  | clear => True
  | request _ _ | sweep _ => False

/-- The call requests a key or releases it. -/
def Concerns (key : RequestKey) : Call → Prop
  | request requested _ => key = requested
  | call => call.Releases key

instance (key : RequestKey) : DecidablePred (Releases key)
  | request _ _ | sweep _ => .isFalse id
  | release _ => inferInstanceAs (Decidable (_ = _))
  | releaseAll _ _ => inferInstanceAs (Decidable (_ ∧ _))
  | clear => .isTrue trivial

instance (key : RequestKey) : DecidablePred (Concerns key)
  | request _ _ => inferInstanceAs (Decidable (_ = _))
  | sweep _ => .isFalse id
  | release _ => inferInstanceAs (Decidable (_ = _))
  | releaseAll _ _ => inferInstanceAs (Decidable (_ ∧ _))
  | clear => .isTrue trivial

theorem concerns_iff {key : RequestKey} {call : Call} :
    call.Concerns key ↔ call.Releases key ∨ ∃ now, call = request key now := by
  cases call <;> simp [Concerns, Releases, eq_comm]

end Call

/-- Makes one call. A request that is not begun changes nothing. -/
def apply (ledger : Ledger) : Call → Ledger
  | .request key now =>
    match ledger.attempt key now with
    | .begun after => after
    | .refused | .panicked => ledger
  | .release key => ledger.release key
  | .releaseAll operation slot => ledger.releaseAll operation slot
  | .sweep now => ledger.sweep now
  | .clear => ledger.clear

/-- The ledger after a list of calls. -/
def after (ledger : Ledger) (calls : List Call) : Ledger := calls.foldl apply ledger

/-- A call together with the ledger in which it is made. -/
structure Occasion where
  before : Ledger
  call : Call

/-- The occasions of a list of calls. -/
def history (ledger : Ledger) : List Call → List Occasion
  | [] => []
  | call :: rest => ⟨ledger, call⟩ :: (ledger.apply call).history rest

/-- The call begins a request of the key that lasts beyond an instant. -/
def Occasion.Outlasts (key : RequestKey) (now : Instant) (occasion : Occasion) : Prop :=
  ∃ start, occasion.call = .request key start ∧
    (occasion.before.attempt key start).answer? = some true ∧
      now < start + occasion.before.lifetime

/-- The call releases the key. -/
def Occasion.Releases (key : RequestKey) (occasion : Occasion) : Prop := occasion.call.Releases key

variable (ledger : Ledger)

@[simp]
theorem after_snoc (past : List Call) (call : Call) :
    ledger.after (past ++ [call]) = (ledger.after past).apply call := by
  simp [after]

@[simp]
theorem history_snoc (past : List Call) (call : Call) :
    ledger.history (past ++ [call]) = ledger.history past ++ [⟨ledger.after past, call⟩] := by
  induction past generalizing ledger with
  | nil => rfl
  | cons first rest hypothesis => exact congrArg _ (hypothesis (ledger.apply first))

/-- A request that is begun holds its key for a lifetime, and another one changes nothing. -/
theorem apply_request (key : RequestKey) (now : Instant) : ledger.apply (.request key now) =
    if (ledger.attempt key now).answer? = some true then
      ledger.hold key (now + ledger.lifetime)
    else ledger := by
  rw [apply, attempt]
  by_cases blocked : ledger.blocks key now = true
  · simp [blocked, Attempt.answer?]
  · by_cases lasts : now + ledger.lifetime < Instant.limit <;>
      simp [blocked, Instant.after?, lasts, Attempt.answer?]

theorem lifetime_apply (call : Call) : (ledger.apply call).lifetime = ledger.lifetime := by
  cases call with
  | request key now =>
      rw [apply_request]
      split <;> rfl
  | _ => rfl

@[simp]
theorem lifetime_after (calls : List Call) : (ledger.after calls).lifetime = ledger.lifetime := by
  induction calls generalizing ledger with
  | nil => rfl
  | cons call rest hypothesis => exact (hypothesis _).trans (ledger.lifetime_apply call)

/-! ## One call -/

variable {key : RequestKey} {start now : Instant}

theorem blocks_iff : ledger.blocks key now = true ↔
    ∃ expiry, ledger.expiry? key = some expiry ∧ now < expiry := by
  cases held : ledger.expiry? key <;> simp [blocks, held]

/-- What refuses a request refuses it at an earlier time as well. -/
theorem blocks_of_le {ledger : Ledger} (blocked : ledger.blocks key now = true)
    (earlier : start ≤ now) : ledger.blocks key start = true := by
  rw [blocks_iff] at blocked ⊢
  rcases blocked with ⟨expiry, held, ahead⟩
  exact ⟨expiry, held, Nat.lt_of_le_of_lt earlier ahead⟩

/-- What an attempt is answered depends on its key, if it is held, and on the clock. -/
theorem answer?_attempt : (ledger.attempt key now).answer? =
    if ledger.blocks key now = true then some false
    else if now + ledger.lifetime < Instant.limit then some true else none := by
  rw [attempt]
  split
  · rfl
  · by_cases lasts : now + ledger.lifetime < Instant.limit <;>
      simp [Instant.after?, lasts, Attempt.answer?]

/-- A call that does not concern a key leaves it held, or not held, past any later instant. -/
theorem blocks_apply_of_not_concerns {call : Call} (apart : ¬call.Concerns key)
    (made : ∀ time ∈ call.time?, time ≤ now) :
    (ledger.apply call).blocks key now = ledger.blocks key now := by
  cases call with
  | request requested start =>
      have other : key ≠ requested := apart
      rw [apply_request]
      split
      · simp only [blocks, expiry?_hold, if_neg other]
      · rfl
  | release released =>
      have other : key ≠ released := apart
      simp only [apply, blocks, expiry?_release, if_neg other]
  | releaseAll operation slot =>
      have other : ¬(key.operation = operation ∧ key.slot = slot) := apart
      simp only [apply, blocks, expiry?_releaseAll, if_neg other]
  | sweep swept =>
      have earlier : swept ≤ now := made swept rfl
      simp only [apply, blocks, expiry?_sweep]
      cases ledger.expiry? key with
      | none => rfl
      | some expiry =>
          by_cases ahead : now < expiry
          · simp [Option.filter, ahead, Nat.lt_of_le_of_lt earlier ahead]
          · by_cases kept : swept < expiry <;> simp [Option.filter, ahead, kept]
  | clear => exact absurd trivial apart

theorem blocks_apply_of_releases {call : Call} (releases : call.Releases key) :
    (ledger.apply call).blocks key now = false := by
  cases call with
  | release released =>
      have same : key = released := releases
      simp only [apply, blocks, expiry?_release, if_pos same, Option.any_none]
  | releaseAll operation slot =>
      have same : key.operation = operation ∧ key.slot = slot := releases
      simp only [apply, blocks, expiry?_releaseAll, if_pos same, Option.any_none]
  | clear => rfl
  | request | sweep => exact releases.elim

/-- A request that is not begun leaves its key held as it was. One that is begun holds it for a
lifetime. -/
theorem blocks_apply_request : (ledger.apply (.request key start)).blocks key now =
    if (ledger.attempt key start).answer? = some true then decide (now < start + ledger.lifetime)
    else ledger.blocks key now := by
  rw [apply_request]
  split
  · simp [blocks, expiry?_hold]
  · rfl

/-! ## All calls -/

variable (lifetime : Duration)

/-- A key is held past an instant by which all calls have been made if a request of it was begun
that lasts so long and has not been released since. -/
theorem blocks_after_iff {past : List Call}
    (made : ∀ time ∈ past.filterMap Call.time?, time ≤ now) :
    ((empty lifetime).after past).blocks key now = true ↔
      Unmended (Occasion.Outlasts key now) (Occasion.Releases key)
        ((empty lifetime).history past) := by
  induction past using List.reverseRecOn with
  | nil => exact iff_of_false Bool.false_ne_true Unmended.not_nil
  | append_singleton past call hypothesis =>
      simp only [List.filterMap_append, List.mem_append, or_imp, forall_and] at made
      rcases made with ⟨pastMade, callMade⟩
      have earlier := hypothesis pastMade
      rw [history_snoc, Unmended.snoc_iff, after_snoc, ← earlier]
      generalize (empty lifetime).after past = ledger
      simp only [Occasion.Outlasts, Occasion.Releases]
      by_cases concerns : call.Concerns key
      · rcases Call.concerns_iff.mp concerns with releases | ⟨start, rfl⟩
        · have noRequest : ∀ start, call ≠ .request key start := by
            rintro start rfl
            exact releases
          rw [ledger.blocks_apply_of_releases releases]
          simp [noRequest, releases]
        · have begunBefore : start ≤ now := callMade start (by simp [Call.time?])
          rw [blocks_apply_request]
          by_cases begun : (ledger.attempt key start).answer? = some true
          · -- What lasts beyond the present would have refused this request.
            have free : ledger.blocks key now = false := by
              rw [Bool.eq_false_iff]
              intro held
              simp [answer?_attempt, blocks_of_le held begunBefore] at begun
            simp [free, begun]
          · simp [begun, Call.Releases]
      · rw [ledger.blocks_apply_of_not_concerns concerns (by simpa using callMade)]
        rw [Call.concerns_iff, not_or, not_exists] at concerns
        simp [concerns]

/-- Calls that do not concern a key may be left out. -/
theorem blocks_after_filter {past : List Call}
    (ordered : (past.filterMap Call.time?).Pairwise (· ≤ ·))
    (made : ∀ time ∈ past.filterMap Call.time?, time ≤ now) :
    ((empty lifetime).after (past.filter (·.Concerns key))).blocks key now =
      ((empty lifetime).after past).blocks key now := by
  induction past using List.reverseRecOn generalizing now with
  | nil => rfl
  | append_singleton past call hypothesis =>
      simp only [List.filterMap_append, List.mem_append, or_imp, forall_and] at made
      rw [List.filterMap_append, List.pairwise_append] at ordered
      rcases made with ⟨pastMade, callMade⟩
      rcases ordered with ⟨pastOrdered, _, pastBefore⟩
      have same := hypothesis pastOrdered pastMade
      by_cases concerns : call.Concerns key
      · have kept : (past ++ [call]).filter (·.Concerns key) =
            past.filter (·.Concerns key) ++ [call] := by simp [concerns]
        rw [kept, after_snoc, after_snoc]
        rcases Call.concerns_iff.mp concerns with releases | ⟨start, rfl⟩
        · rw [blocks_apply_of_releases _ releases, blocks_apply_of_releases _ releases]
        · have sameThen : ((empty lifetime).after (past.filter (·.Concerns key))).blocks key start =
              ((empty lifetime).after past).blocks key start :=
            hypothesis pastOrdered fun time time_mem =>
              pastBefore time time_mem start (by simp [Call.time?])
          simp only [blocks_apply_request, answer?_attempt, same, sameThen, lifetime_after]
      · have dropped : (past ++ [call]).filter (·.Concerns key) =
            past.filter (·.Concerns key) := by simp [concerns]
        rw [dropped, after_snoc,
          blocks_apply_of_not_concerns _ concerns (by simpa using callMade), same]

/-- For calls of a ledger that begins empty, at times that do not decrease: a request is refused
exactly if an earlier one under its key was begun that lasts beyond now and has not been released
since. Another one is begun if the clock goes as far as its key lasts, and panics if it does not. So
two pasts that agree on the calls which concern the key lead to the same answer, whatever sweeps and
calls about other keys they contain. -/
theorem begins_iff_not_outlasted {calls past later : List Call}
    (split : calls = past ++ .request key now :: later)
    (ordered : (calls.filterMap Call.time?).Pairwise (· ≤ ·)) :
    let answer? := (((empty lifetime).after past).attempt key now).answer?
    let outlasted := Unmended (Occasion.Outlasts key now) (Occasion.Releases key)
      ((empty lifetime).history past)
    (answer? = some false ↔ outlasted) ∧
    (answer? = some true ↔ ¬outlasted ∧ now + lifetime < Instant.limit) ∧
    (answer? = none ↔ ¬outlasted ∧ Instant.limit ≤ now + lifetime) ∧
    ∀ other, ((other ++ [.request key now]).filterMap Call.time?).Pairwise (· ≤ ·) →
      other.filter (·.Concerns key) = past.filter (·.Concerns key) →
        (((empty lifetime).after other).attempt key now).answer? = answer? := by
  have made {before after : List Call}
      (ordered : ((before ++ .request key now :: after).filterMap Call.time?).Pairwise (· ≤ ·)) :
      (before.filterMap Call.time?).Pairwise (· ≤ ·) ∧
        ∀ time ∈ before.filterMap Call.time?, time ≤ now := by
    rw [List.filterMap_append, List.pairwise_append] at ordered
    exact ⟨ordered.1, fun time time_mem => ordered.2.2 time time_mem now (by simp [Call.time?])⟩
  intro answer? outlasted
  rw [split] at ordered
  rcases made ordered with ⟨pastOrdered, pastMade⟩
  have blocked : ((empty lifetime).after past).blocks key now = true ↔ outlasted :=
    blocks_after_iff lifetime pastMade
  have answered : answer? = if ((empty lifetime).after past).blocks key now = true then some false
      else if now + lifetime < Instant.limit then some true else none := by
    simp only [answer?, answer?_attempt, lifetime_after]
    rfl
  rw [← blocked, answered, ← Nat.not_lt]
  refine ⟨?_, ?_, ?_, ?_⟩
  · split <;> simp_all
  · split <;> simp_all
  · split <;> simp_all
  · intro other otherOrdered agree
    rcases made otherOrdered with ⟨otherOrdered, otherMade⟩
    rw [answer?_attempt, ← blocks_after_filter lifetime otherOrdered otherMade, agree,
      blocks_after_filter lifetime pastOrdered pastMade, lifetime_after]
    rfl

/-- A snapshot is asked for, and then the time goes on for a while. -/
def askedOnce : List Call :=
  [.request (.resync ⟨0⟩) 0, .sweep 4, .request (.pass ⟨0⟩) 5, .release (.pass ⟨0⟩)]

theorem askedOnce_refuses :
    (((empty 10).after askedOnce).attempt (.resync ⟨0⟩) 9).answer? = some false ∧
    Unmended (Occasion.Outlasts (.resync ⟨0⟩) 9) (Occasion.Releases (.resync ⟨0⟩))
      ((empty 10).history askedOnce) ∧
    (((empty 10).after [.request (.resync ⟨0⟩) 0]).attempt (.resync ⟨0⟩) 9).answer? =
      some false := by
  have split : askedOnce ++ [.request (.resync ⟨0⟩) 9] = askedOnce ++ [_] := rfl
  have law := begins_iff_not_outlasted 10 split (by decide)
  have refused : (((empty 10).after askedOnce).attempt (.resync ⟨0⟩) 9).answer? = some false := by
    decide
  exact ⟨refused, law.1.mp refused,
    (law.2.2.2 [.request (.resync ⟨0⟩) 0] (by decide) (by decide)).trans refused⟩

/-- With a lifetime that is longer than the clock not even the first request is begun. -/
theorem first_request_panics :
    ¬Unmended (Occasion.Outlasts (.pass ⟨0⟩) 0) (Occasion.Releases (.pass ⟨0⟩))
      ((empty (.ofSeconds 9999999980506447872)).history []) ∧
    (((empty (.ofSeconds 9999999980506447872)).after []).attempt (.pass ⟨0⟩) 0).answer? = none :=
  ⟨Unmended.not_nil, by decide +kernel⟩

end Ledger

end TileMatch
