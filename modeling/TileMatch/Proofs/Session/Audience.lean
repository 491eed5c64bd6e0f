import TileMatch.Proofs.Session.Agreement
import TileMatch.Proofs.Session.Telling

/-!
# What an observer hears

Handles are never given twice, so that whoever is present has a handle alone
(`Audience.IsSound`). An observer that is present from the beginning and listens therefore hears
exactly what the calls of the session tell, in their order, whoever else comes and goes
(`Hall.heard_of_opensWith`). With this, a fact about what observers have been told is a fact about
the history of the session.
-/

namespace TileMatch

namespace Audience

/-- The handles of those present have been given, and each belongs to one observer alone. -/
structure IsSound (audience : Audience) : Prop where
  given : ∀ observer ∈ audience.present, observer.id < audience.nextId
  alone : ∀ observer ∈ audience.present,
    audience.present.filter (·.id == observer.id) = [observer]

variable {audience : Audience} {observer : Observer}

theorem isSound_empty : empty.IsSound :=
  ⟨fun _ impossible => absurd impossible List.not_mem_nil,
    fun _ impossible => absurd impossible List.not_mem_nil⟩

/-- A new observer gets a handle that nobody present has. -/
theorem IsSound.register (sound : audience.IsSound) (silent : Bool) :
    (audience.register silent).1.IsSound := by
  constructor
  · intro observer present
    rcases List.mem_append.mp present with old | new
    · exact Nat.lt_succ_of_lt (sound.given observer old)
    · rw [List.mem_singleton.mp new]
      exact Nat.lt_succ_self _
  · intro observer present
    simp only [Audience.register, List.filter_append]
    rcases List.mem_append.mp present with old | new
    · have apart : audience.nextId ≠ observer.id := Nat.ne_of_gt (sound.given observer old)
      simp [sound.alone observer old, apart]
    · rw [List.mem_singleton.mp new]
      have unused : audience.present.filter (·.id == audience.nextId) = [] := by
        rw [List.filter_eq_nil_iff]
        intro other old
        simpa using Nat.ne_of_lt (sound.given other old)
      simp [unused]

/-- Among some of those present, too, an observer is alone with its handle. -/
theorem IsSound.filter_filter (sound : audience.IsSound) (present : observer ∈ audience.present)
    (keep : Observer → Bool) :
    (audience.present.filter keep).filter (·.id == observer.id) = [observer].filter keep := by
  rw [← sound.alone observer present, List.filter_filter, List.filter_filter]
  simp only [Bool.and_comm]

theorem IsSound.unregister (sound : audience.IsSound) (id : ObserverId) :
    (audience.unregister id).1.IsSound := by
  constructor
  · intro observer present
    exact sound.given observer (List.mem_filter.mp present).1
  · intro observer present
    rcases List.mem_filter.mp present with ⟨wasPresent, stays⟩
    refine (sound.filter_filter wasPresent _).trans ?_
    simp [stays]

theorem mem_present_unregister {id : ObserverId} (present : observer ∈ audience.present)
    (other : observer.id ≠ id) : observer ∈ (audience.unregister id).1.present :=
  List.mem_filter.mpr ⟨present, by simpa using other⟩

/-- What is delivered to someone who listens is what the effects tell. -/
theorem IsSound.filter_deliver (sound : audience.IsSound) (present : observer ∈ audience.present)
    (listens : observer.silent = false) (effects : List Effect) :
    ((audience.deliver effects).filter (·.1 == observer.id)).map Prod.snd =
      effects.filterMap Effect.event? := by
  have once (event : UiEvent) :
      ((audience.deliverEvent event).filter (·.1 == observer.id)).map Prod.snd = [event] := by
    simp only [deliverEvent, List.filter_map, Function.comp_def]
    rw [sound.filter_filter present]
    simp [listens]
  simp [deliver, List.filter_flatMap, List.map_flatMap, once]

end Audience

/-- The call of the session that a call of the hall makes, if it makes one. -/
def HallCall.session? : HallCall → Option Call
  | session call => some call
  | _ => none

namespace Hall

/-- What an observer is told by one call. -/
def hears (hall : Hall) (id : ObserverId) (call : HallCall) : List UiEvent :=
  ((hall.step call).told.filter (·.1 == id)).map Prod.snd

/-- What an observer is told by a list of calls, in order. -/
def heard (hall : Hall) (id : ObserverId) : List HallCall → List UiEvent
  | [] => []
  | call :: rest => hall.hears id call ++ (hall.step call).hall.heard id rest

/-- Observers have come and gone, the session has taken no call yet, and this observer is present
and listens. -/
def OpensWith (hall : Hall) (id : ObserverId) : Prop :=
  ∃ arrivals, (∀ call ∈ arrivals, HallCall.session? call = none) ∧
    hall = (Hall.mk hall.session .empty).after arrivals ∧ ⟨id, false⟩ ∈ hall.audience.present

/-- Someone who listens is present, alone with the handle. -/
def Attends (hall : Hall) (id : ObserverId) : Prop :=
  hall.audience.IsSound ∧ ⟨id, false⟩ ∈ hall.audience.present

variable {hall : Hall} {id : ObserverId}

theorem session_after (hall : Hall) (calls : List HallCall) :
    (hall.after calls).session = hall.session.after (calls.filterMap HallCall.session?) := by
  induction calls generalizing hall with
  | nil => rfl
  | cons call rest hypothesis =>
      refine (hypothesis (hall.step call).hall).trans ?_
      cases call <;> rfl

theorem isSound_step (sound : hall.audience.IsSound) (call : HallCall) :
    (hall.step call).hall.audience.IsSound := by
  cases call with
  | session => exact sound
  | register silent => exact sound.register silent
  | unregister id => exact sound.unregister id

theorem isSound_after (sound : hall.audience.IsSound) (calls : List HallCall) :
    (hall.after calls).audience.IsSound := by
  induction calls generalizing hall with
  | nil => exact sound
  | cons call rest hypothesis => exact hypothesis (isSound_step sound call)

/-- Whoever comes first and listens has been there from the beginning. -/
theorem opensWith_first (session : Session) :
    (Hall.mk session (Audience.empty.register false).1).OpensWith 0 :=
  ⟨[.register false], by simp [HallCall.session?], rfl, List.mem_singleton.mpr rfl⟩

theorem attends_of_opensWith (opens : hall.OpensWith id) : hall.Attends id := by
  rcases opens with ⟨arrivals, _, opened, present⟩
  refine ⟨?_, present⟩
  rw [opened]
  exact isSound_after Audience.isSound_empty arrivals

theorem Attends.step (attends : hall.Attends id) {call : HallCall}
    (stays : call ≠ .unregister id) : (hall.step call).hall.Attends id := by
  refine ⟨isSound_step attends.1 call, ?_⟩
  cases call with
  | session => exact attends.2
  | register => exact List.mem_append_left _ attends.2
  | unregister other =>
      apply Audience.mem_present_unregister attends.2
      exact fun same => stays (congrArg HallCall.unregister same.symm)

theorem Attends.after (attends : hall.Attends id) {calls : List HallCall}
    (stays : .unregister id ∉ calls) : (hall.after calls).Attends id := by
  induction calls generalizing hall with
  | nil => exact attends
  | cons call rest hypothesis =>
      simp only [List.mem_cons, not_or] at stays
      exact hypothesis (attends.step (Ne.symm stays.1)) stays.2

/-- Who attends hears what the session tells. -/
theorem Attends.hears (attends : hall.Attends id) (call : Call) :
    hall.hears id (.session call) = Moment.told ⟨hall.session, call⟩ :=
  attends.1.filter_deliver attends.2 rfl _

theorem Attends.heard (attends : hall.Attends id) {calls : List HallCall}
    (stays : .unregister id ∉ calls) :
    hall.heard id calls = hall.session.told (calls.filterMap HallCall.session?) := by
  induction calls generalizing hall with
  | nil => rfl
  | cons call rest hypothesis =>
      simp only [List.mem_cons, not_or] at stays
      have later := hypothesis (attends.step (Ne.symm stays.1)) stays.2
      rw [Hall.heard, later]
      cases call with
      | session call =>
          rw [attends.hears]
          rfl
      | register | unregister => rfl

theorem heard_of_opensWith (opens : hall.OpensWith id) {calls : List HallCall}
    (stays : .unregister id ∉ calls) :
    hall.heard id calls = hall.session.told (calls.filterMap HallCall.session?) :=
  (attends_of_opensWith opens).heard stays

theorem hears_of_opensWith (opens : hall.OpensWith id) {calls : List HallCall}
    (stays : .unregister id ∉ calls) (call : Call) :
    (hall.after calls).hears id (.session call) =
      Moment.told ⟨(hall.after calls).session, call⟩ :=
  ((attends_of_opensWith opens).after stays).hears call

end Hall

end TileMatch
