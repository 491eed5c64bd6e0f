import Mathlib.Data.List.Induction
import TileMatch.Proofs.Session.Audience

/-!
# Observers that come and go

In the course of a run observers come and go between the calls of the session. A `Stay` is one
observer of the run: the calls before it comes, those while it is there, and those from its removal
on. Handles are given in increasing order, so that none is given twice, and those present after a
run are the observers whose stay has not ended (`Hall.mem_present_iff`).

What an observer hears is decided by the calls of the session during its stay
(`Hall.Stay.heard_eq`): it is one stretch of all that the session emits. What is emitted, in turn,
is decided by the calls of the session alone, so that observers do not affect one another.
-/

namespace TileMatch

theorem filter_not_eq_eraseP {α : Type} {wanted : α → Bool} {list : List α}
    (once : (list.filter wanted).length ≤ 1) :
    (list.filter fun entry => !wanted entry) = list.eraseP wanted := by
  induction list with
  | nil => rfl
  | cons entry rest hypothesis =>
      cases isWanted : wanted entry with
      | true =>
          rw [List.filter_cons_of_pos isWanted, List.length_cons, Nat.succ_le_succ_iff, Nat.le_zero,
            List.length_eq_zero_iff, List.filter_eq_nil_iff] at once
          rw [List.filter_cons_of_neg (by simp [isWanted]), List.eraseP_cons_of_pos isWanted,
            List.filter_eq_self]
          intro other mem
          simpa using once other mem
      | false =>
          rw [List.filter_cons_of_neg (by simp [isWanted])] at once
          rw [List.filter_cons_of_pos (by simp [isWanted]),
            List.eraseP_cons_of_neg (by simp [isWanted]), hypothesis once]

namespace Audience

variable {audience : Audience} {observer : Observer} {id : ObserverId}

/-- Nobody who listens has a handle. -/
def IsDeafAt (audience : Audience) (id : ObserverId) : Prop :=
  ∀ observer ∈ audience.present, observer.id = id → observer.silent = true

theorem IsDeafAt.filter_deliver (deaf : audience.IsDeafAt id) (effects : List Effect) :
    (audience.deliver effects).filter (·.1 == id) = [] := by
  rw [List.filter_eq_nil_iff]
  intro delivery mem same
  simp only [deliver, deliverEvent, List.mem_flatMap, List.mem_map, List.mem_filter,
    Bool.not_eq_true'] at mem
  obtain ⟨_, _, observer, ⟨present, listens⟩, rfl⟩ := mem
  rw [deaf observer present (beq_iff_eq.mp same)] at listens
  cases listens

theorem IsSound.filter_of_mem (sound : audience.IsSound) (present : observer ∈ audience.present)
    (own : observer.id = id) : audience.present.filter (·.id == id) = [observer] :=
  own ▸ sound.alone observer present

/-- Whoever is present is found by its handle. -/
theorem IsSound.find?_eq_some_iff (sound : audience.IsSound) :
    audience.present.find? (·.id == id) = some observer ↔
      observer.id = id ∧ observer ∈ audience.present := by
  constructor
  · intro found
    have own : (observer.id == id) = true :=
      @List.find?_some _ (fun observer : Observer => observer.id == id) _ _ found
    exact ⟨beq_iff_eq.mp own, List.mem_of_find?_eq_some found⟩
  · rintro ⟨own, present⟩
    rw [← List.head?_filter, sound.filter_of_mem present own, List.head?_cons]

/-- Handles belong to one observer alone, so that nobody goes but the first that has the handle. -/
theorem IsSound.present_unregister (sound : audience.IsSound) (id : ObserverId) :
    (audience.unregister id).1.present = audience.present.eraseP (·.id == id) := by
  refine filter_not_eq_eraseP ?_
  cases found : audience.present.find? (·.id == id) with
  | some observer =>
      obtain ⟨own, present⟩ := sound.find?_eq_some_iff.mp found
      exact Nat.le_of_eq (congrArg List.length (sound.filter_of_mem present own))
  | none =>
      rw [List.filter_eq_nil_iff.mpr (List.find?_eq_none.mp found)]
      exact Nat.zero_le _

end Audience

namespace HallAnswer

/-- The handle that is given. -/
def given? : HallAnswer → Option ObserverId
  | registered id => some id
  | _ => none

/-- The observer that is given back. -/
def returned? : HallAnswer → Option Observer
  | unregistered observer => observer
  | _ => none

/-- What the session answers. -/
def session? : HallAnswer → Option Answer
  | session answer => some answer
  | _ => none

end HallAnswer

namespace Session

theorem told_append (session : Session) (calls later : List Call) :
    session.told (calls ++ later) = session.told calls ++ (session.after calls).told later := by
  induction calls generalizing session with
  | nil => rfl
  | cons call rest hypothesis =>
      have joint := hypothesis (session.step call).session
      simp only [told, List.cons_append, history, List.flatMap_cons, List.append_assoc] at joint ⊢
      rw [joint, after_cons]

end Session

namespace Hall

/-- The hall of a session that nobody watches yet. -/
def opening (session : Session) : Hall := ⟨session, .empty⟩

/-- What calls answer, in order. -/
def answers (hall : Hall) : List HallCall → List HallAnswer
  | [] => []
  | call :: rest => (hall.step call).answer :: (hall.step call).hall.answers rest

/-- The requests that calls send, in order. -/
def sent (hall : Hall) : List HallCall → List OutboundRequest
  | [] => []
  | call :: rest => (hall.step call).sent ++ (hall.step call).hall.sent rest

/-- What the session emits in the course of calls, in order. -/
def emitted (hall : Hall) (calls : List HallCall) : List UiEvent :=
  hall.session.told (calls.filterMap HallCall.session?)

/-- The handles that calls give, in order. -/
def given (hall : Hall) (calls : List HallCall) : List ObserverId :=
  (hall.answers calls).filterMap HallAnswer.given?

/-- The observers that calls give back, in order. -/
def returned (hall : Hall) (calls : List HallCall) : List Observer :=
  (hall.answers calls).filterMap HallAnswer.returned?

variable {hall : Hall} {session : Session} {observer : Observer} {id : ObserverId}
  {calls : List HallCall}

/-! ## Runs in parts -/

theorem after_append (hall : Hall) (calls later : List HallCall) :
    hall.after (calls ++ later) = (hall.after calls).after later := List.foldl_append

theorem heard_append (hall : Hall) (id : ObserverId) (calls later : List HallCall) :
    hall.heard id (calls ++ later) = hall.heard id calls ++ (hall.after calls).heard id later := by
  induction calls generalizing hall with
  | nil => rfl
  | cons call rest hypothesis =>
      rw [List.cons_append, heard, hypothesis, heard, List.append_assoc]
      rfl

theorem emitted_append (hall : Hall) (calls later : List HallCall) :
    hall.emitted (calls ++ later) = hall.emitted calls ++ (hall.after calls).emitted later := by
  rw [emitted, List.filterMap_append, Session.told_append, emitted, emitted, session_after]

/-! ## Handles -/

theorem mem_given_cons {call : HallCall} : id ∈ hall.given (call :: calls) ↔
    (hall.step call).answer.given? = some id ∨ id ∈ (hall.step call).hall.given calls := by
  simp [given, answers]

theorem nextId_le_after (hall : Hall) (calls : List HallCall) :
    hall.audience.nextId ≤ (hall.after calls).audience.nextId := by
  induction calls generalizing hall with
  | nil => exact Nat.le_refl _
  | cons call rest hypothesis =>
      refine Nat.le_trans ?_ (hypothesis (hall.step call).hall)
      cases call with
      | register => exact Nat.le_succ _
      | session | unregister => exact Nat.le_refl _

/-- The handles that calls give are new. -/
theorem mem_given (given : id ∈ hall.given calls) :
    hall.audience.nextId ≤ id ∧ id < (hall.after calls).audience.nextId := by
  induction calls generalizing hall with
  | nil => cases given
  | cons call rest hypothesis =>
      cases call with
      | register silent =>
          rcases List.mem_cons.mp given with rfl | later
          · exact ⟨Nat.le_refl _, nextId_le_after (hall.step (.register silent)).hall rest⟩
          · have bounds := @hypothesis (hall.step (.register silent)).hall later
            exact ⟨Nat.le_of_succ_le bounds.1, bounds.2⟩
      | session inner => exact @hypothesis (hall.step (.session inner)).hall given
      | unregister other => exact @hypothesis (hall.step (.unregister other)).hall given

theorem pairwise_given (hall : Hall) (calls : List HallCall) :
    (hall.given calls).Pairwise (· < ·) := by
  induction calls generalizing hall with
  | nil => exact .nil
  | cons call rest hypothesis =>
      have later := hypothesis (hall.step call).hall
      cases call with
      | register silent => exact .cons (fun id given => (mem_given given).1) later
      | session | unregister => exact later

/-! ## Who is present -/

theorem mem_present_step (present : observer ∈ hall.audience.present) {call : HallCall}
    (stays : call ≠ .unregister observer.id) :
    observer ∈ (hall.step call).hall.audience.present := by
  cases call with
  | session => exact present
  | register => exact List.mem_append_left _ present
  | unregister other =>
      apply Audience.mem_present_unregister present
      exact fun same => stays (congrArg HallCall.unregister same.symm)

theorem mem_present_after (present : observer ∈ hall.audience.present)
    (stays : .unregister observer.id ∉ calls) :
    observer ∈ (hall.after calls).audience.present := by
  induction calls generalizing hall with
  | nil => exact present
  | cons call rest hypothesis =>
      simp only [List.mem_cons, not_or] at stays
      exact hypothesis (mem_present_step present (Ne.symm stays.1)) stays.2

/-- Nobody who listens gets a handle that is not given. -/
theorem isDeafAt_step (deaf : hall.audience.IsDeafAt id) {call : HallCall}
    (other : (hall.step call).answer.given? ≠ some id) :
    (hall.step call).hall.audience.IsDeafAt id := by
  cases call with
  | session => exact deaf
  | unregister => exact fun observer present => deaf observer (List.mem_filter.mp present).1
  | register silent =>
      intro observer present own
      rcases List.mem_append.mp present with old | new
      · exact deaf observer old own
      · rw [List.mem_singleton.mp new] at own
        exact absurd (congrArg some own) other

theorem heard_of_isDeafAt (deaf : hall.audience.IsDeafAt id) (other : id ∉ hall.given calls) :
    hall.heard id calls = [] := by
  induction calls generalizing hall with
  | nil => rfl
  | cons call rest hypothesis =>
      have silence : hall.hears id call = [] := by
        cases call with
        | session inner => exact congrArg (List.map Prod.snd) (deaf.filter_deliver _)
        | register | unregister => rfl
      rw [mem_given_cons, not_or] at other
      rw [heard, silence, List.nil_append]
      exact hypothesis (isDeafAt_step deaf other.1) other.2

/-- After its removal nobody has a handle. -/
theorem isDeafAt_unregister (hall : Hall) (id : ObserverId) :
    (hall.step (.unregister id)).hall.audience.IsDeafAt id := by
  intro observer present own
  have other := (List.mem_filter.mp present).2
  simp [own] at other

/-! ## Stays -/

/-- An observer comes in the course of calls and stays until it is removed, or else to the end. -/
structure Stay (hall : Hall) (calls : List HallCall) where
  observer : Observer
  before : List HallCall
  during : List HallCall
  rest : List HallCall
  split : calls = before ++ .register observer.silent :: (during ++ rest)
  /-- The handle is the one that is given to the observer. -/
  given : ((hall.after before).step (.register observer.silent)).answer = .registered observer.id
  stays : .unregister observer.id ∉ during
  /-- Nothing but the removal of the observer ends its stay. -/
  removed : rest = [] ∨ ∃ later, rest = .unregister observer.id :: later

namespace Stay

/-- A stay goes on with a call that does not remove the observer. -/
def extend (stay : hall.Stay calls) (lasts : stay.rest = []) {call : HallCall}
    (stays : call ≠ .unregister stay.observer.id) : hall.Stay (calls ++ [call]) where
  observer := stay.observer
  before := stay.before
  during := stay.during ++ [call]
  rest := []
  split := by simp [stay.split, lasts]
  given := stay.given
  stays := by simpa [stay.stays] using Ne.symm stays
  removed := .inl rfl

theorem id_eq (stay : hall.Stay calls) :
    (hall.after stay.before).audience.nextId = stay.observer.id :=
  HallAnswer.registered.inj stay.given

/-- The hall when the observer has come. -/
def entered (stay : hall.Stay calls) : Hall :=
  ((hall.after stay.before).step (.register stay.observer.silent)).hall

/-- What the session emits during the stay. -/
def stretch (stay : hall.Stay calls) : List UiEvent :=
  (hall.after stay.before).emitted stay.during

theorem mem_present_entered (stay : hall.Stay calls) :
    stay.observer ∈ stay.entered.audience.present := by
  refine List.mem_append_right _ (List.mem_singleton.mpr ?_)
  rw [stay.id_eq]

theorem lt_nextId_entered (stay : hall.Stay calls) :
    stay.observer.id < stay.entered.audience.nextId :=
  Nat.lt_succ_of_le (Nat.le_of_eq stay.id_eq.symm)

theorem notMem_given_before (stay : hall.Stay calls) :
    stay.observer.id ∉ hall.given stay.before := by
  intro given
  exact Nat.ne_of_lt (mem_given given).2 stay.id_eq.symm

/-- Once the observer has come, its handle is not given again. -/
theorem notMem_given_of_le {other : Hall} (stay : hall.Stay calls) (later : List HallCall)
    (after : stay.entered.audience.nextId ≤ other.audience.nextId) :
    stay.observer.id ∉ other.given later := by
  intro given
  exact Nat.not_le_of_lt stay.lt_nextId_entered (Nat.le_trans after (mem_given given).1)

theorem after_eq (stay : hall.Stay calls) :
    hall.after calls = (stay.entered.after stay.during).after stay.rest := by
  rw [congrArg hall.after stay.split, after_append, ← after_append stay.entered]
  rfl

theorem emitted_eq (stay : hall.Stay calls) : hall.emitted calls = hall.emitted stay.before ++
    stay.stretch ++ (stay.entered.after stay.during).emitted stay.rest := by
  rw [congrArg hall.emitted stay.split, emitted_append, List.append_assoc]
  exact congrArg _ (emitted_append stay.entered stay.during stay.rest)

/-- While the observer is there, it hears what the session emits, if it listens at all. -/
theorem heard_during (stay : hall.Stay calls) (sound : hall.audience.IsSound) :
    stay.entered.heard stay.observer.id stay.during =
      if stay.observer.silent then [] else stay.stretch := by
  have entered_sound : stay.entered.audience.IsSound := isSound_step (isSound_after sound _) _
  cases silence : stay.observer.silent with
  | true =>
      refine heard_of_isDeafAt ?_ (stay.notMem_given_of_le _ (Nat.le_refl _))
      intro observer present own
      have alone := entered_sound.filter_of_mem present own
      rw [entered_sound.alone _ stay.mem_present_entered, List.cons.injEq] at alone
      rw [← alone.1, silence]
  | false =>
      have listens : (⟨stay.observer.id, false⟩ : Observer) = stay.observer := by rw [← silence]
      have attends : stay.entered.Attends stay.observer.id :=
        ⟨entered_sound, listens ▸ stay.mem_present_entered⟩
      exact attends.heard stay.stays

/-- An observer hears what the session emits during its stay, and nothing before and after. -/
theorem heard_eq (stay : (opening session).Stay calls) :
    (opening session).heard stay.observer.id calls =
      if stay.observer.silent then [] else stay.stretch := by
  have before : (opening session).heard stay.observer.id stay.before = [] :=
    heard_of_isDeafAt nofun stay.notMem_given_before
  have after : (stay.entered.after stay.during).heard stay.observer.id stay.rest = [] := by
    rcases stay.removed with ending | ⟨later, ending⟩
    · rw [ending, heard]
    · rw [ending, heard]
      exact heard_of_isDeafAt (isDeafAt_unregister _ _)
        (stay.notMem_given_of_le later (nextId_le_after stay.entered stay.during))
  rw [congrArg ((opening session).heard stay.observer.id) stay.split, heard_append, before,
    List.nil_append]
  refine (heard_append stay.entered _ stay.during stay.rest).trans ?_
  rw [after, List.append_nil, stay.heard_during Audience.isSound_empty]

end Stay

/-- Those present after a run are the observers whose stay lasts. -/
theorem mem_present_iff : observer ∈ ((opening session).after calls).audience.present ↔
    ∃ stay : (opening session).Stay calls, stay.observer = observer ∧ stay.rest = [] := by
  constructor
  · induction calls using List.reverseRecOn with
    | nil => exact nofun
    | append_singleton calls call hypothesis =>
        rw [after_append]
        intro present
        -- Whoever has been there before stays, unless it is removed.
        have extended (old : observer ∈ ((opening session).after calls).audience.present)
            (stays : call ≠ .unregister observer.id) :
            ∃ stay : (opening session).Stay (calls ++ [call]),
              stay.observer = observer ∧ stay.rest = [] := by
          obtain ⟨stay, rfl, lasts⟩ := hypothesis old
          exact ⟨stay.extend lasts stays, rfl, rfl⟩
        cases call with
        | session => exact extended present nofun
        | register silent =>
            rcases List.mem_append.mp present with old | new
            · exact extended old nofun
            · cases List.mem_singleton.mp new
              exact ⟨⟨_, calls, [], [], rfl, rfl, List.not_mem_nil, .inl rfl⟩, rfl, rfl⟩
        | unregister id =>
            obtain ⟨old, other⟩ := List.mem_filter.mp present
            refine extended old ?_
            rintro ⟨⟩
            simp at other
  · rintro ⟨stay, rfl, lasts⟩
    rw [stay.after_eq, lasts]
    exact @mem_present_after stay.entered _ _ stay.mem_present_entered stay.stays

/-- Whoever is given a handle has a stay. -/
theorem exists_stay_of_given (given : id ∈ hall.given calls) :
    ∃ stay : hall.Stay calls, stay.observer.id = id := by
  suffices comes : ∃ before silent later, calls = before ++ .register silent :: later ∧
      ((hall.after before).step (.register silent)).answer = .registered id by
    obtain ⟨before, silent, later, split, given⟩ := comes
    refine ⟨⟨⟨id, silent⟩, before, later.takeWhile (· != .unregister id),
      later.dropWhile (· != .unregister id), ?_, given, ?_, ?_⟩, rfl⟩
    · rw [List.takeWhile_append_dropWhile, split]
    · intro mem
      have other := List.all_eq_true.mp List.all_takeWhile _ mem
      simp at other
    · have first := List.head?_dropWhile_not (· != HallCall.unregister id) later
      cases ending : later.dropWhile (· != .unregister id) with
      | nil => exact .inl rfl
      | cons call rest =>
          rw [ending] at first
          have own : call = .unregister id := by simpa using first
          exact .inr ⟨rest, by rw [own]⟩
  induction calls generalizing hall with
  | nil => cases given
  | cons call rest hypothesis =>
      -- The handle is given by the first call or by a later one.
      rcases mem_given_cons.mp given with now | later
      · cases call with
        | register silent => exact ⟨[], silent, rest, rfl, congrArg _ (Option.some.inj now)⟩
        | session | unregister => cases now
      · obtain ⟨before, silent, after, rfl, handle⟩ := hypothesis later
        exact ⟨call :: before, silent, after, rfl, handle⟩

/-! ## Observers that are given back -/

theorem mem_returned_cons {call : HallCall} : observer ∈ hall.returned (call :: calls) ↔
    (hall.step call).answer.returned? = some observer ∨
      observer ∈ (hall.step call).hall.returned calls := by
  simp [returned, answers]

/-- Only an observer that is present can be given back, or one that comes before. -/
theorem mem_present_of_returned (returned : observer ∈ hall.returned calls)
    (old : observer.id < hall.audience.nextId) : observer ∈ hall.audience.present := by
  induction calls generalizing hall with
  | nil => cases returned
  | cons call rest hypothesis =>
      have nextId_le : hall.audience.nextId ≤ (hall.step call).hall.audience.nextId :=
        nextId_le_after hall [call]
      rcases mem_returned_cons.mp returned with now | later
      · cases call with
        | unregister => exact List.mem_of_find?_eq_some now
        | session | register => cases now
      · have stillPresent := hypothesis later (Nat.lt_of_lt_of_le old nextId_le)
        cases call with
        | session => exact stillPresent
        | unregister => exact (List.mem_filter.mp stillPresent).1
        | register =>
            rcases List.mem_append.mp stillPresent with present | new
            · exact present
            · rw [List.mem_singleton.mp new] at old
              exact absurd old (Nat.lt_irrefl _)

theorem returned_unregister (hall : Hall) (id : ObserverId) (rest : List HallCall) :
    hall.returned (.unregister id :: rest) =
      (hall.audience.present.find? (·.id == id)).toList ++
        (hall.step (.unregister id)).hall.returned rest := by
  rw [returned, answers, List.filterMap_cons]
  cases found : hall.audience.present.find? (·.id == id) <;>
    simp [step, Audience.unregister, HallAnswer.returned?, found, returned]

/-- Whoever has been given back is gone, and its handle is not given to anybody else. -/
theorem nodup_returned (sound : hall.audience.IsSound) :
    ((hall.returned calls).map Observer.id).Nodup := by
  induction calls generalizing hall with
  | nil => exact .nil
  | cons call rest hypothesis =>
      have later := hypothesis (isSound_step sound call)
      cases call with
      | session | register => exact later
      | unregister id =>
          rw [returned_unregister]
          cases found : hall.audience.present.find? (·.id == id) with
          | none => exact later
          | some observer =>
              obtain ⟨own, present⟩ := sound.find?_eq_some_iff.mp found
              refine List.nodup_cons.mpr ⟨fun again => ?_, later⟩
              obtain ⟨other, returned, same⟩ := List.mem_map.mp again
              have old : other.id < (hall.step (.unregister id)).hall.audience.nextId :=
                same ▸ sound.given observer present
              have stays := (List.mem_filter.mp (mem_present_of_returned returned old)).2
              simp [same, own] at stays

/-- What becomes of the observers that come and go in the course of calls. -/
structure FansOut (hall : Hall) (calls : List HallCall) : Prop where
  /-- No handle is given twice. -/
  fresh : (hall.given calls).Nodup
  /-- Whoever is given a handle stays for a part of the calls. -/
  stays : ∀ id ∈ hall.given calls, ∃ stay : hall.Stay calls, stay.observer.id = id
  /-- What a handle gives back when its observer is removed now is the observer, as long as its stay
  lasts, and otherwise nothing. -/
  found : ∀ id, ∃ found, ((hall.after calls).step (.unregister id)).answer = .unregistered found ∧
    ∀ observer, found = some observer ↔
      observer.id = id ∧ ∃ stay : hall.Stay calls, stay.observer = observer ∧ stay.rest = []
  /-- Nobody else is removed. -/
  alone : ∀ id, ((hall.after calls).step (.unregister id)).hall.audience.present =
    (hall.after calls).audience.present.eraseP (·.id == id)
  /-- No handle gives back an observer twice. -/
  once : ((hall.returned calls).map Observer.id).Nodup
  /-- What is emitted during a stay is one stretch of all that is emitted. -/
  emitted : ∀ stay : hall.Stay calls, hall.emitted calls = hall.emitted stay.before ++
    stay.stretch ++ (stay.entered.after stay.during).emitted stay.rest
  /-- An observer hears this stretch, if it is not silent. -/
  heard : ∀ stay : hall.Stay calls, hall.heard stay.observer.id calls =
    if stay.observer.silent then [] else stay.stretch

theorem fansOut_opening (session : Session) (calls : List HallCall) :
    (opening session).FansOut calls where
  fresh := (pairwise_given _ calls).imp Nat.ne_of_lt
  stays _ given := exists_stay_of_given given
  found id := by
    refine ⟨_, rfl, fun observer => ?_⟩
    rw [(isSound_after Audience.isSound_empty calls).find?_eq_some_iff, mem_present_iff]
  alone := (isSound_after Audience.isSound_empty calls).present_unregister
  once := nodup_returned Audience.isSound_empty
  emitted := Stay.emitted_eq
  heard := Stay.heard_eq

/-! ## The session behind the observers -/

theorem sent_eq (hall : Hall) (calls : List HallCall) : hall.sent calls =
    (hall.session.history (calls.filterMap HallCall.session?)).flatMap Moment.sent := by
  induction calls generalizing hall with
  | nil => rfl
  | cons call rest hypothesis =>
      rw [sent, hypothesis]
      cases call <;> rfl

theorem filterMap_session?_answers (hall : Hall) (calls : List HallCall) :
    (hall.answers calls).filterMap HallAnswer.session? =
      (hall.session.history (calls.filterMap HallCall.session?)).map Moment.answer := by
  induction calls generalizing hall with
  | nil => rfl
  | cons call rest hypothesis =>
      have later := hypothesis (hall.step call).hall
      cases call with
      | session inner => exact congrArg ((hall.session.step inner).answer :: ·) later
      | register | unregister => exact later

/-- Observers are told all that the session emits while they are there, once and in order, and
handles are given once and give back their observer once. Two runs with the same calls of the
session differ in nothing but their observers: the requests, the answers and the session at the end
are the same, and so is what an observer hears that comes and goes at the same point in both. -/
theorem observers_told_exactly (session : Session) {calls others : List HallCall}
    (same : calls.filterMap HallCall.session? = others.filterMap HallCall.session?) :
    (opening session).FansOut calls ∧
      (opening session).emitted calls = (opening session).emitted others ∧
      (opening session).sent calls = (opening session).sent others ∧
      ((opening session).answers calls).filterMap HallAnswer.session? =
        ((opening session).answers others).filterMap HallAnswer.session? ∧
      ((opening session).after calls).session = ((opening session).after others).session ∧
      ∀ (stay : (opening session).Stay calls) (other : (opening session).Stay others),
        stay.observer.silent = other.observer.silent →
        stay.before.filterMap HallCall.session? = other.before.filterMap HallCall.session? →
        stay.during.filterMap HallCall.session? = other.during.filterMap HallCall.session? →
        (opening session).heard stay.observer.id calls =
          (opening session).heard other.observer.id others := by
  refine ⟨fansOut_opening session calls, congrArg session.told same, ?_, ?_, ?_, ?_⟩
  · rw [sent_eq, sent_eq, same]
  · rw [filterMap_session?_answers, filterMap_session?_answers, same]
  · rw [session_after, session_after, same]
  · intro stay other sameSilence sameBefore sameDuring
    have sameStretch : stay.stretch = other.stretch := by
      rw [Stay.stretch, Stay.stretch, Hall.emitted, Hall.emitted, session_after, session_after,
        sameBefore, sameDuring]
    rw [stay.heard_eq, other.heard_eq, sameSilence, sameStretch]

/-- Of three observers one is removed before the second placement, one is silent, and one is removed
before the third placement. -/
def handover : List HallCall :=
  [.register false, .session (.handle (.cellsPlaced 1 none [⟨0, 0⟩] none) 0), .register true,
    .register false, .unregister 0, .session (.handle (.cellsPlaced 2 none [⟨3, 4⟩] none) 1),
    .unregister 2, .session (.handle (.cellsPlaced 3 none [⟨7, 7⟩] none) 2)]

/-- The same match with the last observer alone. -/
def handoverToOne : List HallCall :=
  [.session (.handle (.cellsPlaced 1 none [⟨0, 0⟩] none) 0), .register false,
    .session (.handle (.cellsPlaced 2 none [⟨3, 4⟩] none) 1), .unregister 0,
    .session (.handle (.cellsPlaced 3 none [⟨7, 7⟩] none) 2)]

theorem handover_told_exactly : ∃ session : Session,
    Session.join "room" 1 .standard (.constant true) = .ok session ∧
    handover.filterMap HallCall.session? = handoverToOne.filterMap HallCall.session? ∧
    (opening session).heard 2 handover = (opening session).heard 0 handoverToOne ∧
    (opening session).heard 0 handoverToOne = [.cell ⟨3, 4⟩ (.owned ⟨1⟩)] ∧
    (opening session).heard 1 handover = [] ∧
    ∃ found, (((opening session).after handover).step (.unregister 1)).answer =
      .unregistered found ∧ found = some ⟨1, true⟩ := by
  have same : handover.filterMap HallCall.session? =
      handoverToOne.filterMap HallCall.session? := rfl
  have told := fun session => observers_told_exactly session same
  refine ⟨_, rfl, same, ?_, rfl, ?_, ?_⟩
  · exact (told _).2.2.2.2.2
      ⟨⟨2, false⟩, handover.take 3, (handover.drop 4).take 2, handover.drop 6, rfl, rfl, by decide,
        .inr ⟨_, rfl⟩⟩
      ⟨⟨0, false⟩, handoverToOne.take 1, (handoverToOne.drop 2).take 1, handoverToOne.drop 3, rfl,
        rfl, by decide, .inr ⟨_, rfl⟩⟩ rfl rfl rfl
  · exact (told _).1.heard
      ⟨⟨1, true⟩, handover.take 2, handover.drop 3, [], rfl, rfl, by decide, .inl rfl⟩
  · obtain ⟨found, answered, isFound⟩ := (told _).1.found 1
    exact ⟨found, answered, (isFound ⟨1, true⟩).mpr ⟨rfl,
      ⟨⟨1, true⟩, handover.take 2, handover.drop 3, [], rfl, rfl, by decide, .inl rfl⟩, rfl, rfl⟩⟩

end Hall

end TileMatch
