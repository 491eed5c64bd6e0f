import TileMatch.Session.Call

/-!
# The audience of a session

Observers join and leave an `Audience` at any time. Each gets a handle that is never used again, and
whatever the session tells is delivered to those present, in the order in which they joined. A
silent observer is present and hears nothing.

`Hall` is a session with its audience, and its calls are those of the session together with the
coming and going of observers.
-/

namespace TileMatch

/-- The handle of an observer. -/
abbrev ObserverId := Nat

/-- An observer that is present. -/
structure Observer where
  id : ObserverId
  silent : Bool
  deriving DecidableEq, Repr

/-- The observers that are present, and the next handle. -/
structure Audience where
  present : List Observer
  nextId : ObserverId
  deriving DecidableEq, Repr

namespace Audience

/-- Nobody has come yet. -/
def empty : Audience := ⟨[], 0⟩

/-- An observer comes. -/
def register (audience : Audience) (silent : Bool) : Audience × ObserverId :=
  (⟨audience.present ++ [⟨audience.nextId, silent⟩], audience.nextId + 1⟩, audience.nextId)

/-- An observer goes, if it is present. -/
def unregister (audience : Audience) (id : ObserverId) : Audience × Option Observer :=
  ({ audience with present := audience.present.filter (·.id != id) },
    audience.present.find? (·.id == id))

/-- What is told to everyone present that listens. -/
def deliverEvent (audience : Audience) (event : UiEvent) : List (ObserverId × UiEvent) :=
  (audience.present.filter (!·.silent)).map fun observer => (observer.id, event)

/-- What the effects of a call tell to whom, in order. -/
def deliver (audience : Audience) (effects : List Effect) : List (ObserverId × UiEvent) :=
  (effects.filterMap Effect.event?).flatMap audience.deliverEvent

end Audience

/-- A session and those who watch it. -/
structure Hall where
  session : Session
  audience : Audience

/-- A call of the session, or the coming or going of an observer. -/
inductive HallCall where
  | session (call : Call)
  | register (silent : Bool)
  | unregister (id : ObserverId)
  deriving DecidableEq, Repr

/-- What a call of the hall answers. -/
inductive HallAnswer where
  | session (answer : Answer)
  | registered (id : ObserverId)
  | unregistered (observer : Option Observer)

namespace Hall

/-- What one call leads to: the hall afterwards, who was told what, the requests sent, and the
answer. -/
structure Outcome where
  hall : Hall
  told : List (ObserverId × UiEvent)
  sent : List OutboundRequest
  answer : HallAnswer

/-- Makes one call. -/
def step (hall : Hall) : HallCall → Outcome
  | .session call =>
    let outcome := hall.session.step call
    ⟨⟨outcome.session, hall.audience⟩, hall.audience.deliver outcome.effects,
      outcome.effects.filterMap Effect.request?, .session outcome.answer⟩
  | .register silent =>
    let (audience, id) := hall.audience.register silent
    ⟨⟨hall.session, audience⟩, [], [], .registered id⟩
  | .unregister id =>
    let (audience, observer) := hall.audience.unregister id
    ⟨⟨hall.session, audience⟩, [], [], .unregistered observer⟩

end Hall

end TileMatch
