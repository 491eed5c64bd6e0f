import TileMatch.Proofs.Wire.Lawful
import TileMatch.Settings

/-!
# The rates that settings are read with

A document of settings gives its numbers in fixed widths, with times of any kind. When it asks for
no ticks in a second the default takes its place, and every other rate is kept.
-/

namespace TileMatch

open Wire

/-- In settings every number of single precision may occur. -/
def anySingle (_ : Binary32) : Bool := true

/-- The port has sixteen bits and the time to wait thirty-two. -/
def NetworkSettings.Fits (settings : NetworkSettings) : Prop :=
  Width.unsigned16.contains settings.serverPort = true ∧
    Width.unsigned32.contains settings.timeoutSeconds = true

theorem NetworkSettings.lawful : Lawful anySingle NetworkSettings.schema NetworkSettings.Fits
    NetworkSettings.toValue NetworkSettings.ofValue? where
  proper := by
    have port : (Schema.ofWidth .unsigned16).Admits anySingle (.ofNat standard.serverPort) :=
      (Lawful.natural rfl).admits (by decide)
    have timeout : (Schema.ofWidth .unsigned32).Admits anySingle (.ofNat standard.timeoutSeconds) :=
      (Lawful.natural rfl).admits (by decide)
    simp [schema, port, timeout, Schema.Admits]
  admits fits := ⟨_, rfl, _, _, rfl, ⟨_, rfl⟩, _, _, rfl, (Lawful.natural rfl).admits fits.1,
    _, _, rfl, (Lawful.natural rfl).admits fits.2, rfl⟩
  covers := by
    rintro _ ⟨_, rfl, _, _, rfl, ⟨address, rfl⟩, _, _, rfl, portAdmits, _, _, rfl, timeoutAdmits,
      rfl⟩
    obtain ⟨port, portFits, rfl⟩ := (Lawful.natural rfl).covers portAdmits
    obtain ⟨timeout, timeoutFits, rfl⟩ := (Lawful.natural rfl).covers timeoutAdmits
    exact ⟨⟨address, port, timeout⟩, ⟨portFits, timeoutFits⟩, rfl⟩
  ofValue?_toValue settings := by
    simp [toValue, ofValue?, Value.ofNat, Value.toNat?]

/-- The rate and the length of a turn have thirty-two bits. -/
def GameSettings.Fits (settings : GameSettings) : Prop :=
  Width.unsigned32.contains settings.ticksPerSecond = true ∧
    Width.unsigned32.contains settings.defaultTurnSeconds = true

theorem GameSettings.lawful : Lawful anySingle GameSettings.schema GameSettings.Fits
    GameSettings.toValue GameSettings.ofValue? where
  proper := by
    have ticks : (Schema.ofWidth .unsigned32).Admits anySingle (.ofNat standard.ticksPerSecond) :=
      (Lawful.natural rfl).admits (by decide)
    have turn : (Schema.ofWidth .unsigned32).Admits anySingle
        (.ofNat standard.defaultTurnSeconds) :=
      (Lawful.natural rfl).admits (by decide)
    simp [schema, ticks, turn, Schema.Admits, anySingle]
  admits fits := ⟨_, rfl, _, _, rfl, Lawful.single.admits rfl, _, _, rfl, Lawful.single.admits rfl,
    _, _, rfl, (Lawful.natural rfl).admits fits.1, _, _, rfl, (Lawful.natural rfl).admits fits.2,
    rfl⟩
  covers := by
    rintro _ ⟨_, rfl, _, _, rfl, graceAdmits, _, _, rfl, lifetimeAdmits, _, _, rfl, ticksAdmits,
      _, _, rfl, turnAdmits, rfl⟩
    obtain ⟨grace, _, rfl⟩ := Lawful.single.covers graceAdmits
    obtain ⟨lifetime, _, rfl⟩ := Lawful.single.covers lifetimeAdmits
    obtain ⟨ticks, ticksFit, rfl⟩ := (Lawful.natural rfl).covers ticksAdmits
    obtain ⟨turn, turnFits, rfl⟩ := (Lawful.natural rfl).covers turnAdmits
    exact ⟨⟨grace, lifetime, ticks, turn⟩, ⟨ticksFit, turnFits⟩, rfl⟩
  ofValue?_toValue settings := by
    simp [toValue, ofValue?, Value.ofNat, Value.toNat?]

theorem DebugSettings.lawful : Lawful anySingle DebugSettings.schema (fun _ => True)
    DebugSettings.toValue DebugSettings.ofValue? where
  proper := by simp [schema, Schema.Admits]
  admits _ := ⟨_, rfl, _, _, rfl, ⟨_, rfl⟩, rfl⟩
  covers := by
    rintro _ ⟨_, rfl, _, _, rfl, ⟨level, rfl⟩, rfl⟩
    exact ⟨⟨level⟩, trivial, rfl⟩
  ofValue?_toValue _ := rfl

namespace Settings

def Fits (settings : Settings) : Prop := settings.network.Fits ∧ settings.game.Fits

theorem lawful : Lawful anySingle schema Fits toValue ofValue? where
  proper := by
    have network : NetworkSettings.standard.Fits := ⟨by decide, by decide⟩
    have game : GameSettings.standard.Fits := ⟨by decide, by decide⟩
    simp [schema, NetworkSettings.lawful.proper, GameSettings.lawful.proper,
      DebugSettings.lawful.proper, NetworkSettings.lawful.admits network,
      GameSettings.lawful.admits game, DebugSettings.lawful.admits trivial]
  admits fits := ⟨_, rfl, _, _, rfl, NetworkSettings.lawful.admits fits.1, _, _, rfl,
    GameSettings.lawful.admits fits.2, _, _, rfl, DebugSettings.lawful.admits trivial, rfl⟩
  covers := by
    rintro _ ⟨_, rfl, _, _, rfl, networkAdmits, _, _, rfl, gameAdmits, _, _, rfl, debugAdmits, rfl⟩
    obtain ⟨network, networkFits, rfl⟩ := NetworkSettings.lawful.covers networkAdmits
    obtain ⟨game, gameFits, rfl⟩ := GameSettings.lawful.covers gameAdmits
    obtain ⟨debug, _, rfl⟩ := DebugSettings.lawful.covers debugAdmits
    exact ⟨⟨network, game, debug⟩, ⟨networkFits, gameFits⟩, rfl⟩
  ofValue?_toValue settings := by
    simp [toValue, ofValue?, NetworkSettings.lawful.ofValue?_toValue,
      GameSettings.lawful.ofValue?_toValue, DebugSettings.lawful.ofValue?_toValue]

/-- The rate that a document gives is any but zero that has thirty-two bits. -/
theorem ticksPerSecond_of_ofText? {text : String} {settings : Settings}
    (accepted : ofText? text = some settings) :
    1 ≤ settings.game.ticksPerSecond ∧ settings.game.ticksPerSecond ≤ 0xffffffff := by
  obtain ⟨raw, found, rfl⟩ := Option.map_eq_some_iff.mp accepted
  obtain ⟨value, read, ofValue⟩ := Option.bind_eq_some_iff.mp found
  obtain ⟨document, _, documentRead⟩ := Option.bind_eq_some_iff.mp read
  have fits : raw.Fits := lawful.fits_of_read (fun _ _ _ => rfl) documentRead ofValue
  have below : (raw.game.ticksPerSecond : Int) ≤ 0xffffffff := (Width.contains_iff.mp fits.2.1).2
  simp only [sanitized, GameSettings.sanitized]
  split
  · exact ⟨by decide, by decide⟩
  · omega

end Settings

end TileMatch
