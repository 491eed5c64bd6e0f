import TileMatch.Proofs.Binary32
import TileMatch.Proofs.Settings
import TileMatch.Proofs.Wire.Ron.Record

/-!
# What is read of the settings in a document

A document may give some sections and some of their fields, among others of unknown name. Every
field that it gives is read as it is if a session can run with it; every other one has its default.
-/

namespace TileMatch

open Wire

/-- The sections of the settings. -/
inductive SettingsSection where
  | network
  | game
  | debug
  deriving DecidableEq

/-- The fields of the settings. -/
inductive SettingsField where
  | serverAddress
  | serverPort
  | timeoutSeconds
  | turnGraceSeconds
  | requestLifetimeSeconds
  | ticksPerSecond
  | defaultTurnSeconds
  | logLevel
  deriving DecidableEq

namespace SettingsSection

/-- All sections in their order. -/
def all : List SettingsSection := [network, game, debug]

/-- The name of a section in a document. -/
def name : SettingsSection → String
  | network => "network"
  | game => "game"
  | debug => "debug"

/-- The name of the type of a section. -/
def typeName : SettingsSection → String
  | network => "NetworkConfig"
  | game => "GameConfig"
  | debug => "DebugConfig"

/-- How a section is read. -/
def schema : SettingsSection → Schema
  | network => NetworkSettings.schema
  | game => GameSettings.schema
  | debug => DebugSettings.schema

/-- A section of given settings. -/
def value (settings : Settings) : SettingsSection → Value
  | network => settings.network.toValue
  | game => settings.game.toValue
  | debug => settings.debug.toValue

end SettingsSection

namespace SettingsField

/-- All fields in their order. -/
def all : List SettingsField :=
  [serverAddress, serverPort, timeoutSeconds, turnGraceSeconds, requestLifetimeSeconds,
    ticksPerSecond, defaultTurnSeconds, logLevel]

theorem mem_all (field : SettingsField) : field ∈ all := by
  cases field <;> decide

/-- The section that a field belongs to. -/
def home : SettingsField → SettingsSection
  | serverAddress | serverPort | timeoutSeconds => .network
  | turnGraceSeconds | requestLifetimeSeconds | ticksPerSecond | defaultTurnSeconds => .game
  | logLevel => .debug

/-- The name of a field in a document. -/
def name : SettingsField → String
  | serverAddress => "server_address"
  | serverPort => "server_port"
  | timeoutSeconds => "timeout_seconds"
  | turnGraceSeconds => "turn_grace_seconds"
  | requestLifetimeSeconds => "dedup_ttl_seconds"
  | ticksPerSecond => "tick_rate_hz"
  | defaultTurnSeconds => "default_turn_seconds"
  | logLevel => "log_level"

/-- How a field is read. -/
def schema : SettingsField → Schema
  | serverAddress | logLevel => .text
  | serverPort => .ofWidth .unsigned16
  | timeoutSeconds | ticksPerSecond | defaultTurnSeconds => .ofWidth .unsigned32
  | turnGraceSeconds | requestLifetimeSeconds => .single

/-- A field of given settings. -/
def value (settings : Settings) : SettingsField → Value
  | serverAddress => .text settings.network.serverAddress
  | serverPort => .ofNat settings.network.serverPort
  | timeoutSeconds => .ofNat settings.network.timeoutSeconds
  | turnGraceSeconds => .single settings.game.turnGraceSeconds
  | requestLifetimeSeconds => .single settings.game.requestLifetimeSeconds
  | ticksPerSecond => .ofNat settings.game.ticksPerSecond
  | defaultTurnSeconds => .ofNat settings.game.defaultTurnSeconds
  | logLevel => .text settings.debug.logLevel

/-- Whether a session can run with a field of given settings. -/
def Usable (settings : Settings) : SettingsField → Prop
  | turnGraceSeconds =>
    settings.game.turnGraceSeconds.isFinite = true ∧ 0 ≤ settings.game.turnGraceSeconds.value
  | requestLifetimeSeconds =>
    settings.game.requestLifetimeSeconds.isFinite = true ∧
      0 < settings.game.requestLifetimeSeconds.value
  | ticksPerSecond => settings.game.ticksPerSecond ≠ 0
  | defaultTurnSeconds => settings.game.defaultTurnSeconds ≠ 0
  | _ => True

end SettingsField

namespace SettingsSection

/-- The fields of a section in their order. -/
def fields (part : SettingsSection) : List SettingsField :=
  SettingsField.all.filter fun field => field.home = part

theorem mem_fields {part : SettingsSection} {field : SettingsField} :
    field ∈ part.fields ↔ field.home = part := by
  rw [fields, List.mem_filter, decide_eq_true_iff]
  exact and_iff_right field.mem_all

end SettingsSection

namespace SettingsField

variable {first second settings : Settings} {field : SettingsField}

/-- Settings that agree in a field are both usable in it or both not. -/
theorem usable_congr (same : field.value first = field.value second) :
    field.Usable first ↔ field.Usable second := by
  cases field with
  | turnGraceSeconds | requestLifetimeSeconds =>
      rw [Usable, Usable, Value.single.inj same]
  | ticksPerSecond | defaultTurnSeconds =>
      rw [Usable, Usable, Int.ofNat_inj.mp (Value.integer.inj same)]
  | serverAddress | serverPort | timeoutSeconds | logLevel => rfl

/-- The settings are no more than their fields. -/
theorem settings_ext (same : ∀ field : SettingsField, field.value first = field.value second) :
    first = second := by
  have number : ∀ {one other : ℕ}, Value.ofNat one = Value.ofNat other → one = other :=
    fun eq => Int.ofNat_inj.mp (Value.integer.inj eq)
  obtain ⟨⟨_, _, _⟩, ⟨_, _, _, _⟩, ⟨_⟩⟩ := first
  obtain ⟨⟨_, _, _⟩, ⟨_, _, _, _⟩, ⟨_⟩⟩ := second
  obtain rfl := Value.text.inj (same serverAddress)
  obtain rfl := number (same serverPort)
  obtain rfl := number (same timeoutSeconds)
  obtain rfl := Value.single.inj (same turnGraceSeconds)
  obtain rfl := Value.single.inj (same requestLifetimeSeconds)
  obtain rfl := number (same ticksPerSecond)
  obtain rfl := number (same defaultTurnSeconds)
  obtain rfl := Value.text.inj (same logLevel)
  rfl

/-! ## What takes the place of a field -/

theorem graceUsable_iff (seconds : Binary32) :
    GameSettings.graceUsable seconds = true ↔ seconds.isFinite = true ∧ 0 ≤ seconds.value := by
  rw [GameSettings.graceUsable, Bool.and_eq_true, Bool.not_eq_true']
  exact and_congr_right Binary32.isBelowZero_eq_false_iff

theorem lifetimeUsable_iff (seconds : Binary32) :
    GameSettings.lifetimeUsable seconds = true ↔ seconds.isFinite = true ∧ 0 < seconds.value := by
  rw [GameSettings.lifetimeUsable, Bool.and_eq_true]
  exact and_congr_right Binary32.isAboveZero_iff

theorem usable_standard (field : SettingsField) : field.Usable .standard := by
  cases field with
  | turnGraceSeconds => exact (graceUsable_iff _).mp (by decide)
  | requestLifetimeSeconds => exact (lifetimeUsable_iff _).mp (by decide)
  | ticksPerSecond => exact Nat.succ_ne_zero 59
  | defaultTurnSeconds => exact Nat.succ_ne_zero 29
  | serverAddress | serverPort | timeoutSeconds | logLevel => trivial

theorem value_sanitized_of_usable (usable : field.Usable settings) :
    field.value settings.sanitized = field.value settings := by
  cases field with
  | turnGraceSeconds =>
      exact congrArg Value.single (if_pos ((graceUsable_iff _).mpr usable))
  | requestLifetimeSeconds =>
      exact congrArg Value.single (if_pos ((lifetimeUsable_iff _).mpr usable))
  | ticksPerSecond | defaultTurnSeconds => exact congrArg Value.ofNat (if_neg usable)
  | serverAddress | serverPort | timeoutSeconds | logLevel => rfl

theorem value_sanitized_of_not_usable (unusable : ¬field.Usable settings) :
    field.value settings.sanitized = field.value .standard := by
  cases field with
  | turnGraceSeconds =>
      exact congrArg Value.single (if_neg (mt (graceUsable_iff _).mp unusable))
  | requestLifetimeSeconds =>
      exact congrArg Value.single (if_neg (mt (lifetimeUsable_iff _).mp unusable))
  | ticksPerSecond | defaultTurnSeconds => exact congrArg Value.ofNat (if_pos (not_not.mp unusable))
  | serverAddress | serverPort | timeoutSeconds | logLevel => exact absurd trivial unusable

theorem usable_sanitized (settings : Settings) (field : SettingsField) :
    field.Usable settings.sanitized := by
  by_cases usable : field.Usable settings
  · exact (usable_congr (value_sanitized_of_usable usable)).mpr usable
  · exact (usable_congr (value_sanitized_of_not_usable usable)).mpr (usable_standard field)

/-- What takes the place of a field depends on that field alone. -/
theorem value_sanitized_congr (same : field.value first = field.value second) :
    field.value first.sanitized = field.value second.sanitized := by
  by_cases usable : field.Usable first
  · rw [value_sanitized_of_usable usable,
      value_sanitized_of_usable ((usable_congr same).mp usable), same]
  · rw [value_sanitized_of_not_usable usable,
      value_sanitized_of_not_usable (mt (usable_congr same).mpr usable)]

end SettingsField

theorem Settings.sanitized_sanitized (settings : Settings) :
    settings.sanitized.sanitized = settings.sanitized :=
  SettingsField.settings_ext fun field =>
    SettingsField.value_sanitized_of_usable (field.usable_sanitized settings)

/-! ## Documents that give some of the fields -/

variable {settings : Settings} {written : SettingsField → Prop} {extensions : Ron.Extensions}

/-- The members of a section give a field as it is in the settings, or leave it out. -/
def SettingsField.IsStated (settings : Settings) (written : SettingsField → Prop)
    (members : List (String × Ron)) (field : SettingsField) : Prop :=
  written field ∧ (∃ document, Ron.Gives members field.name document ∧
    Ron.Spells field.schema (field.value settings) document) ∨
  ¬written field ∧ Ron.Lacks members field.name

/-- A document is a section with some of its fields, and with others of unknown name. -/
def SettingsSection.IsStated (settings : Settings) (written : SettingsField → Prop)
    (extensions : Ron.Extensions) (document : Ron) (part : SettingsSection) : Prop :=
  ∃ members, Ron.HasMembers extensions part.typeName (part.fields.map SettingsField.name) 124
      document members ∧
    ∀ field ∈ part.fields, field.IsStated settings written members

/-- A document gives settings by some sections with some of their fields, and with others of unknown
name. -/
def Settings.IsStated (settings : Settings) (written : SettingsField → Prop)
    (extensions : Ron.Extensions) (document : Ron) : Prop :=
  ∃ members, Ron.HasMembers extensions "Config" (SettingsSection.all.map SettingsSection.name) 126
      document members ∧
    ∀ part : SettingsSection,
      (∃ inner, Ron.Gives members part.name inner ∧
        part.IsStated settings written extensions inner) ∨
      Ron.Lacks members part.name ∧ ∀ field ∈ part.fields, ¬written field

/-- A field has been read of a document that gives it or leaves it out. What is undefined may be so
in another way. -/
structure SettingsField.IsTaken (settings : Settings) (written : SettingsField → Prop)
    (raw : Settings) (field : SettingsField) : Prop where
  of_written : written field → field.value raw = field.value settings ∨
    ¬field.Usable raw ∧ ¬field.Usable settings
  of_not_written : ¬written field → field.value raw = field.value .standard

namespace SettingsField

variable {field : SettingsField} {raw other : Settings} {members : List (String × Ron)}

theorem IsTaken.congr (taken : field.IsTaken settings written raw)
    (same : field.value other = field.value raw) : field.IsTaken settings written other where
  of_written isWritten := by
    rw [same, usable_congr same]
    exact taken.of_written isWritten
  of_not_written notWritten := same.trans (taken.of_not_written notWritten)

theorem admits (fits : settings.Fits) (field : SettingsField) :
    field.schema.Admits anySingle (field.value settings) := by
  cases field with
  | serverAddress | logLevel => exact ⟨_, rfl⟩
  | turnGraceSeconds | requestLifetimeSeconds => exact Lawful.single.admits rfl
  | serverPort => exact (Lawful.natural rfl).admits fits.1.1
  | timeoutSeconds => exact (Lawful.natural rfl).admits fits.1.2
  | ticksPerSecond => exact (Lawful.natural rfl).admits fits.2.1
  | defaultTurnSeconds => exact (Lawful.natural rfl).admits fits.2.2

theorem not_usable_of_isNaN {number : Binary32} (undefined : number.isNaN = true)
    (same : field.value settings = .single number) : ¬field.Usable settings := by
  have notFinite : ¬number.isFinite = true := by
    rw [Binary32.isNaN, decide_eq_true_iff] at undefined
    rw [Binary32.isFinite, decide_eq_true_iff]
    exact Nat.lt_asymm undefined
  rintro usable
  cases field with
  | turnGraceSeconds | requestLifetimeSeconds =>
      cases same
      exact notFinite usable.1
  | serverAddress | serverPort | timeoutSeconds | ticksPerSecond | defaultTurnSeconds | logLevel =>
      cases same

/-- A field that is a number of single precision may be any such number. -/
theorem exists_value_eq_single {number : Binary32} (same : field.value settings = .single number)
    (read : Binary32) : ∃ raw : Settings, field.value raw = .single read := by
  cases field with
  | turnGraceSeconds =>
      exact ⟨{ settings with game := { settings.game with turnGraceSeconds := read } }, rfl⟩
  | requestLifetimeSeconds =>
      exact ⟨{ settings with game := { settings.game with requestLifetimeSeconds := read } }, rfl⟩
  | serverAddress | serverPort | timeoutSeconds | ticksPerSecond | defaultTurnSeconds | logLevel =>
      cases same

theorem IsStated.exists_isTaken (stated : field.IsStated settings written members)
    (fits : settings.Fits) (extensions : Ron.Extensions) (room : ℕ) :
    ∃ raw, field.IsTaken settings written raw ∧
      ((∃ document, Ron.Gives members field.name document ∧
        field.schema.read (Ron.source extensions) room document = some (field.value raw)) ∨
      Ron.Lacks members field.name ∧ field.value raw = field.value .standard) := by
  rcases stated with ⟨isWritten, document, gives, spells⟩ | ⟨notWritten, lacks⟩
  · obtain ⟨result, read, rfl | ⟨number, undefined, same, rfl, isNaN, alike⟩⟩ :=
      spells.read (field.admits fits) extensions room
    · exact ⟨settings, ⟨fun _ => .inl rfl, fun notWritten => absurd isWritten notWritten⟩,
        .inl ⟨document, gives, read⟩⟩
    · obtain ⟨raw, value⟩ := exists_value_eq_single same undefined
      exact ⟨raw, ⟨fun _ => .inr ⟨not_usable_of_isNaN isNaN value, not_usable_of_isNaN alike same⟩,
        fun notWritten => absurd isWritten notWritten⟩, .inl ⟨document, gives, value ▸ read⟩⟩
  · exact ⟨.standard, ⟨fun isWritten => absurd isWritten notWritten, fun _ => rfl⟩,
      .inr ⟨lacks, rfl⟩⟩

/-- Fields may be put together from whatever settings. -/
theorem exists_value_eq (raws : SettingsField → Settings) :
    ∃ raw : Settings, ∀ field : SettingsField, field.value raw = field.value (raws field) := by
  refine ⟨⟨⟨(raws serverAddress).network.serverAddress, (raws serverPort).network.serverPort,
      (raws timeoutSeconds).network.timeoutSeconds⟩,
    ⟨(raws turnGraceSeconds).game.turnGraceSeconds,
      (raws requestLifetimeSeconds).game.requestLifetimeSeconds,
      (raws ticksPerSecond).game.ticksPerSecond,
      (raws defaultTurnSeconds).game.defaultTurnSeconds⟩,
    ⟨(raws logLevel).debug.logLevel⟩⟩, fun field => ?_⟩
  cases field <;> rfl

end SettingsField

namespace SettingsSection

theorem schema_eq (part : SettingsSection) :
    part.schema = .record part.typeName (.ofDefaults SettingsField.name SettingsField.schema
      (SettingsField.value .standard) part.fields) := by
  cases part <;> rfl

theorem value_eq (settings : Settings) (part : SettingsSection) :
    part.value settings =
      .record part.typeName (part.fields.map fun field => (field.name, field.value settings)) := by
  cases part <;> rfl

variable {part : SettingsSection} {document : Ron}

theorem IsStated.exists_isTaken (stated : part.IsStated settings written extensions document)
    (fits : settings.Fits) :
    ∃ raw, (∀ field ∈ part.fields, field.IsTaken settings written raw) ∧
      part.schema.read (Ron.source extensions) 126 document = some (part.value raw) := by
  obtain ⟨members, has, each⟩ := stated
  have taken := fun field (mem : field ∈ part.fields) =>
    (each field mem).exists_isTaken fits extensions 124
  have some : Nonempty Settings := ⟨.standard⟩
  choose! raws taken read using taken
  obtain ⟨raw, same⟩ := SettingsField.exists_value_eq raws
  refine ⟨raw, fun field mem => (taken field mem).congr (same field), ?_⟩
  rw [← Fields.names_ofDefaults SettingsField.name SettingsField.schema
    (SettingsField.value .standard)] at has
  rw [schema_eq, value_eq, has.read, Fields.read_ofDefaults, Option.map_some]
  intro field mem
  rw [same]
  exact read field mem

end SettingsSection

theorem Settings.schema_eq : schema = .record "Config" (.ofDefaults SettingsSection.name
    SettingsSection.schema (SettingsSection.value .standard) SettingsSection.all) := rfl

theorem Settings.toValue_eq (settings : Settings) :
    settings.toValue =
      .record "Config" (SettingsSection.all.map fun part => (part.name, part.value settings)) := rfl

/-- A document that gives settings is read, field by field. -/
theorem Settings.IsStated.exists_isTaken {document : Ron}
    (stated : settings.IsStated written extensions document) (fits : settings.Fits) :
    ∃ raw : Settings, (∀ field : SettingsField, field.IsTaken settings written raw) ∧
      schema.readDocument (Ron.source extensions) document = some raw.toValue := by
  obtain ⟨members, has, each⟩ := stated
  have taken : ∀ part : SettingsSection, ∃ raw : Settings,
      (∀ field ∈ part.fields, field.IsTaken settings written raw) ∧
      ((∃ inner, Ron.Gives members part.name inner ∧
        part.schema.read (Ron.source extensions) 126 inner = some (part.value raw)) ∨
      Ron.Lacks members part.name ∧ part.value raw = part.value .standard) := by
    intro part
    rcases each part with ⟨inner, gives, stated⟩ | ⟨lacks, notWritten⟩
    · obtain ⟨raw, taken, read⟩ := stated.exists_isTaken fits
      exact ⟨raw, taken, .inl ⟨inner, gives, read⟩⟩
    · exact ⟨.standard, fun field mem => ⟨fun isWritten => absurd isWritten (notWritten field mem),
        fun _ => rfl⟩, .inr ⟨lacks, rfl⟩⟩
  -- Each section was read as that of settings of its own, whose other sections do not matter.
  choose raws taken read using taken
  obtain ⟨raw, same⟩ := SettingsField.exists_value_eq fun field => raws field.home
  have sameSection : ∀ part : SettingsSection, part.value raw = part.value (raws part) := by
    intro part
    rw [part.value_eq, part.value_eq]
    congr 1
    refine List.map_congr_left fun field mem => ?_
    rw [same, SettingsSection.mem_fields.mp mem]
  refine ⟨raw, fun field => (taken field.home field (SettingsSection.mem_fields.mpr rfl)).congr
    (same field), ?_⟩
  rw [← Fields.names_ofDefaults SettingsSection.name SettingsSection.schema
    (SettingsSection.value .standard)] at has
  have whole := @Ron.HasMembers.read extensions "Config" 128 document members _ has
  rw [Schema.readDocument, schema_eq, toValue_eq]
  refine whole.trans ?_
  rw [Fields.read_ofDefaults, Option.map_some]
  intro part _
  rw [sameSection]
  exact read part

namespace Settings

/-- Settings have been read with the usable ones of the fields that are written, and with the
defaults of all others. -/
def KeepsUsable (settings : Settings) (written : SettingsField → Prop) (result : Settings) : Prop :=
  ∀ field : SettingsField,
    (written field ∧ field.Usable settings → field.value result = field.value settings) ∧
    (¬(written field ∧ field.Usable settings) → field.value result = field.value .standard)

theorem keepsUsable_sanitized {raw : Settings}
    (taken : ∀ field : SettingsField, field.IsTaken settings written raw) :
    settings.KeepsUsable written raw.sanitized := by
  intro field
  constructor
  · rintro ⟨isWritten, usable⟩
    -- What is undefined need not be read as it was written, but then it is not usable.
    rcases (taken field).of_written isWritten with same | ⟨_, unusable⟩
    · rw [SettingsField.value_sanitized_of_usable ((SettingsField.usable_congr same).mpr usable),
        same]
    · exact absurd usable unusable
  · intro other
    by_cases usable : field.Usable raw
    · have notWritten : ¬written field := by
        intro isWritten
        rcases (taken field).of_written isWritten with same | ⟨unusable, _⟩
        · exact other ⟨isWritten, (SettingsField.usable_congr same).mp usable⟩
        · exact unusable usable
      rw [SettingsField.value_sanitized_of_usable usable, (taken field).of_not_written notWritten]
    · exact SettingsField.value_sanitized_of_not_usable usable

theorem keepsUsable_sanitized_self (raw : Settings) :
    raw.KeepsUsable (fun _ => True) raw.sanitized :=
  keepsUsable_sanitized fun _ => ⟨fun _ => .inl rfl, fun no => absurd trivial no⟩

/-- A text whose document gives settings is read with what is usable of them. -/
theorem IsStated.ofText? {text : String} {document : Ron}
    (stated : settings.IsStated written extensions document) (fits : settings.Fits)
    (parsed : Ron.ofText? text = some (extensions, document)) :
    ∃ result, ofText? text = some result ∧ settings.KeepsUsable written result := by
  obtain ⟨raw, taken, read⟩ := stated.exists_isTaken fits
  have found : (Form.ofRonText? text : Option Settings) = some raw := by
    have document : Settings.schema.readRonText? text = some raw.toValue := by
      rw [Schema.readRonText?, parsed, Option.bind_some]
      exact read
    exact (congrArg (Option.bind · Settings.ofValue?) document).trans
      (lawful.ofValue?_toValue raw)
  refine ⟨raw.sanitized, ?_, keepsUsable_sanitized taken⟩
  rw [Settings.ofText?, found, Option.map_some]

end Settings

/-! ## Documents that are written -/

theorem SettingsField.name_injective : Function.Injective SettingsField.name := by
  have distinct : ∀ one ∈ all, ∀ other ∈ all, one.name = other.name → one = other := by decide
  exact fun one other => distinct one one.mem_all other other.mem_all

theorem SettingsSection.mem_all (part : SettingsSection) : part ∈ all := by
  cases part <;> decide

theorem SettingsSection.name_injective : Function.Injective SettingsSection.name := by
  have distinct : ∀ one ∈ all, ∀ other ∈ all, one.name = other.name → one = other := by decide
  exact fun one other => distinct one one.mem_all other other.mem_all

theorem SettingsField.isFieldName (field : SettingsField) : Ron.IsFieldName field.name := by
  cases field <;> exact .of_check (by decide)

theorem SettingsSection.isFieldName (part : SettingsSection) : Ron.IsFieldName part.name := by
  cases part <;> exact .of_check (by decide)

/-- What is written for a field spells it. -/
theorem SettingsField.exists_isWritten (settings : Settings) (field : SettingsField) :
    ∃ document, Ron.IsWritten (field.value settings) document ∧
      Ron.Spells field.schema (field.value settings) document := by
  cases field with
  | serverAddress | logLevel => exact ⟨_, .text _, .text _⟩
  | serverPort | timeoutSeconds | ticksPerSecond | defaultTurnSeconds =>
      exact ⟨_, .integer _, .integer _ (Ron.integerOf?_toString _ _)⟩
  | turnGraceSeconds | requestLifetimeSeconds =>
      obtain ⟨read, reads, same⟩ := Ron.singleOf?_text _
      exact ⟨_, .single _, .single reads same⟩

/-- Some fields of a section, and others. -/
def SettingsSection.excerpt (settings : Settings) (written : SettingsField → Bool)
    (others : List (String × Value)) (part : SettingsSection) : Value :=
  .record part.typeName
    ((part.fields.filter written).map (fun field => (field.name, field.value settings)) ++ others)

/-- Some sections of settings with some fields, and others. -/
def Settings.excerpt (settings : Settings) (given : SettingsSection → Bool)
    (written : SettingsField → Bool) (others : Option SettingsSection → List (String × Value)) :
    Value :=
  .record "Config"
    ((SettingsSection.all.filter given).map
      (fun part => (part.name, part.excerpt settings written (others (some part)))) ++ others none)

/-- A section with some of its fields and strange others is written so that it states them. -/
theorem SettingsSection.exists_isWritten (settings : Settings) {part : SettingsSection}
    {chosen : SettingsField → Bool} {others : List (String × Value)}
    (strange : Ron.AreStrange (part.fields.map SettingsField.name) 124 others)
    (agree : ∀ field ∈ part.fields, written field ↔ chosen field = true) :
    ∃ document, Ron.IsWritten (part.excerpt settings chosen others) document ∧
      part.IsStated settings written .none document := by
  obtain ⟨members, more, unknown⟩ := strange
  have single := SettingsField.exists_isWritten settings
  choose leaf isWritten spells using single
  have nodup : (part.fields.filter chosen).Nodup :=
    List.Nodup.filter _ (List.Nodup.filter _ (by decide))
  have known : ∀ field ∈ part.fields.filter chosen,
      field.name ∈ part.fields.map SettingsField.name :=
    fun field mem => List.mem_map_of_mem (List.mem_of_mem_filter mem)
  refine ⟨_, .record _ (more.append (.of_items SettingsField.isFieldName
    fun field _ => isWritten field)), _, Ron.hasMembers_ofMembers known
      fun member mem => (unknown member mem).2, fun field mem => ?_⟩
  have otherNames : ∀ member ∈ members, member.1 ≠ field.name :=
    fun member isOther same => (unknown member isOther).1 (same ▸ List.mem_map_of_mem mem)
  by_cases isChosen : chosen field = true
  · exact .inl ⟨(agree field mem).mpr isChosen, leaf field,
      Ron.gives_of_mem SettingsField.name_injective nodup
        (List.mem_filter.mpr ⟨mem, isChosen⟩) otherNames, spells field⟩
  · exact .inr ⟨mt (agree field mem).mp isChosen,
      Ron.lacks_of_not_mem SettingsField.name_injective
        (fun isMember => isChosen (List.mem_filter.mp isMember).2) otherNames⟩

namespace Settings

variable {given : SettingsSection → Bool} {chosen : SettingsField → Bool}
  {others : Option SettingsSection → List (String × Value)}

/-- What is written beside the fields of settings has names of its own, beside the sections and in
each of them. -/
structure AreStrange (others : Option SettingsSection → List (String × Value)) : Prop where
  outside : Ron.AreStrange (SettingsSection.all.map SettingsSection.name) 126 (others none)
  inside : ∀ part : SettingsSection,
    Ron.AreStrange (part.fields.map SettingsField.name) 124 (others (some part))

theorem exists_isWritten (settings : Settings) (strange : AreStrange others) :
    ∃ document, Ron.IsWritten (settings.excerpt given chosen others) document ∧
      settings.IsStated (fun field => given field.home = true ∧ chosen field = true) .none
        document := by
  obtain ⟨members, more, unknown⟩ := strange.outside
  have single : ∀ part : SettingsSection, ∃ document,
      Ron.IsWritten (part.excerpt settings chosen (others (some part))) document ∧
      (given part = true → part.IsStated settings
        (fun field => given field.home = true ∧ chosen field = true) .none document) := by
    intro part
    by_cases isGiven : given part = true
    · have agree : ∀ field ∈ part.fields,
          (given field.home = true ∧ chosen field = true) ↔ chosen field = true := by
        intro field mem
        rw [SettingsSection.mem_fields.mp mem]
        exact and_iff_right isGiven
      obtain ⟨document, written, stated⟩ :=
        SettingsSection.exists_isWritten settings (strange.inside part) agree
      exact ⟨document, written, fun _ => stated⟩
    · obtain ⟨document, written, _⟩ :=
        @SettingsSection.exists_isWritten (fun field => chosen field = true) settings part chosen _
          (strange.inside part) fun _ _ => Iff.rfl
      exact ⟨document, written, fun contrary => absurd contrary isGiven⟩
  choose inner isWritten stated using single
  have nodup : (SettingsSection.all.filter given).Nodup := List.Nodup.filter _ (by decide)
  have known : ∀ part ∈ SettingsSection.all.filter given,
      part.name ∈ SettingsSection.all.map SettingsSection.name :=
    fun part mem => List.mem_map_of_mem (List.mem_of_mem_filter mem)
  refine ⟨_, .record _ (more.append (.of_items SettingsSection.isFieldName
    fun part _ => isWritten part)), _, Ron.hasMembers_ofMembers known
      fun member mem => (unknown member mem).2, fun part => ?_⟩
  have otherNames : ∀ member ∈ members, member.1 ≠ part.name :=
    fun member isOther same => (unknown member isOther).1 (same ▸ List.mem_map_of_mem part.mem_all)
  by_cases isGiven : given part = true
  · exact .inl ⟨inner part, Ron.gives_of_mem SettingsSection.name_injective nodup
      (List.mem_filter.mpr ⟨part.mem_all, isGiven⟩) otherNames, stated part isGiven⟩
  · refine .inr ⟨Ron.lacks_of_not_mem SettingsSection.name_injective
      (fun isMember => isGiven (List.mem_filter.mp isMember).2) otherNames, fun field mem => ?_⟩
    rintro ⟨contrary, _⟩
    exact isGiven (SettingsSection.mem_fields.mp mem ▸ contrary)

/-- The text of some sections with some fields is read with what is usable of them. -/
theorem ofText?_excerpt {settings : Settings} (fits : settings.Fits) (strange : AreStrange others) :
    ∃ result, ofText? ((settings.excerpt given chosen others).ronText 0) = some result ∧
      settings.KeepsUsable (fun field => given field.home = true ∧ chosen field = true) result := by
  obtain ⟨document, isWritten, stated⟩ := settings.exists_isWritten strange
  exact stated.ofText? fits (isWritten.ofText?_ronText 0)

/-- The text of settings is read as these settings, with the defaults of what is not usable. -/
theorem ofText?_text {settings : Settings} (fits : settings.Fits) :
    ofText? settings.text = some settings.sanitized := by
  have nothing : AreStrange fun _ => [] :=
    ⟨⟨[], .nil, List.forall_mem_nil _⟩, fun _ => ⟨[], .nil, List.forall_mem_nil _⟩⟩
  have whole : settings.excerpt (fun _ => true) (fun _ => true) (fun _ => []) =
      settings.toValue := rfl
  obtain ⟨result, read, keeps⟩ :=
    @ofText?_excerpt (fun _ => true) (fun _ => true) _ settings fits nothing
  rw [whole] at read
  refine read.trans (congrArg some (SettingsField.settings_ext fun field => ?_))
  by_cases usable : field.Usable settings
  · rw [(keeps field).1 ⟨⟨rfl, rfl⟩, usable⟩, SettingsField.value_sanitized_of_usable usable]
  · rw [(keeps field).2 fun both => usable both.2,
      SettingsField.value_sanitized_of_not_usable usable]

/-- Settings that were read are usable in every field. -/
theorem usable_of_ofText? {text : String} {result : Settings} (read : ofText? text = some result)
    (field : SettingsField) : field.Usable result := by
  obtain ⟨raw, _, rfl⟩ := Option.map_eq_some_iff.mp read
  exact field.usable_sanitized raw

/-- Reading keeps what is usable and repairs the rest field by field. Whatever text gives some of
the fields of settings is accepted, whichever those are, in whatever order and spelling they stand
and whatever stands beside them that the notation lets pass; a field that it gives is read as it is
in the settings if it is usable there, and any other field is read as its default. Such a text is
written for every choice of sections and fields. So all settings that are read are usable, repairing
them again changes nothing, and what takes the place of a field does not depend on the others. -/
theorem repaired_field_by_field {settings : Settings} (fits : settings.Fits) :
    (∀ (written : SettingsField → Prop) (text : String) (extensions : Ron.Extensions)
      (document : Ron), Ron.ofText? text = some (extensions, document) →
      settings.IsStated written extensions document →
      ∃ result, ofText? text = some result ∧ settings.KeepsUsable written result) ∧
    (∀ (given : SettingsSection → Bool) (chosen : SettingsField → Bool)
      (others : Option SettingsSection → List (String × Value)), AreStrange others →
      ∃ result, ofText? ((settings.excerpt given chosen others).ronText 0) = some result ∧
        settings.KeepsUsable (fun field => given field.home = true ∧ chosen field = true) result) ∧
    (∀ (text : String) (result : Settings), ofText? text = some result →
      ∀ field : SettingsField, field.Usable result) ∧
    (∀ raw : Settings, raw.KeepsUsable (fun _ => True) raw.sanitized ∧
      raw.sanitized.sanitized = raw.sanitized) ∧
    ∀ (raw other : Settings) (field : SettingsField), field.value raw = field.value other →
      field.value raw.sanitized = field.value other.sanitized := by
  refine ⟨fun written text extensions document parsed stated => stated.ofText? fits parsed,
    fun given chosen others strange => ofText?_excerpt fits strange,
    fun text result read field => usable_of_ofText? read field,
    fun raw => ⟨raw.keepsUsable_sanitized_self, raw.sanitized_sanitized⟩,
    fun raw other field same => SettingsField.value_sanitized_congr same⟩

/-- Settings with a time below zero, a time that is zero and no ticks are written with a strange
field and without the time to wait for the server. Three defaults take their places, and a fourth
that of what was left out. -/
theorem repaired_but_for_port_and_turn :
    let settings : Settings := ⟨⟨"10.0.0.1", 9000, 7⟩, ⟨.ofBits 0xbf800000, .ofBits 0, 0, 45⟩,
      ⟨"debug"⟩⟩
    let others := fun part => if part = none then [("future_setting", Value.integer 3)] else []
    settings.Fits ∧ AreStrange others ∧
      ofText? ((settings.excerpt (fun _ => true) (· ≠ .timeoutSeconds) others).ronText 0) =
        some ⟨⟨"10.0.0.1", 9000, 30⟩, ⟨.ofNat 5, .ofNat 10, 60, 45⟩, ⟨"debug"⟩⟩ := by
  intro settings others
  have fits : settings.Fits := ⟨⟨by decide, by decide⟩, by decide, by decide⟩
  have strange : AreStrange others := by
    refine ⟨⟨_, .cons (.of_check (by decide)) (.integer 3) .nil, by decide⟩, fun part => ?_⟩
    exact ⟨[], .nil, List.forall_mem_nil _⟩
  refine ⟨fits, strange, ?_⟩
  obtain ⟨result, read, keeps⟩ :=
    (repaired_field_by_field fits).2.1 (fun _ => true) (· ≠ .timeoutSeconds) others strange
  refine read.trans (congrArg some (SettingsField.settings_ext fun field => ?_))
  have grace : ¬SettingsField.turnGraceSeconds.Usable settings :=
    mt (SettingsField.graceUsable_iff _).mpr (by decide)
  have lifetime : ¬SettingsField.requestLifetimeSeconds.Usable settings :=
    mt (SettingsField.lifetimeUsable_iff _).mpr (by decide)
  cases field with
  | timeoutSeconds => exact (keeps _).2 (by simp)
  | turnGraceSeconds => exact (keeps _).2 fun both => grace both.2
  | requestLifetimeSeconds => exact (keeps _).2 fun both => lifetime both.2
  | ticksPerSecond => exact (keeps _).2 fun both => both.2 rfl
  | defaultTurnSeconds => exact (keeps _).1 ⟨⟨rfl, rfl⟩, Nat.succ_ne_zero 44⟩
  | serverAddress | serverPort | logLevel => exact (keeps _).1 ⟨⟨rfl, rfl⟩, trivial⟩

end Settings

end TileMatch
