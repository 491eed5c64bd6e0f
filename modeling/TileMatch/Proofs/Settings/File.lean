import TileMatch.Proofs.Settings.Reading
import TileMatch.Replay.Report

/-!
# The settings file is kept

Loading only reads a file that is there, whatever it holds and whether it can be used, and writes
the defaults where there is none. So only the first of several loads can change anything, and what
is asked for on the command line goes into the settings of a replay and not into the file.
-/

namespace TileMatch

namespace SettingsDirectory

variable {directory saved : SettingsDirectory} {settings : Settings}

/-- What is saved is in the place of the file, unless that place is taken. -/
theorem save_eq_ok_iff : directory.save settings = .ok saved ↔
    directory ≠ .blocked ∧ directory ≠ .present .folder ∧
      saved = .present (.text settings.text) := by
  rcases directory with _ | (_ | content | _ | _) | _ <;> simp [save, eq_comm]

/-- Where nothing is in the place of the file, the defaults are written. -/
theorem loadOrCreate_of_missing (missing : directory = .missing ∨ directory = .present .missing) :
    directory.loadOrCreate = (.ok .standard, .present (.text Settings.standard.text)) := by
  rcases missing with rfl | rfl <;> rfl

/-- A file that holds a text is read. -/
theorem loadOrCreate_of_text (content : String) :
    loadOrCreate (.present (.text content)) =
      ((Settings.ofText? content).elim (.error .unparsable) .ok, .present (.text content)) := by
  rw [loadOrCreate]
  cases Settings.ofText? content <;> rfl

/-- Loading changes nothing where something is in the place of the file. -/
theorem loadOrCreate_snd_of_not_missing
    (there : ¬(directory = .missing ∨ directory = .present .missing)) :
    directory.loadOrCreate.2 = directory := by
  rcases directory with _ | (_ | content | _ | _) | _
  · exact absurd (.inl rfl) there
  · exact absurd (.inr rfl) there
  · rw [loadOrCreate_of_text]
  · rfl
  · rfl
  · rfl

theorem standard_fits : Settings.standard.Fits := ⟨⟨by decide, by decide⟩, by decide, by decide⟩

/-- What was saved is loaded as it is read. -/
theorem loadOrCreate_of_save (fits : settings.Fits)
    (isSaved : directory.save settings = .ok saved) :
    saved.loadOrCreate = (.ok settings.sanitized, saved) := by
  obtain ⟨_, _, rfl⟩ := save_eq_ok_iff.mp isSaved
  rw [loadOrCreate_of_text, Settings.ofText?_text fits]
  rfl

/-- A second load gives the answer of the first one and changes nothing. -/
theorem loadOrCreate_loadOrCreate (directory : SettingsDirectory) :
    directory.loadOrCreate.2.loadOrCreate = directory.loadOrCreate := by
  by_cases missing : directory = .missing ∨ directory = .present .missing
  · have usable : Settings.standard.sanitized = .standard :=
      SettingsField.settings_ext fun field =>
        SettingsField.value_sanitized_of_usable field.usable_standard
    rw [loadOrCreate_of_missing missing, loadOrCreate_of_text, Settings.ofText?_text standard_fits,
      usable]
    rfl
  · rw [loadOrCreate_snd_of_not_missing missing]

end SettingsDirectory

namespace Replay.Options

theorem prepare_directory (options : Options) (directory : SettingsDirectory) :
    (options.prepare directory).directory = directory.loadOrCreate.2 := by
  rw [prepare]
  split <;> simp_all

theorem prepare_settings (options : Options) (directory : SettingsDirectory) :
    (options.prepare directory).settings =
      (directory.loadOrCreate.1.toOption.getD .standard).withOverride options.changes := by
  rw [prepare]
  split <;> simp_all [Except.toOption]

/-- The directory after a number of replays. -/
def directoryAfter (directory : SettingsDirectory) (runs : List Options) : SettingsDirectory :=
  runs.foldl (fun directory options => (options.prepare directory).directory) directory

/-- Only the first of several replays can change the directory, and by loading alone. -/
theorem directoryAfter_cons (directory : SettingsDirectory) (first : Options)
    (runs : List Options) :
    directoryAfter directory (first :: runs) = directory.loadOrCreate.2 := by
  induction runs generalizing first directory with
  | nil => exact first.prepare_directory directory
  | cons next runs hypothesis =>
      rw [directoryAfter, List.foldl_cons, ← directoryAfter, hypothesis, prepare_directory,
        SettingsDirectory.loadOrCreate_loadOrCreate]

end Replay.Options

namespace SettingsDirectory

/-- The file keeps what is in it. Settings that were saved are loaded as they are, with the defaults
of what is not usable. A text in the file is left as it is, whether it can be read or not and
whether what is read was repaired, and so is whatever else is in its place; the defaults are written
only where there is nothing. So a second load gives the same answer and changes nothing, and however
often a replay loads the settings, what its command line asks for is never written. -/
theorem file_is_kept {settings : Settings} (fits : settings.Fits) :
    (∀ directory saved : SettingsDirectory, directory.save settings = .ok saved →
      saved.loadOrCreate = (.ok settings.sanitized, saved) ∧
        settings.KeepsUsable (fun _ => True) settings.sanitized) ∧
    (∀ directory saved : SettingsDirectory, directory.save settings = .ok saved ↔
      directory ≠ .blocked ∧ directory ≠ .present .folder ∧
        saved = .present (.text settings.text)) ∧
    (∀ content : String, loadOrCreate (.present (.text content)) =
      ((Settings.ofText? content).elim (.error .unparsable) .ok, .present (.text content))) ∧
    (∀ directory : SettingsDirectory, directory = .missing ∨ directory = .present .missing →
      directory.loadOrCreate = (.ok .standard, .present (.text Settings.standard.text))) ∧
    (∀ directory : SettingsDirectory, ¬(directory = .missing ∨ directory = .present .missing) →
      directory.loadOrCreate.2 = directory) ∧
    (∀ directory : SettingsDirectory,
      directory.loadOrCreate.2.loadOrCreate = directory.loadOrCreate) ∧
    ∀ (directory : SettingsDirectory) (options : Replay.Options) (runs : List Replay.Options),
      (options.prepare directory).settings =
          (directory.loadOrCreate.1.toOption.getD .standard).withOverride options.changes ∧
        Replay.Options.directoryAfter directory (options :: runs) = directory.loadOrCreate.2 := by
  refine ⟨fun directory saved isSaved => ⟨loadOrCreate_of_save fits isSaved,
      Settings.keepsUsable_sanitized_self settings⟩,
    fun directory saved => save_eq_ok_iff, loadOrCreate_of_text,
    fun directory missing => loadOrCreate_of_missing missing,
    fun directory there => loadOrCreate_snd_of_not_missing there, loadOrCreate_loadOrCreate,
    fun directory options runs => ⟨options.prepare_settings directory,
      Replay.Options.directoryAfter_cons directory options runs⟩⟩

/-- Settings whose texts have to be escaped and whose times are undefined and a zero with a sign are
saved over a text that is no document, and loaded with the default times. -/
theorem escaped_texts_are_kept :
    let settings : Settings := ⟨⟨"a \"host\" \\ 1\n", 7777, 30⟩,
      ⟨.ofBits 0x7fc00000, .ofBits 0x80000000, 60, 30⟩, ⟨"in\u0301fo\u0000"⟩⟩
    let saved : SettingsDirectory := .present (.text settings.text)
    settings.Fits ∧ save (.present (.text "(game:")) settings = .ok saved ∧
      saved.loadOrCreate = (.ok { settings with game := .standard }, saved) := by
  intro settings saved
  have fits : settings.Fits := ⟨⟨by decide, by decide⟩, by decide, by decide⟩
  have isSaved : save (.present (.text "(game:")) settings = .ok saved := rfl
  have repaired : settings.sanitized = { settings with game := .standard } := by
    have grace : GameSettings.graceUsable settings.game.turnGraceSeconds = false := by decide
    have lifetime : GameSettings.lifetimeUsable settings.game.requestLifetimeSeconds = false := by
      decide
    simp only [Settings.sanitized, GameSettings.sanitized, grace, lifetime]
    rfl
  refine ⟨fits, isSaved, ?_⟩
  rw [← repaired]
  exact ((file_is_kept fits).1 _ saved isSaved).1

end SettingsDirectory

end TileMatch
