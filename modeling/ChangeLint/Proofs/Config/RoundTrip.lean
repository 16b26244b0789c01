import ChangeLint.Proofs.Config.Emitting
import ChangeLint.Proofs.Config.Files

/-! # Configurations are read back

A configuration that is written is a file with a setting for each of its fields.  What is not
given is not written, and stays what it is when nothing is said.

* `parse_toYaml` says that reading a written configuration gives it back, and
  `ofYaml_toYaml` that this holds of every configuration that may be used. -/

namespace ChangeLint

namespace Config

/-- What a configuration gives for a field, unless that is nothing. -/
def setting? (config : Config) : Field → Option Setting
  | .vcs => config.vcs.map .vcs
  | .linterOptions => config.linterOptions.map .linterOptions
  | .standardOutput => some (.standardOutput config.standardOutput)
  | .theme => some (.theme config.theme)
  | .linter => some (.linter config.linter)
  | .patterns => some (.patterns config.patterns)
  | .commits => some (.commits config.commits)

/-- The settings of a configuration, in the order in which they are written. -/
def settings (config : Config) : List Setting := Field.all.filterMap config.setting?

/-- All settings together are the whole of a configuration. -/
theorem foldl_settings (config : Config) : config.settings.foldl set {} = config := by
  -- Only these two fields can be left out; every other setting overwrites what was there.
  obtain ⟨vcs, linterOptions, _, _, _, _, _⟩ := config
  cases vcs <;> cases linterOptions <;> rfl

/-- No field is given twice. -/
theorem nodup_settings (config : Config) : (config.settings.map Setting.field).Nodup := by
  -- The fields written are a part of all fields, in the same order, so that it is enough that no
  -- field is listed twice among all of them.
  have hfields : config.settings.map Setting.field
      = Field.all.filter fun field => (config.setting? field).isSome := by
    obtain ⟨vcs, linterOptions, _, _, _, _, _⟩ := config
    cases vcs <;> cases linterOptions <;> rfl
  have hall : Field.all.Nodup := by decide
  rw [hfields]
  exact List.Pairwise.filter _ hall

/-- What is written are the settings. -/
theorem entries_eq (config : Config) :
    config.entries = config.settings.map fun given => (given.field.key.toList, given.value) := by
  obtain ⟨vcs, linterOptions, _, _, _, _, _⟩ := config
  cases vcs <;> cases linterOptions <;> rfl

theorem fitsLine_key (field : Field) : Yaml.Scanner.FitsLine .plain field.key.toList := by
  cases field <;> exact .plain (by decide) (by decide)

theorem filterMap_setting (given : List Setting) :
    (given.map (FileEntry.setting .plain)).filterMap FileEntry.setting? = given := by
  simp [List.filterMap_map, FileEntry.setting?, Function.comp_def]

/-- A configuration as a file. -/
def file (config : Config) : File where
  entries := config.settings.map (.setting .plain)
  valid := by
    intro entry hentry
    obtain ⟨given, _, rfl⟩ := List.mem_map.mp hentry
    exact .setting (fitsLine_key given.field)
  distinct := by
    rw [filterMap_setting]
    exact config.nodup_settings

/-- What is written is the file. -/
theorem text_file (config : Config) : config.file.text = config.toYaml := by
  rw [toYaml, entries_eq, Yaml.writeMapping_eq, File.text, file]
  -- Both sides write the settings one after the other.
  simp only [List.flatMap_map, List.map_map]
  rfl

/-- Whatever its fields are, a configuration that is written is read as it was. -/
theorem parse_toYaml (given : Config) : parse given.toYaml = .ok given := by
  have hconfig : given.file.config = given := by
    rw [File.config, File.settings, file, filterMap_setting, foldl_settings]
  rw [← text_file, File.parse_text, hconfig]

/-- What is read may be used. -/
theorem validate_of_ofYaml {text : String} {config : Config} (h : ofYaml text = .ok config) :
    config.validate = .ok () := by
  unfold ofYaml at h
  split at h
  · cases h
  · split at h
    · cases h
    -- The only way to an answer is through the check.
    case h_2 hvalid =>
      cases h
      exact hvalid

/-- Every configuration can be written.  One that may be used is read as it was written, and so is
every configuration that was read from a text. -/
theorem ofYaml_toYaml :
    (∀ config : Config, config.toYaml? = .ok config.toYaml) ∧
      (∀ config : Config, config.validate = .ok () → ofYaml config.toYaml = .ok config) ∧
      ∀ (text : String) (config : Config), ofYaml text = .ok config →
        config.validate = .ok () ∧ ofYaml config.toYaml = .ok config := by
  have hwritten : ∀ config : Config, config.validate = .ok () →
      ofYaml config.toYaml = .ok config := by
    intro config hvalid
    simp only [ofYaml, parse_toYaml, hvalid]
  refine ⟨toYaml?_eq, hwritten, fun text config hread => ?_⟩
  -- What was read passed the check, so that it is one of the configurations above.
  have hvalid := validate_of_ofYaml hread
  exact ⟨hvalid, hwritten config hvalid⟩

/-- A configuration whose texts look like anything but plain texts. -/
def awkward : Config where
  vcs := some "null"
  linterOptions := some " --a: 'b' # \"c\"\n\n"
  standardOutput := true
  theme := .off
  linter := "1e3"
  patterns := []
  commits := ["~", "", "\t\x85- é: "]

theorem ofYaml_toYaml_awkward :
    awkward.validate = .ok () ∧ awkward.toYaml? = .ok awkward.toYaml ∧
      ofYaml awkward.toYaml = .ok awkward := by
  obtain ⟨hwritten, hreads, hreread⟩ := ofYaml_toYaml
  have hvalid : awkward.validate = .ok () := by rfl
  have hread := hreread awkward.toYaml awkward (hreads awkward hvalid)
  exact ⟨hvalid, hwritten awkward, hread.2⟩

end Config

end ChangeLint
