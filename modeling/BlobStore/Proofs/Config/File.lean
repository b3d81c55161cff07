import BlobStore.Config.File
import BlobStore.Proofs.Config.Text
import BlobStore.Proofs.Text.ByteOrder

/-!
# A configuration file is loaded as it has been saved

Saving puts the text of a configuration in the place of the file, and no string can hold anything
that this text would lose.
-/

namespace BlobStore.ConfigFile

theorem load_text {config : Config} (h : config.schemaVersion.toNat ≤ BlobStore.schemaVersion)
    (ownerOnly : Bool) : load (.present config.text.toUTF8 ownerOnly) = .ok config := by
  rw [load, Text.fromUTF8?_toUTF8]
  exact Config.parse_text h

private theorem save_directory (config : Config) :
    save config .directory = (.error (.io .isDirectory), .directory) :=
  rfl

theorem save_of_ne_directory {file : ConfigFile} (config : Config) (h : file ≠ .directory) :
    save config file = (.ok (), .present config.text.toUTF8 true) := by
  cases file with
  | absent => rfl
  | directory => exact absurd rfl h
  | present bytes ownerOnly => rfl

/-- What is saved is what is loaded after that, the aliases in their order and every string to the
last character. Saving fails only where there is a directory. -/
theorem save_lossless (file : ConfigFile) {config : Config}
    (hversion : config.schemaVersion.toNat ≤ BlobStore.schemaVersion) :
    (∀ next, save config file = (.ok (), next) → next.load = .ok config) ∧
      ((∃ next, save config file = (.ok (), next)) ↔ file ≠ .directory) := by
  constructor
  · intro next hsave
    by_cases hfile : file = .directory
    · rw [hfile, save_directory] at hsave
      cases hsave
    · rw [save_of_ne_directory config hfile] at hsave
      cases hsave
      exact load_text hversion true
  · constructor
    · rintro ⟨next, hsave⟩ rfl
      rw [save_directory] at hsave
      cases hsave
    · intro hfile
      exact ⟨_, save_of_ne_directory config hfile⟩

/-- Its strings take all five forms, and begin and end with the marks that they stand between. -/
def awkward : Config where
  schemaVersion := 0
  defaults := ⟨"\"\"\"'''\\\r\x7f\n\"\"", 18446744073709551615, 0⟩
  aliases := [⟨"plain", "\tC:\\\"quoted\""⟩, ⟨"''it's \"so\"\"", "\n'\\''"⟩, ⟨"plain", "\x00é😀"⟩]

theorem save_lossless_awkward :
    awkward.schemaVersion.toNat ≤ BlobStore.schemaVersion ∧
      ∃ next, save awkward .absent = (.ok (), next) ∧ next.load = .ok awkward := by
  have hversion : awkward.schemaVersion.toNat ≤ BlobStore.schemaVersion := by decide
  obtain ⟨hload, hsave⟩ := save_lossless .absent hversion
  obtain ⟨next, hnext⟩ := hsave.mpr nofun
  exact ⟨hversion, next, hnext, hload next hnext⟩

end BlobStore.ConfigFile
