import BlobStore.Cli.Aliases
import BlobStore.Cli.Browse
import BlobStore.Cli.Put
import BlobStore.Cli.Read
import BlobStore.Cli.Remove
import BlobStore.Cli.Sign
import BlobStore.Cli.Stat

/-!
# Carrying out a command

The configuration is loaded first; without it no command is carried out. It may ask for JSON as the
command line may.
-/

namespace BlobStore.Cli

variable {σ : Type}

def styleFor (wished : Style) (defaults : Defaults) : Style :=
  { wished with json := wished.json || defaults.output = "json" }

def perform (s : Setting σ) (style : Style) (defaults : Defaults) : Command → Step σ ExitStatus
  | .list a => Browse.execute s style defaults a
  | .read path offset length => Read.execute s style path offset length
  | .put a => Put.execute s style defaults a
  | .attributes path => Stat.execute s style path
  | .remove a => Remove.execute s style a
  | .sign path expiry => Sign.execute s style path expiry
  | .defineAlias name url => Aliases.define style ⟨name, url⟩
  | .listAliases => Aliases.list style
  | .removeAlias name => Aliases.remove style name

/-- Without a configuration the error is reported in the plain style. -/
def withoutConfig {α : Type} (e : Error) : Step σ α :=
  Step.fail Style.plain "Failed to load configuration" e

/-- Carries out a command. `colors` says whether the terminal can show colors. -/
def Invocation.run (s : Setting σ) (colors : Bool) (i : Invocation) : StateM (Desk σ) Outcome :=
  Step.run do
    let config ← match (← get).config.load with
      | .ok config => pure config
      | .error e => withoutConfig e
    let wished := i.style
    let style : Style := { wished with noColor := wished.noColor || !colors }
    perform s (styleFor style config.defaults) config.defaults i.command

end BlobStore.Cli
