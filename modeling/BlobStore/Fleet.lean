import BlobStore.Bucket
import BlobStore.Location

/-!
# Fleets

Many buckets with a service each, by their names. A bucket that is opened for the first time
starts fresh.
-/

namespace BlobStore

abbrev Fleet (σ : Type) := KeyMap σ

namespace Fleet

variable {σ : Type}

/-- A request to one bucket changes nothing else. -/
def serve (service : Service σ) (fresh : σ) (name : String) : Service (Fleet σ) := fun r fleet =>
  let (answer, s) := service r ((fleet.get? name).getD fresh)
  (answer, fleet.insert name s)

/-- Opens the bucket at a location. -/
def connect (service : Service σ) (fresh : σ) (l : Location) : Action (Fleet σ) (Bucket (Fleet σ)) :=
  fun fleet =>
    match Bucket.open? l.bucket (serve service fresh l.bucket) with
    | .ok b => (.ok b, fleet.insert l.bucket ((fleet.get? l.bucket).getD fresh))
    | .error e => (.error e, fleet)

end Fleet

end BlobStore
