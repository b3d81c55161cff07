import BlobStore.Time.Instant

/-!
# Moments

Points in time as others report them, which may lie outside the range of instants.
-/

namespace BlobStore

/-- Seconds since 1970-01-01T00:00:00Z and the nanoseconds after that second. -/
structure Moment where
  seconds : Int
  nanos : Nat
  deriving DecidableEq, Repr

def Moment.instant? (m : Moment) : Option Time.Instant := Time.Instant.ofSeconds? m.seconds m.nanos

end BlobStore
