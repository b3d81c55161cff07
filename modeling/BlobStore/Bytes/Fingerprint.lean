/-!
# Fingerprints

The 64-bit FNV-1a hash of a byte string.
-/

namespace BlobStore.Bytes

/-- Each byte is mixed in by exclusive or and a multiplication with the prime, modulo 2^64. -/
def fingerprint (bytes : ByteArray) : UInt64 :=
  bytes.foldl (fun h b => (h ^^^ b.toUInt64) * 0x100000001b3) 0xcbf29ce484222325

end BlobStore.Bytes
