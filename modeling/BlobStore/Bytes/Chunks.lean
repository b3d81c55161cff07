/-!
# Chunks

Bytes in pieces of one size, of which the last may be shorter.
-/

namespace BlobStore.Bytes

/-- The pieces of `size` bytes; none is empty. -/
def chunks (size : Nat) (bytes : ByteArray) : List ByteArray :=
  (List.range ((bytes.size + size - 1) / size)).map fun i => bytes.extract (i * size) ((i + 1) * size)

theorem nonempty_of_mem_chunks {size : Nat} {bytes : ByteArray} :
    ∀ chunk ∈ chunks size bytes, chunk.isEmpty = false := by
  intro chunk hchunk
  obtain ⟨i, hi, rfl⟩ := List.mem_map.mp hchunk
  have hsize : 0 < size := Nat.pos_of_ne_zero fun hzero => by simp [hzero] at hi
  have hstart : (i + 1) * size ≤ bytes.size + size - 1 :=
    (Nat.le_div_iff_mul_le hsize).mp (List.mem_range.mp hi)
  rw [Nat.succ_mul] at hstart
  simp only [ByteArray.isEmpty, ByteArray.size_extract, beq_eq_false_iff_ne]
  rw [Nat.succ_mul]
  omega

end BlobStore.Bytes
