import BlobStore.Proofs.Mishap
import BlobStore.Upload

/-!
# Parts of a body

How the bytes that are held are cut into a part and a rest, and what is on record of the parts that
the service has taken.
-/

namespace BlobStore

namespace Bytes

/-- Pieces of a body, one after the other. -/
def join (pieces : List ByteArray) : ByteArray := pieces.foldr (· ++ ·) ByteArray.empty

@[simp] theorem join_nil : join [] = ByteArray.empty := rfl

@[simp] theorem join_cons (piece : ByteArray) (pieces : List ByteArray) :
    join (piece :: pieces) = piece ++ join pieces := rfl

@[simp] theorem join_append (xs ys : List ByteArray) : join (xs ++ ys) = join xs ++ join ys := by
  induction xs with
  | nil => simp
  | cons x xs ih => simp [ih, ByteArray.append_assoc]

theorem size_join {pieces : List ByteArray} {size : Nat} (h : ∀ piece ∈ pieces, piece.size = size) :
    (join pieces).size = pieces.length * size := by
  induction pieces with
  | nil => simp
  | cons piece pieces ih =>
    have hhead := h piece (by simp)
    have htail := ih fun x hx => h x (by simp [hx])
    rw [join_cons, ByteArray.size_append, hhead, htail, List.length_cons, Nat.succ_mul, Nat.add_comm]

end Bytes

namespace Held

theorem part_append_rest (p : Nat) (h : Held) : h.part p ++ (h.rest p).bytes = h.bytes := by
  simp only [part, rest, ByteArray.extract_append_extract, Nat.zero_le, Nat.min_eq_left,
    ByteArray.extract_zero_max_size]

@[simp] theorem size_part (p : Nat) (h : Held) : (h.part p).size = min p h.bytes.size := by
  simp [part]

@[simp] theorem size_rest (p : Nat) (h : Held) : (h.rest p).bytes.size = h.bytes.size - p := by
  simp [rest]

@[simp] theorem ended_rest (p : Nat) (h : Held) : (h.rest p).ended = h.ended := rfl

@[simp] theorem bytes_add_some (h : Held) (chunk : ByteArray) :
    (h.add (some chunk)).bytes = h.bytes ++ chunk := rfl

@[simp] theorem ended_add_some (h : Held) (chunk : ByteArray) :
    (h.add (some chunk)).ended = h.ended := rfl

@[simp] theorem ended_add_none (h : Held) : (h.add none).ended = true := rfl

theorem isReady_eq_true {p : Nat} {h : Held} :
    h.isReady p = true ↔ h.ended = true ∨ p < h.bytes.size := by
  simp [isReady]

theorem isEmpty_eq_true {h : Held} : h.isEmpty = true ↔ h.bytes.size = 0 := by
  simp [isEmpty]

end Held

/-- A part that the service has taken. -/
structure SentPart where
  number : Nat
  body : ByteArray
  etag : Option String

namespace SentPart

def receipt (x : SentPart) : PartReceipt := ⟨x.number, x.etag⟩

def event (address : Address) (uploadId : String) (x : SentPart) : Event :=
  ⟨.uploadPart address uploadId x.number (.ofBytes x.body), .ok x.etag⟩

def joined (parts : List SentPart) : ByteArray := Bytes.join (parts.map (·.body))

@[simp] theorem joined_nil : joined [] = ByteArray.empty := rfl

@[simp] theorem joined_cons (x : SentPart) (parts : List SentPart) :
    joined (x :: parts) = x.body ++ joined parts := rfl

@[simp] theorem joined_append_singleton (parts : List SentPart) (x : SentPart) :
    joined (parts ++ [x]) = joined parts ++ x.body := by
  simp [joined]

/-- The parts are numbered from one on, without gaps. -/
def Numbered (parts : List SentPart) : Prop :=
  parts.map (·.number) = List.range' 1 parts.length

theorem Numbered.nil : Numbered [] := rfl

theorem Numbered.append {parts : List SentPart} (h : Numbered parts) {x : SentPart}
    (hx : x.number = parts.length + 1) : Numbered (parts ++ [x]) := by
  unfold Numbered at *
  rw [List.map_append, h, List.length_append, List.length_singleton, List.range'_concat,
    List.map_singleton, hx]
  congr 2
  omega

theorem Numbered.nodup {parts : List SentPart} (h : Numbered parts) :
    (parts.map (·.number)).Nodup := by
  rw [h]
  exact List.nodup_range'

end SentPart

namespace Upload

/-- What is on record once an upload in parts has been started and these parts have been taken. -/
def opened (object : NewObject) (uploadId : String) (parts : List SentPart) : List Event :=
  ⟨.createUpload object.address object.headers, .ok (some uploadId)⟩ ::
    parts.map (·.event object.address uploadId)

theorem opened_append (object : NewObject) (uploadId : String) (parts : List SentPart)
    (x : SentPart) : opened object uploadId (parts ++ [x]) =
      opened object uploadId parts ++ [x.event object.address uploadId] := by
  simp [opened]

theorem forall_mem_opened {object : NewObject} {uploadId : String} {parts : List SentPart}
    {P : Event → Prop} :
    (∀ e ∈ opened object uploadId parts, P e) ↔
      P ⟨.createUpload object.address object.headers, .ok (some uploadId)⟩ ∧
        ∀ x ∈ parts, P (x.event object.address uploadId) := by
  rw [opened, List.forall_mem_cons, List.forall_mem_map]

end Upload

end BlobStore
