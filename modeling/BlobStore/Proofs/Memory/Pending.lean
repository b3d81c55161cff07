import BlobStore.Memory
import BlobStore.Proofs.KeyMap
import BlobStore.Proofs.Upload.Parts
import Mathlib.Data.List.Induction

/-!
# Unfinished uploads in memory

Names of uploads are given out by counting, so in every state that the memory can get into a new
upload has a name of its own. What the memory holds of an upload in parts is what is on record of it.
-/

namespace BlobStore.Memory

open Upload

/-- Every unfinished upload has a name that has been given out. -/
def Issued (m : Memory) : Prop :=
  ∀ id pending, m.uploads.get? id = some pending → ∃ n, 0 < n ∧ n ≤ m.started ∧ id = uploadName n

theorem uploadName_injective {a b : Nat} (h : uploadName a = uploadName b) : a = b := by
  unfold uploadName at h
  have hd := congrArg String.toList ((String.append_right_inj _).mp h)
  rw [Nat.toString_eq_repr, Nat.toString_eq_repr, Nat.toList_repr, Nat.toList_repr] at hd
  rw [← Nat.ofDigitChars_ten_toDigits (n := a), hd, Nat.ofDigitChars_ten_toDigits]

theorem Issued.empty : empty.Issued := by
  intro id pending h
  simp [Memory.empty] at h

theorem Issued.fresh {m : Memory} (h : m.Issued) :
    m.uploads.get? (uploadName (m.started + 1)) = none := by
  rw [Option.eq_none_iff_forall_ne_some]
  intro pending hp
  obtain ⟨n, _, hle, hn⟩ := h _ _ hp
  have := uploadName_injective hn
  omega

theorem Issued.erase {m : Memory} (h : m.Issued) (id : String) (objects : KeyMap StoredObject) :
    Issued { m with objects, uploads := m.uploads.erase id } := by
  intro other pending hp
  rw [KeyMap.get?_erase] at hp
  split at hp
  · simp at hp
  · exact h _ _ hp

theorem Issued.insert {m : Memory} {n : Nat} (h : m.Issued) (hn : m.started ≤ n)
    {id : String} (hid : ∃ k, 0 < k ∧ k ≤ n ∧ id = uploadName k) (pending : PendingUpload) :
    Issued { m with started := n, uploads := m.uploads.insert id pending } := by
  intro other found hp
  rw [KeyMap.get?_insert] at hp
  split at hp
  · rename_i he
    exact he ▸ hid
  · obtain ⟨k, hpos, hle, hk⟩ := h _ _ hp
    exact ⟨k, hpos, Nat.le_trans hle hn, hk⟩

theorem Issued.serve {m : Memory} (h : m.Issued) (r : Request) : (serve r m).2.Issued := by
  cases r with
  | head | get | list | presign => exact h
  | delete => exact h
  | put => exact h
  | createUpload address headers =>
    exact h.insert (Nat.le_succ _) ⟨m.started + 1, Nat.succ_pos _, Nat.le_refl _, rfl⟩ _
  | uploadPart address id number body =>
    simp only [Memory.serve, uploadPart]
    split
    · exact h
    · rename_i pending hp
      exact h.insert (Nat.le_refl _) (h _ _ hp) _
  | completeUpload address id parts =>
    simp only [Memory.serve, completeUpload]
    split
    · exact h
    · split
      · exact h.erase id _
      · exact h.erase id _
  | abortUpload address id => exact h.erase id _

/-- The memory with one more upload, of which these parts have been taken. -/
def holding (m : Memory) (object : NewObject) (id : String) (parts : List SentPart) : Memory :=
  { m with
    started := m.started + 1
    uploads := m.uploads.insert id
      { key := object.address.key, headers := object.headers,
        parts := (parts.map fun x => (x.number, x.body)).reverse } }

theorem get?_holding (m : Memory) (object : NewObject) (id : String) (parts : List SentPart) :
    (m.holding object id parts).uploads.get? id = some
      { key := object.address.key, headers := object.headers,
        parts := (parts.map fun x => (x.number, x.body)).reverse } := by
  simp [holding]

theorem uploadPart_holding (m : Memory) (object : NewObject) (id : String) (parts : List SentPart)
    (number : Nat) (body : ByteArray) :
    (m.holding object id parts).uploadPart id number body = (.ok (some (partTag number)),
      m.holding object id (parts ++ [⟨number, body, some (partTag number)⟩])) := by
  simp only [uploadPart, get?_holding]
  simp only [holding, KeyMap.insert_insert, List.map_append, List.reverse_append, List.map_cons,
    List.map_nil, List.reverse_cons, List.reverse_nil, List.nil_append, List.cons_append]

theorem erase_holding {m : Memory} (h : m.Issued) (object : NewObject) (parts : List SentPart) :
    (m.holding object (uploadName (m.started + 1)) parts).uploads.erase
      (uploadName (m.started + 1)) = m.uploads := by
  rw [holding, KeyMap.erase_insert, KeyMap.erase_of_absent h.fresh]

private theorem lookup_parts {parts : List SentPart} (hn : (parts.map (·.number)).Nodup)
    {x : SentPart} (hx : x ∈ parts) :
    ((parts.map fun y => (y.number, y.body)).reverse).lookup x.number = some x.body := by
  obtain ⟨front, back, rfl⟩ := List.append_of_mem hx
  rw [List.lookup_eq_some_iff]
  refine ⟨(back.map fun y => (y.number, y.body)).reverse,
    (front.map fun y => (y.number, y.body)).reverse, by simp, ?_⟩
  intro pair hpair
  obtain ⟨y, hy, rfl⟩ := List.mem_map.mp (List.mem_reverse.mp hpair)
  rw [List.map_append, List.map_cons] at hn
  have hne := (List.nodup_cons.mp (List.nodup_append.mp hn).2.1).1
  simp only [bne_iff_ne, ne_eq]
  intro he
  exact hne (he ▸ List.mem_map_of_mem hy)

private theorem foldlM_parts {pairs : List (Nat × ByteArray)} {listed : List SentPart}
    (h : ∀ x ∈ listed, pairs.lookup x.number = some x.body) (data : ByteArray) :
    (listed.map (·.receipt)).foldlM (fun data receipt =>
      match pairs.lookup receipt.number with
      | some bytes => Except.ok (data ++ bytes)
      | none => .error (missingPart receipt.number)) data = .ok (data ++ SentPart.joined listed) := by
  induction listed generalizing data with
  | nil =>
    rw [SentPart.joined_nil, ByteArray.append_empty]
    rfl
  | cons x listed ih =>
    have hx : pairs.lookup x.receipt.number = some x.body := h x (by simp)
    rw [List.map_cons, List.foldlM_cons, hx]
    change List.foldlM _ (data ++ x.body) _ = _
    rw [ih (fun y hy => h y (by simp [hy])), SentPart.joined_cons, ByteArray.append_assoc]

theorem joinParts_numbered {parts : List SentPart} (h : SentPart.Numbered parts) :
    joinParts (parts.map fun x => (x.number, x.body)).reverse (parts.map (·.receipt)) =
      .ok (SentPart.joined parts) := by
  have hfold := foldlM_parts (fun x hx => lookup_parts h.nodup hx) ByteArray.empty
  rw [ByteArray.empty_append] at hfold
  exact hfold

/-- What is on record of an upload in parts tells its name and what the memory holds of it. -/
theorem trail_opened {plan : Mishaps} {m t : Memory} {object : NewObject} {id : String}
    {parts : List SentPart} (h : Service.Trail Memory.serve plan m (opened object id parts) t) :
    id = uploadName (m.started + 1) ∧ t = m.holding object id parts := by
  induction parts using List.reverseRecOn generalizing t with
  | nil =>
    rcases Service.Trail.single h with ⟨hm, _⟩ | ⟨-, ha, rfl⟩
    · rcases Mishaps.answer?_eq_some hm with ⟨why, ha⟩ | ⟨address, headers, he⟩
      · cases ha
      · cases he
    · obtain rfl : id = uploadName (m.started + 1) := by cases ha; rfl
      exact ⟨rfl, rfl⟩
  | append_singleton parts x ih =>
    rw [opened_append] at h
    obtain ⟨u, hu, hlast⟩ := h.last
    obtain ⟨rfl, rfl⟩ := ih hu
    refine ⟨rfl, ?_⟩
    obtain ⟨number, body, etag⟩ := x
    rcases hlast with ⟨hm, _⟩ | ⟨-, ha, rfl⟩
    · rcases Mishaps.answer?_eq_some hm with ⟨why, ha⟩ | ⟨address, headers, he⟩
      · cases ha
      · cases he
    · simp only [SentPart.event, Memory.serve, uploadPart_holding] at ha ⊢
      obtain rfl : etag = some (partTag number) := by cases ha; rfl
      rfl

end BlobStore.Memory
