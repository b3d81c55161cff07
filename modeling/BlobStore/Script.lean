import BlobStore.Memory

/-!
# Scripted services

A service in memory that follows a script: chosen requests fail, chosen answers take the place of
those from memory. Every request is noted down.
-/

namespace BlobStore

/-- Which of the requests of one operation fail, counted from one. -/
structure FailureRule where
  operation : String
  first : Nat
  last : Option Nat
  key : Option String
  fault : Fault
  deriving DecidableEq

/-- Whether the rule is about the n-th request of its operation. -/
def FailureRule.applies (rule : FailureRule) (r : Request) (n : Nat) : Bool :=
  rule.operation = r.operation && rule.first ≤ n && rule.last.all (n ≤ ·) &&
    rule.key.all fun key => r.key? = some key

structure Script where
  failures : List FailureRule
  /-- What is told about the objects with these keys. -/
  heads : KeyMap Head
  /-- The answers to the next reads. -/
  downloads : List Download
  /-- The answers to the next listings. -/
  listings : List (Except Fault Listed)
  /-- Uploads are accepted, but no id is given and nothing is kept. -/
  withholdsUploadIds : Bool

def Script.none : Script := ⟨[], ∅, [], [], false⟩

structure Scripted where
  memory : Memory
  script : Script
  /-- The requests so far, in order. -/
  log : Array Request
  /-- How often each operation has been requested. -/
  counts : KeyMap Nat

namespace Scripted

def new (memory : Memory) (script : Script) : Scripted := ⟨memory, script, #[], ∅⟩

def record (s : Scripted) (r : Request) : Scripted :=
  { s with
    log := s.log.push r
    counts := s.counts.insert r.operation ((s.counts.get? r.operation).getD 0 + 1) }

private def fromMemory (r : Request) (s : Scripted) : Answer r × Scripted :=
  let (answer, memory) := Memory.serve r s.memory
  (answer, { s with memory })

/-- The answer when no failure rule applies. -/
def follow : Service Scripted
  | .head address, s =>
    match s.script.heads.get? address.key with
    | some head => (.ok head, s)
    | none => fromMemory (.head address) s
  | .get query, s =>
    match s.script.downloads with
    | next :: rest => (.ok next, { s with script := { s.script with downloads := rest } })
    | [] => fromMemory (.get query) s
  | .list query, s =>
    match s.script.listings with
    | next :: rest => (next, { s with script := { s.script with listings := rest } })
    | [] => fromMemory (.list query) s
  | .createUpload address headers, s =>
    if s.script.withholdsUploadIds then (.ok (none : Option String), s)
    else fromMemory (.createUpload address headers) s
  | r, s => fromMemory r s

/-- The request is noted down before anything else; then the first rule that applies decides. -/
def serve : Service Scripted := fun r s =>
  let s := s.record r
  let n := (s.counts.get? r.operation).getD 0
  match s.script.failures.find? (·.applies r n) with
  | some rule => (.error rule.fault, s)
  | none => follow r s

end Scripted

end BlobStore
