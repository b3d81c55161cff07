import BlobStore.Http.Decode

/-!
# Services on the network

A service that is reached by calls over a transport, and a transport that plays back replies. For
some buckets a session is opened first, which serves the requests that follow too.
-/

namespace BlobStore.Http

/-- A transport and the sessions that were opened over it, by their buckets. -/
structure Connection (τ : Type) where
  transport : τ
  sessions : KeyMap Session

def Connection.new {τ : Type} (transport : τ) : Connection τ := ⟨transport, ∅⟩

variable {τ : Type}

/-- The token for a request, if one is needed. Nothing comes of it if no session opens. -/
private def token? (e : Endpoint) (now : Moment) (send : Transport τ) (r : Request) (s : Connection τ) :
    Option (Option String) × Connection τ :=
  match sessionCall? e r.bucket with
  | none => (some none, s)
  | some call =>
    match (s.sessions.get? r.bucket).filter (·.isOpen now) with
    | some session => (some (some session.token), s)
    | none =>
      let (reply, transport) := send call s.transport
      match reply.bind session? with
      | some session => (some (some session.token), ⟨transport, s.sessions.insert r.bucket session⟩)
      | none => (none, { s with transport })

private def unanswered (r : Request) : Answer r := .error ExchangeFailure.unanswered.fault

/-- Sends a call that is the form of a request. -/
private def exchange (send : Transport τ) (call : Call) (r : Request) (s : τ) : Answer r × τ :=
  match send call s with
  | (none, s) => (unanswered r, s)
  | (some reply, s) => ((answerOf r reply).mapError (·.fault), s)

/-- The service at an endpoint. A request that cannot be written is not sent. Signing needs no call
but that for a session. -/
def serve (e : Endpoint) (now : Moment) (send : Transport τ) : Service (Connection τ) := fun r s =>
  match r with
  | .presign q expiry =>
    if (signedUrl? e q expiry none).isNone then (unanswered (.presign q expiry), s)
    else
      let (token, s) := token? e now send (.presign q expiry) s
      match token.bind (signedUrl? e q expiry) with
      | some url => (.ok url, s)
      | none => (unanswered (.presign q expiry), s)
  | r =>
    match call? e r with
    | none => (unanswered r, s)
    | some call =>
      let (token, s) := token? e now send r s
      if token.any fun token => token.all isFieldValue then
        let (answer, transport) := exchange send call r s.transport
        (answer, { s with transport })
      else (unanswered r, s)

/-- Replies to come, and the calls so far. -/
structure Replay where
  /-- A reply may fail to come. -/
  replies : List (Option Reply)
  log : Array Call

/-- Plays back the next reply. Once there are no more, none comes. -/
def Replay.send : Transport Replay := fun call s =>
  match s.replies with
  | [] => (none, { s with log := s.log.push call })
  | next :: rest => (next, ⟨rest, s.log.push call⟩)

end BlobStore.Http
