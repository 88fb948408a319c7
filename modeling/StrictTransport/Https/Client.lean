import StrictTransport.Record.Basic
import StrictTransport.World

namespace StrictTransport.Https

variable {σ : Type}

inductive Trust where
  | system
  -- Any certificate will do; for tests only.
  | permissive
  deriving DecidableEq, Repr

structure Client where
  trust : Trust
  timeout : Seconds
  port : Option Int
  deriving DecidableEq, Repr

namespace Client

def defaultTimeout : Binary64 := .ofInt 2

def standard : Client := ⟨.system, .real defaultTimeout, none⟩

def url (client : Client) (domain : String) : String :=
  let host := s!"mta-sts.{Domain.normalize domain}"
  let authority := match client.port with
    | some port => s!"{host}:{port}"
    | none => host
  s!"https://{authority}/.well-known/mta-sts.txt"

end Client

structure Collected where
  bytes : Bytes
  truncated : Bool
  taken : Nat
  deriving DecidableEq, Repr

-- Chunks are taken up to the one that exceeds the limit.
def countTaken (limit : Int) : (size : Nat) → List Bytes → Nat
  | _, [] => 0
  | size, chunk :: chunks =>
    let size := size + chunk.length
    if limit < size then 1 else countTaken limit size chunks + 1

-- Where there are no chunks none exceeds the limit, even one below zero.
def collect (limit : Int) (chunks : List Bytes) : Collected :=
  let taken := countTaken limit 0 chunks
  let bytes := (chunks.take taken).flatten
  if 0 < taken ∧ limit < bytes.length then ⟨cut limit bytes, true, taken⟩
  else ⟨bytes, false, taken⟩

def isSecure (url : String) : Bool :=
  "https://".toList.isPrefixOf (lowered url).toList

def Failure.response : Failure → Except String Response
  | tls message => .ok (.failed s!"SSL error: {message}")
  | timeout message => .ok (.failed s!"Connection timed out: {message}")
  | transport message => .ok (.failed message)
  | crash message => .error message

-- A failure behind the last chunk counts only if the reading gets that far.
def Reply.response (reply : Reply) (body : Collected) (certificates : Nat) :
    Except String Response :=
  match if body.truncated then none else reply.failure with
  | some failure => failure.response
  | none =>
    .ok {
      code := reply.status
      message := reply.reason.getD ""
      headers := reply.headers
      body := some body.bytes
      handshake := isSecure reply.url
      certificates := .present certificates
      truncated := body.truncated
      error := none
    }

-- Without a domain there is nothing to ask. The error of a crash is its message.
def Client.get (o : Outside σ) (client : Client) (limit : Int) (record? : Option Record)
    (w : World σ) : Except String (Option Response) × World σ :=
  match record?.bind Record.domain with
  | none => (.ok none, w)
  | some domain =>
    match o.request ⟨client.url domain, client.timeout, client.trust == .system⟩ w.state with
    | (.error failure, state) => (failure.response.map some, { w with state })
    | (.ok reply, state) =>
      match reply.certificates with
      -- the chain is read before the body, and a crash leaves the body unread
      | .crash message => (.error message, { w with state := o.close 0 state })
      | chain =>
        let (certificates, notices) := chain.count
        let body := collect limit reply.chunks
        ((reply.response body certificates).map some,
          { w with state := o.close body.taken state }.note notices)

end StrictTransport.Https
