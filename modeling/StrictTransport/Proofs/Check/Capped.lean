import StrictTransport.Check
import StrictTransport.Proofs.Https.Client
import StrictTransport.Proofs.Https.Body
import StrictTransport.Proofs.Policy.Truncation
import StrictTransport.Proofs.Store.Lifetime

namespace StrictTransport.Check

open Https Policy

variable {σ : Type}

-- A successful reply arrives over a secure connection for the policy of a domain. The reading of
-- its chain or of its body may fail, but not crash.
structure Arrives (o : Outside σ) (client : Client) (domain : String) (w : World σ) (reply : Reply)
    (state : σ) : Prop where
  answered : o.request ⟨client.url domain, client.timeout, client.trust == .system⟩ w.state =
    (.ok reply, state)
  status : 200 ≤ reply.status ∧ reply.status < 300
  secure : isSecure reply.url = true
  presented : ∀ message, reply.certificates ≠ .crash message
  readable : ∀ message, reply.failure ≠ some (.crash message)

-- What a policy keeps of a body, and what it says about the rest.
structure Keeps (limit : Int) (body : Bytes) (p : Policy) : Prop where
  kept : p.body = body.take limit.toNat
  told : truncations p = if limit < (body.length : Int) then [.truncated limit] else []

section Arrives

variable {o : Outside σ} {client : Client} {limits : Limits} {record : Record} {domain : String}
  {w : World σ} {reply : Reply} {state : σ}

theorem Arrives.get (h : Arrives o client domain w reply state)
    (hnamed : record.domain = some domain) (limit : Int) :
    (client.get o limit (some record) w).1 =
        (reply.response (collect limit reply.chunks) reply.certificates.count.1).map some ∧
      (client.get o limit (some record) w).2.state =
        o.close (collect limit reply.chunks).taken state := by
  have hdomain : (some record).bind Record.domain = some domain := hnamed
  simp only [Client.get, hdomain, h.answered]
  split
  · rename_i message hcrash
    exact absurd hcrash (h.presented message)
  · exact ⟨rfl, rfl⟩

theorem fetchPolicy_of_get {record? : Option Record} {response? : Option Response}
    (h : (client.get o limits.bodySize record? w).1 = .ok response?) :
    ∃ now, (fetchPolicy o client limits record? w).1 =
      .ok (ofResponse limits now response? record?).1 := by
  simp only [fetchPolicy]
  cases hget : client.get o limits.bodySize record? w with
  | mk result w' =>
      rw [hget] at h
      cases h
      exact ⟨w'.now o, rfl⟩

theorem keeps_of_capped {response : Response} {now : Int} (hsize : 0 ≤ limits.bodySize)
    (h : Capped limits.bodySize reply response) (hrefusal : refusal? response = none) :
    Keeps limits.bodySize reply.chunks.flatten
      (ofResponse limits now (some response) (some record)).1 := by
  have hcode : response.code ≠ 0 := by
    have hsuccess := ((refusal?_eq_none_iff response).mp hrefusal).1
    omega
  constructor
  · rw [body_ofResponse hrefusal, cut, if_pos hsize, Response.bytes]
    by_cases hover : limits.bodySize < (reply.chunks.flatten.length : Int)
    · rw [(h.exceeding hover).2.2, Option.getD_some, List.take_take, Nat.min_self]
    · have hnone : reply.failure = none := by
        by_contra hfailure
        exact hcode (h.failing (by omega) hfailure).1
      rw [(h.fitting (by omega) hnone).2.2, Option.getD_some]
  · rw [truncations_ofResponse hrefusal]
    by_cases hover : limits.bodySize < (reply.chunks.flatten.length : Int)
    · rw [if_pos hover, if_pos (.inl (h.exceeding hover).2.1)]
    · have hnone : reply.failure = none := by
        by_contra hfailure
        exact hcode (h.failing (by omega) hfailure).1
      obtain ⟨-, htruncated, hbody⟩ := h.fitting (by omega) hnone
      rw [if_neg hover, if_neg]
      rw [Response.bytes, hbody, Option.getD_some, htruncated]
      exact fun hor => hor.elim Bool.false_ne_true hover

theorem Arrives.refusal?_eq_none (h : Arrives o client domain w reply state) {response : Response}
    {body : Collected} {certificates : Nat}
    (hresponse : reply.response body certificates = .ok response) (hcode : response.code ≠ 0) :
    refusal? response = none := by
  rw [refusal?_eq_none_iff]
  simp only [Reply.response] at hresponse
  split at hresponse
  · exact absurd (Failure.failed_of_response hresponse).1 hcode
  · cases hresponse
    exact ⟨h.status, h.secure⟩

end Arrives

-- A policy is made of the body up to the limit, wherever the chunks of the body end. A failure of
-- the body matters only if all chunks before it are within the limit.
theorem fetchPolicy_capped (o : Outside σ) (client : Client) (limits : Limits) (record : Record)
    (domain : String) (w : World σ) (reply : Reply) (state : σ)
    (hnamed : record.domain = some domain) (hsize : 0 ≤ limits.bodySize)
    (harrives : Arrives o client domain w reply state) :
    ∃ response taken p,
      (client.get o limits.bodySize (some record) w).1 = .ok (some response) ∧
      Capped limits.bodySize reply response ∧
      (client.get o limits.bodySize (some record) w).2.state = o.close taken state ∧
      Taken limits.bodySize reply.chunks taken ∧
      (fetchPolicy o client limits (some record) w).1 = .ok p ∧
      (response.code ≠ 0 → Keeps limits.bodySize reply.chunks.flatten p) ∧
      ∀ {τ : Type} (o' : Outside τ) (w' : World τ) (chunks : List Bytes) (state' : τ),
        chunks.flatten = reply.chunks.flatten →
        Arrives o' client domain w' { reply with chunks } state' →
        (client.get o' limits.bodySize (some record) w').1 = .ok (some response) ∧
        ∃ p', (fetchPolicy o' client limits (some record) w').1 = .ok p' ∧
          p' = { p with fetchTime := p'.fetchTime } := by
  obtain ⟨hresult, hstate⟩ := harrives.get hnamed limits.bodySize
  obtain ⟨response, hresponse⟩ := Reply.response_eq_ok harrives.readable
    (collect limits.bodySize reply.chunks) reply.certificates.count.1
  have hget : (client.get o limits.bodySize (some record) w).1 = .ok (some response) := by
    rw [hresult, hresponse]
    rfl
  obtain ⟨now, hpolicy⟩ := fetchPolicy_of_get hget
  have hcapped := capped_response hsize hresponse
  refine ⟨response, _, _, hget, hcapped, hstate, taken_collect reply.chunks hsize, hpolicy, ?_, ?_⟩
  · exact fun hcode => keeps_of_capped hsize hcapped (harrives.refusal?_eq_none hresponse hcode)
  · intro τ o' w' chunks state' hchunks hother
    have hsame : (client.get o' limits.bodySize (some record) w').1 = .ok (some response) := by
      rw [(hother.get hnamed limits.bodySize).1]
      simp only
      rw [response_congr hsize reply hchunks, hresponse]
      rfl
    obtain ⟨later, hlater⟩ := fetchPolicy_of_get hsame
    exact ⟨hsame, _, hlater, rfl⟩

-- A host that gives one reply to every request.
def replying (reply : Reply) : Outside Int :=
  { Store.clockWorld with request := fun _ time => (.ok reply, time) }

-- Five bytes in four chunks, of which one is empty, and a failure behind them.
def brokenReply : Reply :=
  ⟨"https://mta-sts.example.com/.well-known/mta-sts.txt", 200, some "OK", [],
    [[97, 98], [99], [], [100, 101]], some (.transport "reset"), .present 1⟩

-- The failure counts at the limit and not one byte below it.
theorem brokenReply_capped :
    let record : Record := ⟨some "example.com", "v=STSv1; id=1;"⟩
    let w : World Int := ⟨1700000000, .standard, []⟩
    Arrives (replying brokenReply) .standard "example.com" w brokenReply 1700000000 ∧
      (∃ p, (fetchPolicy (replying brokenReply) .standard { Limits.standard with bodySize := 4 }
        (some record) w).1 = .ok p ∧ Keeps 4 [97, 98, 99, 100, 101] p) ∧
      ∃ response, (Client.standard.get (replying brokenReply) 5 (some record) w).1 =
        .ok (some response) ∧ response.code = 0 := by
  intro record w
  have harrives : Arrives (replying brokenReply) .standard "example.com" w brokenReply 1700000000 :=
    ⟨rfl, by decide, by decide +kernel, nofun, nofun⟩
  refine ⟨harrives, ?_, ?_⟩
  · obtain ⟨response, taken, p, -, hcapped, -, -, hpolicy, hkeeps, -⟩ :=
      fetchPolicy_capped (replying brokenReply) .standard { Limits.standard with bodySize := 4 }
        record "example.com" w brokenReply 1700000000 rfl (by decide) harrives
    have hcode : response.code = 200 := (hcapped.exceeding (by decide)).1
    exact ⟨p, hpolicy, hkeeps (by rw [hcode]; decide)⟩
  · obtain ⟨response, -, -, hget, hcapped, -⟩ :=
      fetchPolicy_capped (replying brokenReply) .standard { Limits.standard with bodySize := 5 }
        record "example.com" w brokenReply 1700000000 rfl (by decide) harrives
    exact ⟨response, hget, (hcapped.failing (by decide) nofun).1⟩

end StrictTransport.Check
