import StrictTransport.Https.Client

namespace StrictTransport.Https

variable {σ : Type} {o : Outside σ}

-- Whether requests end in responses and in failures that have a response of their own.
def Uncrashed (o : Outside σ) : Prop :=
  ∀ request state message, (o.request request state).1 ≠ .error (.crash message) ∧
    ∀ reply, (o.request request state).1 = .ok reply →
      reply.failure ≠ some (.crash message) ∧ reply.certificates ≠ .crash message

theorem Failure.response_eq_ok (failure : Failure) (h : ∀ message, failure ≠ .crash message) :
    ∃ response, failure.response = .ok response := by
  cases failure with
  | crash message => exact absurd rfl (h message)
  | _ => exact ⟨_, rfl⟩

theorem Reply.response_eq_ok {reply : Reply} (h : ∀ message, reply.failure ≠ some (.crash message))
    (body : Collected) (certificates : Nat) :
    ∃ response, reply.response body certificates = .ok response := by
  unfold Reply.response
  split
  · rename_i failure hfailure
    refine failure.response_eq_ok fun message hcrash => ?_
    split at hfailure
    · cases hfailure
    · exact h message (hcrash ▸ hfailure)
  · exact ⟨_, rfl⟩

theorem Client.get_eq_ok (h : Uncrashed o) (client : Client) (limit : Int)
    (record? : Option Record) (w : World σ) :
    ∃ response?, (client.get o limit record? w).1 = .ok response? := by
  unfold Client.get
  split
  · exact ⟨none, rfl⟩
  · rename_i domain _
    have hresult := h ⟨client.url domain, client.timeout, client.trust == .system⟩ w.state
    split
    · rename_i failure state hrequest
      rw [hrequest] at hresult
      obtain ⟨response, hresponse⟩ := failure.response_eq_ok
        fun message hcrash => (hresult message).1 (hcrash ▸ rfl)
      exact ⟨some response, by rw [hresponse]; rfl⟩
    · rename_i reply state hrequest
      rw [hrequest] at hresult
      split
      · rename_i message hcrash
        exact absurd hcrash ((hresult message).2 reply rfl).2
      · obtain ⟨response, hresponse⟩ := Reply.response_eq_ok
          (fun message => ((hresult message).2 reply rfl).1) (collect limit reply.chunks)
          reply.certificates.count.1
        exact ⟨some response, by simp only [hresponse]; rfl⟩

end StrictTransport.Https
