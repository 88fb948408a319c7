import Mathlib.Data.List.Basic
import StrictTransport.Https.Client

namespace StrictTransport.Https

-- How many chunks of a body are taken: each one while those before it are within the limit, up to
-- one that exceeds it or up to the last.
structure Taken (limit : Int) (chunks : List Bytes) (taken : Nat) : Prop where
  within : ∀ n < taken, ((chunks.take n).flatten.length : Int) ≤ limit
  stops : limit < ((chunks.take taken).flatten.length : Int) ∨ taken = chunks.length

section Chunks

variable {limit : Int}

theorem within_of_lt_countTaken (size : Nat) (chunks : List Bytes) (hsize : (size : Int) ≤ limit)
    (n : Nat) (hn : n < countTaken limit size chunks) :
    ((size + (chunks.take n).flatten.length : Nat) : Int) ≤ limit := by
  induction chunks generalizing size n with
  | nil => exact absurd hn (Nat.not_lt_zero n)
  | cons chunk chunks ih =>
      cases n with
      | zero => exact hsize
      | succ n =>
          simp only [countTaken] at hn
          split at hn
          · omega
          · rename_i hchunk
            have hrest := ih (size + chunk.length) (by omega) n (by omega)
            rw [List.take_succ_cons, List.flatten_cons, List.length_append]
            omega

theorem exceeds_countTaken (size : Nat) (chunks : List Bytes) (hsize : (size : Int) ≤ limit)
    (h : limit < ((size + chunks.flatten.length : Nat) : Int)) :
    limit < ((size + (chunks.take (countTaken limit size chunks)).flatten.length : Nat) : Int) := by
  induction chunks generalizing size with
  | nil =>
      rw [List.flatten_nil, List.length_nil] at h
      omega
  | cons chunk chunks ih =>
      rw [List.flatten_cons, List.length_append] at h
      simp only [countTaken]
      split
      · rename_i hchunk
        rw [List.take_succ_cons, List.take_zero, List.flatten_cons, List.flatten_nil,
          List.append_nil]
        exact hchunk
      · rename_i hchunk
        have hrest := ih (size + chunk.length) (by omega) (by omega)
        rw [List.take_succ_cons, List.flatten_cons, List.length_append]
        omega

theorem countTaken_of_fits (size : Nat) (chunks : List Bytes)
    (h : ((size + chunks.flatten.length : Nat) : Int) ≤ limit) :
    countTaken limit size chunks = chunks.length := by
  induction chunks generalizing size with
  | nil => rfl
  | cons chunk chunks ih =>
      rw [List.flatten_cons, List.length_append] at h
      simp only [countTaken]
      rw [if_neg (by omega), ih (size + chunk.length) (by omega), List.length_cons]

theorem collect_of_fits {chunks : List Bytes} (h : (chunks.flatten.length : Int) ≤ limit) :
    collect limit chunks = ⟨chunks.flatten, false, chunks.length⟩ := by
  have hall : countTaken limit 0 chunks = chunks.length :=
    countTaken_of_fits 0 chunks (by omega)
  simp only [collect, hall, List.take_length]
  rw [if_neg (by omega)]

-- The chunk that exceeds the limit ends behind the limit, so that what is cut off there does not
-- depend on where the chunks end.
theorem collect_of_exceeds {chunks : List Bytes} (hlimit : 0 ≤ limit)
    (h : limit < (chunks.flatten.length : Int)) :
    collect limit chunks =
      ⟨chunks.flatten.take limit.toNat, true, countTaken limit 0 chunks⟩ := by
  have hover := exceeds_countTaken 0 chunks hlimit (by omega)
  rw [Nat.zero_add] at hover
  have htaken : 0 < countTaken limit 0 chunks := by
    by_contra hnone
    rw [Nat.eq_zero_of_not_pos hnone, List.take_zero, List.flatten_nil, List.length_nil] at hover
    omega
  have hcut : cut limit (chunks.take (countTaken limit 0 chunks)).flatten =
      chunks.flatten.take limit.toNat := by
    have hsplit : chunks.flatten = (chunks.take (countTaken limit 0 chunks)).flatten ++
        (chunks.drop (countTaken limit 0 chunks)).flatten := by
      rw [← List.flatten_append, List.take_append_drop]
    rw [cut, if_pos hlimit]
    conv_rhs => rw [hsplit]
    exact (List.take_append_of_le_length (by omega)).symm
  simp only [collect]
  rw [if_pos ⟨htaken, hover⟩, hcut]

theorem taken_collect (chunks : List Bytes) (hlimit : 0 ≤ limit) :
    Taken limit chunks (collect limit chunks).taken := by
  have hcount : (collect limit chunks).taken = countTaken limit 0 chunks := by
    simp only [collect]
    split <;> rfl
  rw [hcount]
  refine ⟨fun n hn => ?_, ?_⟩
  · have hfront := within_of_lt_countTaken 0 chunks hlimit n hn
    omega
  · by_cases h : (chunks.flatten.length : Int) ≤ limit
    · exact .inr (countTaken_of_fits 0 chunks (by omega))
    · have hover := exceeds_countTaken 0 chunks hlimit (by omega)
      exact .inl (by omega)

end Chunks

-- What a client makes of a reply within a limit. The failure of a body counts only if the reading
-- gets to it.
structure Capped (limit : Int) (reply : Reply) (response : Response) : Prop where
  exceeding : limit < (reply.chunks.flatten.length : Int) →
    response.code = reply.status ∧ response.truncated = true ∧
      response.body = some (reply.chunks.flatten.take limit.toNat)
  failing : (reply.chunks.flatten.length : Int) ≤ limit → reply.failure ≠ none →
    response.code = 0 ∧ ∃ text, response.error = some text
  fitting : (reply.chunks.flatten.length : Int) ≤ limit → reply.failure = none →
    response.code = reply.status ∧ response.truncated = false ∧
      response.body = some reply.chunks.flatten

theorem Failure.failed_of_response {failure : Failure} {response : Response}
    (h : failure.response = .ok response) :
    response.code = 0 ∧ ∃ text, response.error = some text := by
  cases failure with
  | crash message => cases h
  | _ =>
      cases h
      exact ⟨rfl, _, rfl⟩

theorem capped_response {limit : Int} (hlimit : 0 ≤ limit) {reply : Reply} {certificates : Nat}
    {response : Response}
    (h : reply.response (collect limit reply.chunks) certificates = .ok response) :
    Capped limit reply response := by
  refine ⟨fun hover => ?_, fun hfits hfailure => ?_, fun hfits hnone => ?_⟩
  · rw [collect_of_exceeds hlimit hover] at h
    cases h
    exact ⟨rfl, rfl, rfl⟩
  · obtain ⟨failure, hfailure⟩ := Option.ne_none_iff_exists'.mp hfailure
    rw [collect_of_fits hfits] at h
    simp only [Reply.response, hfailure] at h
    exact Failure.failed_of_response h
  · rw [collect_of_fits hfits] at h
    simp only [Reply.response, hnone] at h
    cases h
    exact ⟨rfl, rfl, rfl⟩

-- Where the chunks of a body end does not matter.
theorem response_congr {limit : Int} (hlimit : 0 ≤ limit) (reply : Reply) {chunks : List Bytes}
    (hchunks : chunks.flatten = reply.chunks.flatten) (certificates : Nat) :
    Reply.response { reply with chunks } (collect limit chunks) certificates =
      reply.response (collect limit reply.chunks) certificates := by
  by_cases h : (reply.chunks.flatten.length : Int) ≤ limit
  · have hsame : (chunks.flatten.length : Int) ≤ limit := by rwa [hchunks]
    rw [collect_of_fits h, collect_of_fits hsame, hchunks]
    rfl
  · have hover : limit < (reply.chunks.flatten.length : Int) := by omega
    have hsame : limit < (chunks.flatten.length : Int) := by rwa [hchunks]
    rw [collect_of_exceeds hlimit hover, collect_of_exceeds hlimit hsame, hchunks]
    rfl

end StrictTransport.Https
