import StrictTransport.Proofs.Document.Cut
import StrictTransport.Proofs.Policy.Draft
import StrictTransport.Proofs.Policy.Validity

namespace StrictTransport

-- Whether a caution says that a body has been cut.
def Caution.isTruncation : Caution → Bool
  | truncated _ => true
  | _ => false

namespace Policy

open Document Https

def truncations (p : Policy) : List Caution :=
  p.validation.cautions.filter Caution.isTruncation

theorem isTruncation_of_mem_contentTypeCautions {response : Response} {caution : Caution}
    (h : caution ∈ contentTypeCautions response) : caution.isTruncation = false := by
  simp only [contentTypeCautions] at h
  split at h
  · rw [List.mem_singleton.mp h]
    rfl
  · split at h
    · cases h
    · rw [List.mem_singleton.mp h]
      rfl

theorem isTruncation_of_mem_cautions {pairs : List Pair} {caution : Caution}
    (h : caution ∈ cautions pairs) : caution.isTruncation = false := by
  rcases mem_cautions h with ⟨key, rfl⟩ | ⟨value, rfl⟩
  · rfl
  · rfl

theorem isTruncation_of_mem_clampAge {limits : Limits} {mode : Mode} {age : Int}
    {caution : Caution} (h : caution ∈ (clampAge limits mode age).2) :
    caution.isTruncation = false := by
  rcases mem_clampAge h with rfl | rfl | rfl
  · rfl
  · rfl
  · rfl

section OfResponse

variable {limits : Limits} {now : Int} {response : Response} {record : Option Record}

theorem body_ofResponse (h : refusal? response = none) :
    (ofResponse limits now (some response) record).1.body = cut limits.bodySize response.bytes := by
  simp only [ofResponse_fst, readResponse, bodyOf, h]
  rfl

-- A body that was cut is told once, by the response or by its length.
theorem truncations_ofResponse (h : refusal? response = none) :
    truncations (ofResponse limits now (some response) record).1 =
      if response.truncated = true ∨ limits.bodySize < (response.bytes.length : Int) then
        [.truncated limits.bodySize]
      else [] := by
  have hvalidation : (ofResponse limits now (some response) record).1.validation.cautions =
      contentTypeCautions response ++
        (if response.truncated || limits.bodySize < (response.bytes.length : Int) then
          [.truncated limits.bodySize] else []) ++
        (Document.parse limits (cut limits.bodySize response.bytes)).2.cautions ++
        (cautions (readResponse limits (some response)).1 ++
          (clampAge limits (requestedMode (readResponse limits (some response)).1)
            (requestedAge limits (readResponse limits (some response)).1)).2) := by
    simp only [ofResponse_fst, assemble_cautions, readResponse, bodyOf, h]
    rfl
  have hnone : ∀ {l : List Caution}, (∀ c ∈ l, c.isTruncation = false) →
      l.filter Caution.isTruncation = [] := fun hl =>
    List.filter_eq_nil_iff.mpr fun c hc => by rw [hl c hc]; exact Bool.false_ne_true
  have hdocument : (Document.parse limits (cut limits.bodySize response.bytes)).2.cautions = [] :=
    rfl
  rw [truncations, hvalidation, hdocument]
  simp only [List.filter_append, hnone fun c hc => isTruncation_of_mem_contentTypeCautions hc,
    hnone fun c hc => isTruncation_of_mem_cautions hc,
    hnone fun c hc => isTruncation_of_mem_clampAge hc, List.nil_append, List.append_nil,
    Bool.or_eq_true, decide_eq_true_eq]
  split <;> rfl

theorem readResponse_of_refusal?_eq_none (hsize : 0 ≤ limits.bodySize)
    (h : refusal? response = none) :
    (readResponse limits (some response)).1 =
      (Document.parse limits (response.bytes.take limits.bodySize.toNat)).1 := by
  simp only [readResponse, bodyOf, h, cut, if_pos hsize]

-- The policy of a body that was cut is made of the pairs that come first in the whole body, and of
-- those in what the cut leaves of one line.
theorem ofResponse_cut (limits : Limits) (hsize : 0 ≤ limits.bodySize) (now : Int)
    (response : Response) (hcode : 200 ≤ response.code ∧ response.code < 300)
    (hsecured : response.handshake = true) (record : Option Record) :
    ∃ whole line left rest made,
      CutIn response.bytes limits.bodySize.toNat whole line left rest ∧
      made = (pieces whole left).filterMap (linePair? limits) ∧
      (ofResponse limits now (some response) record).1 =
        assemble limits (readResponse limits (some response)).2.1 now record
          (whole.filterMap (linePair? limits) ++ made) ∧
      (Document.parse limits response.bytes).1 =
        whole.filterMap (linePair? limits) ++ (line :: rest).filterMap (linePair? limits) ∧
      (∀ key value, PairForm line key value → made = [] ∨
        ∃ found, made = [(keyText key, Document.text found)] ∧
          (found <+: value ∨ left = line ++ [cr] ∧ value <+: found)) ∧
      (left = [] → made = []) ∧
      (response.bytes.length ≤ limits.bodySize →
        made = (line :: rest).filterMap (linePair? limits)) := by
  obtain ⟨whole, line, left, rest, hcut⟩ := exists_cutIn response.bytes limits.bodySize.toNat
  have hread := readResponse_of_refusal?_eq_none hsize
    ((refusal?_eq_none_iff response).mpr ⟨hcode, hsecured⟩)
  have hwhole : (Document.parse limits response.bytes).1 =
      whole.filterMap (linePair? limits) ++ (line :: rest).filterMap (linePair? limits) := by
    rw [fst_parse, hcut.lines, List.filterMap_append]
  have hpairs : (readResponse limits (some response)).1 =
      whole.filterMap (linePair? limits) ++ (pieces whole left).filterMap (linePair? limits) := by
    rw [hread, fst_parse, hcut.lines_take, List.filterMap_append]
  refine ⟨whole, line, left, rest, _, hcut, rfl, ?_, hwhole, fun key value => hcut.pairs_of_pair,
    ?_, ?_⟩
  · rw [ofResponse_fst, hpairs]
  · rintro rfl
    exact filterMap_pieces_nil limits whole
  · intro hfits
    have hsame : response.bytes.take limits.bodySize.toNat = response.bytes :=
      List.take_of_length_le (by omega)
    rw [hread, hsame, hwhole] at hpairs
    exact (List.append_cancel_left hpairs).symm

end OfResponse

-- A policy, and limits that cut the name of its host.
def shortenedHost : Response :=
  ⟨200, "OK", [("Content-Type", "text/plain")], some (Text.Utf8.encode
    "version: STSv1\nmode: enforce\nmax_age: 604800\nmx: mail.example.com\n".toList),
    true, .present 0, false, none⟩

def narrowLimits : Limits := { Limits.standard with bodySize := 64 }

theorem shortenedHost_cut :
    (0 ≤ narrowLimits.bodySize ∧ 200 ≤ shortenedHost.code ∧ shortenedHost.code < 300 ∧
        shortenedHost.handshake = true) ∧
      ∃ whole line left rest,
        CutIn shortenedHost.bytes narrowLimits.bodySize.toNat whole line left rest ∧
        (ofResponse narrowLimits 1700000000 (some shortenedHost) none).1 =
          assemble narrowLimits (readResponse narrowLimits (some shortenedHost)).2.1 1700000000 none
            (whole.filterMap (linePair? narrowLimits) ++
              (pieces whole left).filterMap (linePair? narrowLimits)) := by
  obtain ⟨whole, line, left, rest, _, hcut, rfl, hpolicy, -⟩ :=
    ofResponse_cut narrowLimits (by decide) 1700000000 shortenedHost (by decide) rfl none
  exact ⟨by decide, whole, line, left, rest, hcut, hpolicy⟩

-- The policy can be applied, and names a host that its document does not.
theorem shortenedHost_differs :
    (200 ≤ shortenedHost.code ∧ shortenedHost.code < 300) ∧ shortenedHost.handshake = true ∧
      0 ≤ narrowLimits.bodySize ∧
      ("mx", "mail.example.co") ∈ (readResponse narrowLimits (some shortenedHost)).1 ∧
      ("mx", "mail.example.co") ∉ (Document.parse narrowLimits shortenedHost.bytes).1 ∧
      (ofResponse narrowLimits 1700000000 (some shortenedHost) none).1.masks =
        ["mail.example.co"] ∧
      (ofResponse narrowLimits 1700000000 (some shortenedHost) none).1.isValid = true := by
  decide +kernel

end Policy

end StrictTransport
