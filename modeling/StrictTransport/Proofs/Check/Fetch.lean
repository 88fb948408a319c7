import StrictTransport.Check
import StrictTransport.Proofs.Policy.Build

namespace StrictTransport

namespace Policy

-- A response that makes a valid policy makes one that still holds.
theorem isExpired_ofResponse {limits : Limits} {now : Int} {response? : Option Https.Response}
    {record : Option Record} (h : (ofResponse limits now response? record).1.isValid = true) :
    (ofResponse limits now response? record).1.isExpired now = false := by
  have hpos := ((isValid_iff _).mp h).2.2.1
  have htime : (ofResponse limits now response? record).1.fetchTime = now := rfl
  rw [isExpired, htime]
  exact decide_eq_false (by omega)

end Policy

namespace Check

variable {σ : Type} {o : Outside σ} {client : Https.Client} {limits : Limits}
  {record? : Option Record} {w : World σ}

-- A fetched policy is made of a response at the time when its fetch ends.
theorem fetcher_eq_ok {p : Policy} (h : (fetcher o client limits record? w).1 = .ok (some p)) :
    ∃ response?, p = (Policy.ofResponse limits ((fetcher o client limits record? w).2.now o)
      response? record?).1 := by
  simp only [fetcher, fetchPolicy] at h ⊢
  cases hget : client.get o limits.bodySize record? w with
  | mk result w' =>
      cases result with
      | error message =>
          rw [hget] at h
          cases h
      | ok response? =>
          rw [hget] at h
          cases h
          exact ⟨response?, rfl⟩

theorem isExpired_of_fetcher {p : Policy}
    (h : (fetcher o client limits record? w).1 = .ok (some p)) (hvalid : p.isValid = true) :
    p.isExpired ((fetcher o client limits record? w).2.now o) = false := by
  obtain ⟨response?, hp⟩ := fetcher_eq_ok h
  subst hp
  exact Policy.isExpired_ofResponse hvalid

theorem getPolicy_of_found {setting : Setting} {domain : String} {w w' : World σ} {record : Record}
    (h : Record.find o setting.options (Domain.normalize domain) w = (.ok record, w')) (s : Store) :
    let result := Store.getOrFetch o (fetcher o setting.client setting.limits) (some record) s w'
    getPolicy o setting domain s w =
      ((result.1.mapError .fetch).map Store.Given.policy, result.2) := by
  simp only [getPolicy, h]
  generalize Store.getOrFetch o (fetcher o setting.client setting.limits) (some record) s w' =
    result
  obtain ⟨outcome, s', w''⟩ := result
  cases outcome <;> rfl

theorem getPolicy_of_missed {setting : Setting} {domain : String} {w w' : World σ}
    {fault : Record.SearchFault} (hfault : fault ≠ .unreportable)
    (h : Record.find o setting.options (Domain.normalize domain) w = (.error fault, w'))
    (s : Store) : getPolicy o setting domain s w = (.ok none, s, w') := by
  simp only [getPolicy, h]

theorem getPolicy_of_error {setting : Setting} {domain : String} {w w' : World σ}
    {fault : Record.SearchFault}
    (h : Record.find o setting.options (Domain.normalize domain) w = (.error fault, w'))
    (s : Store) :
    (getPolicy o setting domain s w).2 = (s, w') ∧
      ∀ p, (getPolicy o setting domain s w).1 ≠ .ok (some p) := by
  by_cases hfault : fault = .unreportable
  · subst hfault
    simp [getPolicy, h]
  · simp [getPolicy_of_missed hfault h]

end Check

end StrictTransport
