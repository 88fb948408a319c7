import StrictTransport.Record.Lookup

namespace StrictTransport.Record

variable {σ : Type} {o : Outside σ} {options : Resolver.Options} {domain : String}
  {w w' : World σ}

-- A record is found with the one text that the search ends in, which can be read.
theorem find_eq_ok {record : Record} (h : find o options domain w = (.ok record, w')) :
    ∃ text parsed w₁, search o options (Domain.normalize domain) w = (.ok text, w₁) ∧
      record = ⟨some (Domain.normalize domain), text⟩ ∧ parse text = .ok parsed ∧
      w' = w₁.note (parsed.warnings.map (.recordWarning (Domain.normalize domain))) := by
  simp only [find] at h
  split at h
  · cases h
  · rename_i text w₁ hsearch
    split at h
    · cases h
    · rename_i parsed hparsed
      cases h
      exact ⟨text, parsed, w₁, hsearch, rfl, hparsed, rfl⟩

end StrictTransport.Record
