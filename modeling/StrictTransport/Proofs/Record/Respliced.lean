import StrictTransport.Proofs.Record.Splice

namespace StrictTransport.Record

open Text

theorem ne_nil_of_laterIdValue? {cs value : List Char} (h : laterIdValue? cs = some value) :
    value ≠ [] := by
  have hhere : ∀ cs, idValue? cs ≠ some [] := by
    intro cs hempty
    simp only [idValue?] at hempty
    split at hempty
    · cases hempty
    · split at hempty
      · split_ifs at hempty with hvalue
        rw [Option.some.inj hempty] at hvalue
        exact hvalue rfl
      · cases hempty
  rintro rfl
  induction cs with
  | nil => cases h
  | cons c rest ih =>
      rw [laterIdValue?] at h
      split at h
      · rename_i found hfound
        obtain rfl := Option.some.inj h
        split at hfound
        · exact hhere rest hfound
        · cases hfound
      · exact ih h

theorem semicolon_mem_spliced (version token : List Char) : ';' ∈ spliced version token := by
  obtain ⟨inner, hinner⟩ := spliced_eq_append version token
  rw [hinner]
  simp

section Respliced

variable {record : Record} {version token : String}

-- The token of a record that was put together is the value of an id tag, or the whole text.
theorem token_of_splice (hid : record.id = s!"v={version}; id={token};") :
    (∃ id, laterIdValue? (spliced version.toList token.toList) = some id ∧
      record.token = String.ofList id) ∨
    (laterIdValue? (spliced version.toList token.toList) = none ∧ record.token = record.id) := by
  have htoken : record.token = String.ofList ((laterIdValue? (spliced version.toList
      token.toList)).getD (spliced version.toList token.toList)) := by
    rw [Record.token, onString, hid, toList_splice, tokenChars_spliced]
  cases hlater : laterIdValue? (spliced version.toList token.toList) with
  | some id =>
      rw [hlater, Option.getD_some] at htoken
      exact .inl ⟨id, rfl, htoken⟩
  | none =>
      rw [hlater, Option.getD_none, ← toList_splice, String.ofList_toList, ← hid] at htoken
      exact .inr ⟨rfl, htoken⟩

-- An id has no semicolon, and the whole text has one.
theorem isTokenChar_iff_token_ne_id (hid : record.id = s!"v={version}; id={token};") :
    (∀ c ∈ record.token.toList, isTokenChar c = true) ↔ record.token ≠ record.id := by
  have hsemicolon : ';' ∈ record.id.toList := by
    rw [hid, toList_splice]
    exact semicolon_mem_spliced _ _
  constructor
  · intro hchars hwhole
    rw [hwhole] at hchars
    exact absurd (hchars ';' hsemicolon) (by decide)
  · intro hne
    rcases token_of_splice hid with ⟨id, hlater, htoken⟩ | ⟨-, hwhole⟩
    · rw [htoken, String.toList_ofList]
      exact isTokenChar_of_mem_laterIdValue? hlater
    · exact absurd hwhole hne

theorem head?_token_of_splice (hid : record.id = s!"v={version}; id={token};") :
    ∃ c ∈ record.token.toList.head?, isTokenChar c = true := by
  rcases token_of_splice hid with ⟨id, hlater, htoken⟩ | ⟨-, hwhole⟩
  · obtain ⟨c, others, rfl⟩ := List.exists_cons_of_ne_nil (ne_nil_of_laterIdValue? hlater)
    refine ⟨c, by rw [htoken, String.toList_ofList]; rfl, ?_⟩
    exact isTokenChar_of_mem_laterIdValue? hlater c List.mem_cons_self
  · exact ⟨'v', by rw [hwhole, hid, toList_splice]; rfl, by decide⟩

theorem getLast?_token_of_splice (hid : record.id = s!"v={version}; id={token};") :
    ∃ c ∈ record.token.toList.getLast?, isBlank c = false := by
  rcases token_of_splice hid with ⟨id, hlater, htoken⟩ | ⟨-, hwhole⟩
  · have hne := ne_nil_of_laterIdValue? hlater
    rw [htoken, String.toList_ofList]
    exact ⟨_, List.getLast?_eq_some_getLast hne, isBlank_of_isTokenChar
      (isTokenChar_of_mem_laterIdValue? hlater _ (List.getLast_mem hne))⟩
  · obtain ⟨inner, hinner⟩ := spliced_eq_append version.toList token.toList
    refine ⟨';', ?_, by decide⟩
    rw [hwhole, hid, toList_splice, hinner, ← List.cons_append]
    exact List.mem_getLast?_append_of_mem_getLast? rfl

-- Put together again with its own token, a record keeps that token exactly if it is an id.
theorem token_resplice_iff (hid : record.id = s!"v={version}; id={token};")
    (domain : Option String) :
    Record.token ⟨domain, s!"v={version}; id={record.token};"⟩ = record.token ↔
      record.token ≠ record.id := by
  rw [token_splice (head?_token_of_splice hid), ← isTokenChar_iff_token_ne_id hid]
  cases hversion : laterIdValue? version.toList with
  | some found =>
      -- the id tag of the version was the first one before, too
      have hlater : laterIdValue? (spliced version.toList token.toList) = some found := by
        rw [laterIdValue?_spliced, hversion]
        rfl
      rcases token_of_splice hid with ⟨id, hsome, htoken⟩ | ⟨hnone, -⟩
      · obtain rfl := Option.some.inj (hlater.symm.trans hsome)
        rw [htoken, String.toList_ofList]
        exact iff_of_true rfl (isTokenChar_of_mem_laterIdValue? hlater)
      · cases hlater.symm.trans hnone
  | none =>
      rw [Option.getD_none, ← List.takeWhile_eq_self_iff, ← String.toList_inj,
        String.toList_ofList]

end Respliced

end StrictTransport.Record
