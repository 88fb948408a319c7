import StrictTransport.Proofs.Record.Lookup
import StrictTransport.Proofs.Resolver.Query

namespace StrictTransport.Record

open Resolver

variable {σ : Type} {o : Outside σ} {options : Resolver.Options} {maxAge : Int}
  {w : World (σ × List Exchange)}

theorem mem_of_select {texts : List String} {text : String} (h : select texts = .ok text) :
    text ∈ texts := by
  unfold select at h
  split at h
  · cases h
  · rename_i found hfound
    cases h
    exact (List.mem_filter.mp (hfound ▸ List.mem_cons_self : text ∈ texts.filter announces)).1
  · cases h

-- The text that a search ends in is among those that stand under the name for the record, and not
-- among those that stand at the domain itself.
theorem search_later (hforward : o.Forward) (h : Tracked o maxAge w) (domain : String) :
    ∃ own, Later o maxAge w own (search o.logged options domain w).2 ∧
      ∀ text, (search o.logged options domain w).1 = .ok text →
        ∃ texts, text ∈ texts ∧
          Recent maxAge ((search o.logged options domain w).2.now o.logged)
            (search o.logged options domain w).2.log own (target (Domain.normalize domain))
            texts := by
  have htype : uppered "TXT" = "TXT" := by decide +kernel
  obtain ⟨own, hlater, hrecent⟩ := (queryFrom_queried o.logged options true _ _
    (target (Domain.normalize domain)) "TXT" w).later hforward htype h
  simp only [search, query]
  split
  · rename_i texts w₁ hquery
    rw [hquery] at hlater hrecent
    exact ⟨own, hlater, fun text htext => ⟨texts, mem_of_select htext, hrecent texts rfl⟩⟩
  · rename_i failure w₁ hquery
    rw [hquery] at hlater
    split
    · obtain ⟨own', hlater', -⟩ := (queryFrom_queried o.logged options true _ _
        (Domain.normalize domain) "TXT" w₁).later hforward htype hlater.tracked
      refine ⟨_, hlater.trans hlater', fun text htext => ?_⟩
      cases htext
    · refine ⟨own, hlater, fun text htext => ?_⟩
      cases htext

theorem find_later (hforward : o.Forward) (h : Tracked o maxAge w) (domain : String) :
    ∃ own, Later o maxAge w own (find o.logged options domain w).2 ∧
      ∀ record, (find o.logged options domain w).1 = .ok record →
        ∃ texts, record.id ∈ texts ∧
          Recent maxAge ((find o.logged options domain w).2.now o.logged)
            (find o.logged options domain w).2.log own
            (target (Domain.normalize (Domain.normalize domain))) texts := by
  obtain ⟨own, hlater, hrecent⟩ :=
    search_later hforward h (Domain.normalize domain)
  simp only [find]
  split
  · rename_i fault w₁ hsearch
    rw [hsearch] at hlater
    refine ⟨own, hlater, fun record hrecord => ?_⟩
    cases hrecord
  · rename_i text w₁ hsearch
    rw [hsearch] at hlater hrecent
    split
    · refine ⟨own, hlater, fun record hrecord => ?_⟩
      cases hrecord
    · refine ⟨own, hlater.note _, fun record hrecord => ?_⟩
      cases hrecord
      exact hrecent text rfl

end StrictTransport.Record
