import StrictTransport.Resolver.Cache

namespace StrictTransport.Resolver.Cache

variable {c c' : Cache} {now : Int} {key : String} {records : List String} {e : Entry}

theorem sublist_erase : (c.erase key).entries.Sublist c.entries :=
  List.filter_sublist

@[simp] theorem maxAge_get? : (c.get? now key).2.maxAge = c.maxAge := by
  unfold get?
  split
  · rfl
  · split <;> rfl

theorem sublist_get? : (c.get? now key).2.entries.Sublist c.entries := by
  unfold get?
  split
  · exact List.Sublist.refl _
  · split
    · exact List.Sublist.refl _
    · exact sublist_erase

theorem get?_eq_none (h : ∀ e ∈ c.entries, e.key = key → c.isFresh now e = false) :
    (c.get? now key).1 = none := by
  unfold get?
  split
  · rfl
  · rename_i e hfound
    have hkey : e.key = key := beq_iff_eq.mp (List.find?_some hfound :)
    simp only [h e (List.mem_of_find?_eq_some hfound) hkey, Bool.false_eq_true, if_false]

-- Records are handed out from an entry that is young enough.
theorem entry_of_get? (h : c.get? now key = (some records, c')) :
    c' = c ∧ ∃ e ∈ c.entries, e.key = key ∧ e.records = records ∧ now - e.time < c.maxAge := by
  unfold get? at h
  split at h
  · cases h
  · rename_i found hfound
    split at h
    · rename_i hfresh
      cases h
      unfold find? at hfound
      have hkey := List.find?_some hfound
      exact ⟨rfl, found, List.mem_of_find?_eq_some hfound, beq_iff_eq.mp hkey, rfl,
        of_decide_eq_true hfresh⟩
    · cases h

@[simp] theorem maxAge_makeRoom : (c.makeRoom now key).maxAge = c.maxAge := by
  unfold makeRoom
  split
  · split
    · rfl
    · split <;> rfl
  · rfl

theorem sublist_makeRoom : (c.makeRoom now key).entries.Sublist c.entries := by
  unfold makeRoom
  split
  · split
    · exact List.drop_sublist _ _
    · split
      · exact sublist_erase
      · exact (List.drop_sublist _ _).trans sublist_erase
  · exact List.Sublist.refl _

@[simp] theorem maxAge_insert : (c.insert now key records).maxAge = c.maxAge :=
  maxAge_makeRoom

theorem mem_place {entries : List Entry} {new : Entry} (h : e ∈ place entries new) :
    e = new ∨ e ∈ entries ∧ e.key ≠ new.key := by
  unfold place at h
  split at h
  · obtain ⟨old, hold, he⟩ := List.mem_map.mp h
    split at he
    · exact .inl he.symm
    · rename_i hkey
      subst he
      exact .inr ⟨hold, fun heq => hkey (beq_iff_eq.mpr heq)⟩
  · rename_i hnone
    rcases List.mem_append.mp h with hold | hnew
    · exact .inr ⟨hold, fun heq => hnone (List.any_eq_true.mpr ⟨e, hold, beq_iff_eq.mpr heq⟩)⟩
    · exact .inl (List.mem_singleton.mp hnew)

-- What is left under the key of what is stored is nothing but that.
theorem mem_insert (h : e ∈ (c.insert now key records).entries) :
    e = ⟨key, records, now⟩ ∨ e ∈ c.entries ∧ e.key ≠ key :=
  (mem_place h).imp_right fun hold => ⟨sublist_makeRoom.subset hold.1, hold.2⟩

theorem find?_place (entries : List Entry) (e : Entry) :
    (place entries e).find? (fun d => d.key == e.key) = some e := by
  unfold place
  split
  · rename_i hany
    have hkeys : ((fun d : Entry => d.key == e.key) ∘ fun d => if d.key == e.key then e else d) =
        fun d => d.key == e.key := by
      funext d
      by_cases hkey : d.key = e.key <;> simp [hkey]
    obtain ⟨d, hfound⟩ := Option.isSome_iff_exists.mp (List.find?_isSome.mpr
      (List.any_eq_true.mp hany))
    have hkey := List.find?_some hfound
    rw [List.find?_map, hkeys, hfound]
    simp only [Option.map_some, hkey, if_true]
  · rename_i hnone
    have hentries : entries.find? (fun d => d.key == e.key) = none :=
      List.find?_eq_none.mpr fun d hd hkey => hnone (List.any_eq_true.mpr ⟨d, hd, hkey⟩)
    rw [List.find?_append, hentries]
    simp

theorem find?_insert : (c.insert now key records).find? key = some ⟨key, records, now⟩ :=
  find?_place (c.makeRoom now key).entries ⟨key, records, now⟩

end StrictTransport.Resolver.Cache
