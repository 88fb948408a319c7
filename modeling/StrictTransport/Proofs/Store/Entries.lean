import StrictTransport.Store.Basic

namespace StrictTransport.Store

-- The names of a store, in the order in which they came.
def keys (s : Store) : List String :=
  s.entries.map Prod.fst

section Lookup

variable {α β : Type} [BEq α] [LawfulBEq α]

theorem lookup_cons_of_eq (a : α) (b : β) (l : List (α × β)) :
    ((a, b) :: l).lookup a = some b := by
  rw [List.lookup_cons, beq_self_eq_true]

theorem lookup_cons_of_ne {a other : α} (h : other ≠ a) (b : β) (l : List (α × β)) :
    ((a, b) :: l).lookup other = l.lookup other := by
  rw [List.lookup_cons, beq_false_of_ne h]

theorem mem_of_lookup {l : List (α × β)} {a : α} {b : β} (h : l.lookup a = some b) :
    (a, b) ∈ l := by
  obtain ⟨before, after, heq, -⟩ := List.lookup_eq_some_iff.mp h
  rw [heq]
  exact List.mem_append_right _ List.mem_cons_self

end Lookup

theorem lookup_eq_none_iff (entries : List (String × Option Policy)) (name : String) :
    entries.lookup name = none ↔ name ∉ entries.map Prod.fst := by
  rw [List.lookup_eq_none_iff, List.mem_map]
  constructor
  · rintro h ⟨e, he, rfl⟩
    exact absurd (h e he) (by simp)
  · intro h e he
    exact bne_iff_ne.mpr fun heq => h ⟨e, he, heq.symm⟩

theorem any_key_iff (entries : List (String × Option Policy)) (name : String) :
    (entries.any fun e => e.1 == name) = true ↔ name ∈ entries.map Prod.fst := by
  simp only [List.any_eq_true, beq_iff_eq, List.mem_map]

theorem map_fst_set (entries : List (String × Option Policy)) (name : String)
    (p : Option Policy) :
    (set entries name p).map Prod.fst =
      if name ∈ entries.map Prod.fst then entries.map Prod.fst
      else entries.map Prod.fst ++ [name] := by
  simp only [set, any_key_iff]
  split
  · rw [List.map_map]
    apply List.map_congr_left
    intro e _
    by_cases he : e.1 = name <;> simp [he]
  · rw [List.map_append]
    rfl

theorem lookup_replace (entries : List (String × Option Policy)) (name other : String)
    (p : Option Policy) :
    (entries.map fun e => if e.1 == name then (name, p) else e).lookup other =
      if other = name then (entries.lookup other).map fun _ => p else entries.lookup other := by
  induction entries with
  | nil => simp
  | cons e entries ih =>
      obtain ⟨key, old⟩ := e
      simp only [List.map_cons]
      by_cases hkey : key = name
      · subst hkey
        rw [if_pos (beq_self_eq_true key)]
        by_cases hother : other = key
        · subst hother
          rw [if_pos rfl, lookup_cons_of_eq, lookup_cons_of_eq, Option.map_some]
        · rw [lookup_cons_of_ne hother, lookup_cons_of_ne hother, ih]
      · rw [if_neg (by simpa using hkey)]
        by_cases hother : other = key
        · subst hother
          rw [if_neg hkey, lookup_cons_of_eq, lookup_cons_of_eq]
        · rw [lookup_cons_of_ne hother, lookup_cons_of_ne hother, ih]

theorem lookup_set (entries : List (String × Option Policy)) (name other : String)
    (p : Option Policy) :
    (set entries name p).lookup other =
      if other = name then some p else entries.lookup other := by
  simp only [set, any_key_iff]
  split
  · rename_i hmem
    rw [lookup_replace]
    split
    · rename_i hother
      subst hother
      cases hfound : entries.lookup other with
      | none => exact absurd hmem ((lookup_eq_none_iff entries other).mp hfound)
      | some old => rfl
    · rfl
  · rename_i hmem
    rw [List.lookup_append]
    split
    · rename_i hother
      subst hother
      rw [(lookup_eq_none_iff entries other).mpr hmem, lookup_cons_of_eq, Option.none_or]
    · rename_i hother
      rw [lookup_cons_of_ne hother, List.lookup_nil, Option.or_none]

theorem mem_set {entries : List (String × Option Policy)} {name : String} {p : Option Policy}
    {e : String × Option Policy} (h : e ∈ set entries name p) : e = (name, p) ∨ e ∈ entries := by
  unfold set at h
  split at h
  · obtain ⟨old, hold, he⟩ := List.mem_map.mp h
    split at he
    · exact .inl he.symm
    · exact .inr (he ▸ hold)
  · rcases List.mem_append.mp h with hold | hnew
    · exact .inr hold
    · exact .inl (List.mem_singleton.mp hnew)

theorem keys_put (s : Store) (domain : String) (p : Policy) :
    (s.put domain p).keys =
      if Domain.normalize domain ∈ s.keys then s.keys else s.keys ++ [Domain.normalize domain] :=
  map_fst_set s.entries _ _

theorem keys_prefix_put (s : Store) (domain : String) (p : Policy) :
    s.keys <+: (s.put domain p).keys := by
  rw [keys_put]
  split
  · exact List.prefix_rfl
  · exact List.prefix_append _ _

theorem find?_put (s : Store) (domain name : String) (p : Policy) :
    (s.put domain p).find? name =
      if name = Domain.normalize domain then some p else s.find? name := by
  unfold find? put
  rw [lookup_set]
  split <;> rfl

theorem mem_of_find? {s : Store} {name : String} {p : Policy} (h : s.find? name = some p) :
    (name, some p) ∈ s.entries := by
  unfold find? at h
  rw [Option.join_eq_some_iff] at h
  exact mem_of_lookup h

theorem find?_of_mem {s : Store} (hs : s.keys.Nodup) {name : String} {p : Policy}
    (h : (name, some p) ∈ s.entries) : s.find? name = some p := by
  have hlookup : s.entries.lookup name = some (some p) := by
    unfold keys at hs
    generalize s.entries = entries at hs h
    induction entries with
    | nil => exact absurd h List.not_mem_nil
    | cons e entries ih =>
        obtain ⟨key, old⟩ := e
        rw [List.map_cons, List.nodup_cons] at hs
        rcases List.mem_cons.mp h with heq | hrest
        · rw [← heq]
          exact lookup_cons_of_eq name (some p) entries
        · have hne : name ≠ key := by
            rintro rfl
            exact hs.1 (List.mem_map.mpr ⟨_, hrest, rfl⟩)
          rw [lookup_cons_of_ne hne]
          exact ih hs.2 hrest
  rw [find?, hlookup]
  rfl

theorem nodup_keys_put {s : Store} (hs : s.keys.Nodup) (domain : String) (p : Policy) :
    (s.put domain p).keys.Nodup := by
  rw [keys_put]
  split
  · exact hs
  · rename_i hnew
    exact List.nodup_append.mpr ⟨hs, by simp, fun a ha b hb heq =>
      hnew (List.mem_singleton.mp hb ▸ heq ▸ ha)⟩

-- Every place holds a policy that can be applied, and no two places are for the same name.
structure Sound (s : Store) : Prop where
  valid : ∀ e ∈ s.entries, ∃ p, e.2 = some p ∧ p.isValid = true
  distinct : s.keys.Nodup

theorem Sound.of_empty : Sound empty :=
  ⟨fun _ h => absurd h List.not_mem_nil, List.nodup_nil⟩

theorem Sound.put {s : Store} (hs : Sound s) (domain : String) {p : Policy}
    (hp : p.isValid = true) : Sound (s.put domain p) := by
  refine ⟨fun e he => ?_, nodup_keys_put hs.distinct domain p⟩
  rcases mem_set he with rfl | hold
  · exact ⟨p, rfl, hp⟩
  · exact hs.valid e hold

end StrictTransport.Store
