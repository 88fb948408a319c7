import Mathlib.Data.List.Induction
import StrictTransport.Proofs.Policy.Corruption
import StrictTransport.Proofs.Store.Entries

namespace StrictTransport.Store

-- A store with a policy in every place.
def Holds (s : Store) (ps : List (String × Policy)) : Prop :=
  s.entries = ps.map fun e => (e.1, some e.2)

theorem Holds.keys_eq {s : Store} {ps : List (String × Policy)} (h : s.Holds ps) :
    s.keys = ps.map Prod.fst := by
  rw [keys, h, List.map_map]
  rfl

theorem Holds.size_eq {s : Store} {ps : List (String × Policy)} (h : s.Holds ps) :
    s.size = ps.length := by
  rw [size, h, List.length_map]

theorem Holds.mem_iff {s : Store} {ps : List (String × Policy)} (h : s.Holds ps) (name : String)
    (p : Policy) : (name, some p) ∈ s.entries ↔ (name, p) ∈ ps := by
  rw [h, List.mem_map]
  constructor
  · rintro ⟨e, he, heq⟩
    cases heq
    exact he
  · exact fun he => ⟨_, he, rfl⟩

theorem exists_holds (s : Store) (h : ∀ e ∈ s.entries, ∃ p, e.2 = some p) : ∃ ps, s.Holds ps := by
  unfold Holds
  generalize s.entries = entries at h
  induction entries with
  | nil => exact ⟨[], rfl⟩
  | cons e entries ih =>
      obtain ⟨ps, hps⟩ := ih fun e he => h e (List.mem_cons_of_mem _ he)
      obtain ⟨p, hp⟩ := h e List.mem_cons_self
      exact ⟨(e.1, p) :: ps, by rw [hps, List.map_cons, ← hp]⟩

theorem Holds.policies?_eq {s : Store} {ps : List (String × Policy)} (h : s.Holds ps) :
    s.policies? = some ps := by
  rw [policies?, h]
  clear h
  induction ps with
  | nil => rfl
  | cons e ps ih =>
      rw [List.map_cons, List.mapM_cons, ih]
      rfl

theorem Holds.exported?_eq {s : Store} {ps : List (String × Policy)} (h : s.Holds ps)
    (hrecords : ∀ e ∈ ps, ∃ record, e.2.record = some record) :
    s.exported? = some (ps.map fun e => (e.1, e.2.extended)) := by
  rw [exported?, h.policies?_eq, Option.map_some, Option.some.injEq]
  clear h
  induction ps with
  | nil => rfl
  | cons e ps ih =>
      obtain ⟨record, hrecord⟩ := hrecords e List.mem_cons_self
      simp only [List.filterMap_cons, hrecord, Option.map_some, List.map_cons]
      rw [ih fun e he => hrecords e (List.mem_cons_of_mem _ he)]

-- What loading puts into a store for an entry.
def loaded? (registrable : List String → Bool) (limits : Limits) (entry : String × String) :
    Option (String × Policy) :=
  ((Policy.ofExtended registrable limits entry.2).1.toOption).map fun p => (entry.1, p.asCached)

theorem put_of_new {s : Store} {name : String} (hname : Domain.normalize name = name)
    (hnew : name ∉ s.keys) (p : Policy) :
    (s.put name p).entries = s.entries ++ [(name, some p)] := by
  rw [put, hname]
  exact if_neg fun h => hnew ((any_key_iff s.entries name).mp h)

theorem load_append_singleton (registrable : List String → Bool) (limits : Limits) (s : Store)
    (entries : List (String × String)) (entry : String × String) :
    s.load registrable limits (entries ++ [entry]) =
      loadEntry registrable limits (s.load registrable limits entries) entry := by
  simp only [load, List.foldl_append, List.foldl_cons, List.foldl_nil]

theorem fst_of_loaded? {registrable : List String → Bool} {limits : Limits}
    {entry : String × String} {e : String × Policy}
    (h : loaded? registrable limits entry = some e) : e.1 = entry.1 := by
  obtain ⟨p, -, rfl⟩ := Option.map_eq_some_iff.mp h
  rfl

-- An entry is stored and counted, or it changes nothing but the notices.
theorem loadEntry_eq (registrable : List String → Bool) (limits : Limits)
    (state : Store × Nat × List Notice) (entry : String × String) :
    (loadEntry registrable limits state entry).1 =
        (loaded? registrable limits entry).toList.foldl (fun s e => s.put e.1 e.2) state.1 ∧
      (loadEntry registrable limits state entry).2.1 =
        state.2.1 + (loaded? registrable limits entry).toList.length := by
  simp only [loadEntry, loaded?]
  obtain ⟨result, more⟩ := Policy.ofExtended registrable limits entry.2
  cases result with
  | error e => exact ⟨rfl, rfl⟩
  | ok p => exact ⟨rfl, rfl⟩

theorem load_eq_foldl_put (registrable : List String → Bool) (limits : Limits) (s : Store)
    (entries : List (String × String)) :
    (s.load registrable limits entries).1 =
        (entries.filterMap (loaded? registrable limits)).foldl (fun s e => s.put e.1 e.2) s ∧
      (s.load registrable limits entries).2.1 =
        (entries.filterMap (loaded? registrable limits)).length := by
  induction entries using List.reverseRecOn with
  | nil => exact ⟨rfl, rfl⟩
  | append_singleton entries entry ih =>
      obtain ⟨hstore, hcount⟩ := ih
      obtain ⟨hput, hone⟩ := loadEntry_eq registrable limits (s.load registrable limits entries) entry
      have hlast : [entry].filterMap (loaded? registrable limits) =
          (loaded? registrable limits entry).toList := by
        cases h : loaded? registrable limits entry <;> simp [h]
      rw [load_append_singleton, List.filterMap_append, hlast, List.foldl_append, List.length_append,
        ← hstore, ← hcount]
      exact ⟨hput, hone⟩

-- Policies whose names are new to a store come behind the others.
theorem Holds.foldl_put {s : Store} {ps more : List (String × Policy)} (hs : s.Holds ps)
    (hnames : ∀ e ∈ more, Domain.normalize e.1 = e.1)
    (hdistinct : ((ps ++ more).map Prod.fst).Nodup) :
    (more.foldl (fun s e => s.put e.1 e.2) s).Holds (ps ++ more) := by
  induction more generalizing s ps with
  | nil => rwa [List.append_nil]
  | cons e more ih =>
      have hnew : e.1 ∉ s.keys := by
        rw [List.map_append, List.nodup_append] at hdistinct
        rw [hs.keys_eq]
        exact fun hmem => hdistinct.2.2 e.1 hmem e.1 List.mem_cons_self rfl
      have hput : (s.put e.1 e.2).Holds (ps ++ [e]) := by
        rw [Holds, put_of_new (hnames e List.mem_cons_self) hnew, hs, List.map_append]
        rfl
      rw [List.append_cons] at hdistinct ⊢
      exact ih hput (fun e he => hnames e (List.mem_cons_of_mem _ he)) hdistinct

theorem map_fst_loaded_sublist (registrable : List String → Bool) (limits : Limits)
    (entries : List (String × String)) :
    List.Sublist ((entries.filterMap (loaded? registrable limits)).map Prod.fst)
      (entries.map Prod.fst) := by
  induction entries with
  | nil => exact .slnil
  | cons entry entries ih =>
      rw [List.filterMap_cons, List.map_cons]
      cases h : loaded? registrable limits entry with
      | none => exact ih.cons _
      | some e =>
          rw [← fst_of_loaded? h]
          exact ih.cons_cons _

-- Entries with names of their own are loaded one by one; those that cannot be read are left out.
theorem load_holds {registrable : List String → Bool} {limits : Limits}
    {entries : List (String × String)} (hnames : ∀ e ∈ entries, Domain.normalize e.1 = e.1)
    (hdistinct : (entries.map Prod.fst).Nodup) :
    (load registrable limits empty entries).1.Holds
        (entries.filterMap (loaded? registrable limits)) ∧
      (load registrable limits empty entries).2.1 =
        (entries.filterMap (loaded? registrable limits)).length := by
  obtain ⟨hstore, hcount⟩ := load_eq_foldl_put registrable limits empty entries
  have hempty : empty.Holds [] := rfl
  rw [hstore]
  refine ⟨hempty.foldl_put (fun e he => ?_) ?_, hcount⟩
  · obtain ⟨entry, hmem, hload⟩ := List.mem_filterMap.mp he
    rw [fst_of_loaded? hload]
    exact hnames entry hmem
  · exact (map_fst_loaded_sublist registrable limits entries).nodup hdistinct

-- What loading leaves under a name: what the last of the readable entries for it tells.
def lastLoaded? (registrable : List String → Bool) (limits : Limits) (name : String)
    (entries : List (String × String)) : Option Policy :=
  entries.reverse.findSome? fun entry =>
    if Domain.normalize entry.1 = name then (loaded? registrable limits entry).map Prod.snd
    else none

theorem find?_loadEntry (registrable : List String → Bool) (limits : Limits)
    (state : Store × Nat × List Notice) (entry : String × String) (name : String) :
    (loadEntry registrable limits state entry).1.find? name =
      (lastLoaded? registrable limits name [entry]).or (state.1.find? name) := by
  obtain ⟨s, loaded, notices⟩ := state
  simp only [loadEntry, lastLoaded?, List.reverse_singleton, List.findSome?_singleton, loaded?]
  obtain ⟨result, more⟩ := Policy.ofExtended registrable limits entry.2
  cases result with
  | error e => simp only [Except.toOption, Option.map_none, ite_self, Option.none_or]
  | ok p =>
      simp only [Except.toOption, Option.map_some, find?_put]
      by_cases hname : Domain.normalize entry.1 = name
      · rw [if_pos hname.symm, if_pos hname, Option.some_or]
      · rw [if_neg (Ne.symm hname), if_neg hname, Option.none_or]

-- Loading replaces whatever is there under a name.
theorem find?_load (registrable : List String → Bool) (limits : Limits) (s : Store)
    (entries : List (String × String)) (name : String) :
    (s.load registrable limits entries).1.find? name =
      (lastLoaded? registrable limits name entries).or (s.find? name) := by
  induction entries using List.reverseRecOn with
  | nil => rfl
  | append_singleton entries entry ih =>
      have hlast : lastLoaded? registrable limits name (entries ++ [entry]) =
          (lastLoaded? registrable limits name [entry]).or
            (lastLoaded? registrable limits name entries) := by
        rw [lastLoaded?, List.reverse_append, List.findSome?_append]
        rfl
      rw [load_append_singleton, find?_loadEntry, ih, hlast, Option.or_assoc]

theorem lastLoaded?_eq_some {registrable : List String → Bool} {limits : Limits} {name : String}
    {entries : List (String × String)} {p : Policy}
    (h : lastLoaded? registrable limits name entries = some p) :
    ∃ entry ∈ entries, Domain.normalize entry.1 = name ∧
      ∃ q, (Policy.ofExtended registrable limits entry.2).1 = .ok q ∧ p = q.asCached := by
  obtain ⟨entry, hmem, hsome⟩ := List.exists_of_findSome?_eq_some h
  split at hsome
  · rename_i hname
    refine ⟨entry, List.mem_reverse.mp hmem, hname, ?_⟩
    simp only [loaded?] at hsome
    cases hread : (Policy.ofExtended registrable limits entry.2).1 with
    | error e =>
        rw [hread] at hsome
        cases hsome
    | ok q =>
        rw [hread] at hsome
        exact ⟨q, rfl, (Option.some.inj hsome).symm⟩
  · cases hsome

end StrictTransport.Store
