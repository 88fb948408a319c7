import StrictTransport.Proofs.Check.Fetch
import StrictTransport.Proofs.Policy.Restore
import StrictTransport.Proofs.Record.Lookup
import StrictTransport.Proofs.Store.Load
import StrictTransport.Proofs.Store.Runs

namespace StrictTransport.Store

-- The stores that checks of legal domains fill, whenever the clock shows positive times. Each check
-- has a world of its own, and its own settings but for the limits.
inductive Reached (registrable : List String → Bool) (limits : Limits) : Store → Prop where
  | empty : Reached registrable limits empty
  | check {σ : Type} {s : Store} (hs : Reached registrable limits s) (o : Outside σ)
      (hclock : ∀ state, 0 < o.now state) (setting : Check.Setting)
      (hlimits : setting.limits = limits) (domain : String)
      (hdomain : Domain.isValid registrable domain = true) (w : World σ) :
      Reached registrable limits (Check.getPolicy o setting domain s w).2.1

-- Every place holds a genuine policy for the domain whose name it has.
structure Genuine (limits : Limits) (s : Store) : Prop where
  places : ∀ e ∈ s.entries, ∃ p record, e.2 = some p ∧ p.Genuine limits record e.1
  distinct : s.keys.Nodup

theorem Genuine.put {limits : Limits} {s : Store} (hs : s.Genuine limits) {domain : String}
    {p : Policy} {record : Record} (hp : p.Genuine limits record domain) :
    (s.put domain p).Genuine limits := by
  refine ⟨fun e he => ?_, nodup_keys_put hs.distinct domain p⟩
  rcases mem_set he with rfl | hold
  · refine ⟨p, record, rfl, ?_⟩
    rw [hp.tidy.normalize_eq]
    exact hp
  · exact hs.places e hold

section Check

variable {σ : Type} (o : Outside σ)

-- What a check fetches for a legal domain and stores is genuine.
theorem Genuine.getOrFetch {limits : Limits} {s : Store} (hs : s.Genuine limits)
    (hclock : ∀ state, 0 < o.now state) (client : Https.Client) (record : Record)
    {domain : String} {parsed : Record.Parsed} (hnamed : record.domain = some domain)
    (htidy : Domain.Tidy domain.toList) (hread : Record.parse record.id = .ok parsed)
    (w : World σ) :
    (Store.getOrFetch o (Check.fetcher o client limits) (some record) s w).2.1.Genuine limits := by
  have hsubject : subject? (some record) = some (domain, record.token) := by
    simp [subject?, hnamed, htidy.normalize_eq]
  have hends := getOrFetch_ends o (Check.fetcher o client limits) (some record) s w
  generalize Store.getOrFetch o (Check.fetcher o client limits) (some record) s w = result
    at hends ⊢
  obtain ⟨outcome, s', w'⟩ := result
  cases hends with
  | @fetched name token p hsubject' _ hfetch hvalid =>
      rw [hsubject, Option.some.injEq, Prod.mk.injEq] at hsubject'
      obtain ⟨rfl, -⟩ := hsubject'
      obtain ⟨response?, rfl⟩ := Check.fetcher_eq_ok hfetch
      exact hs.put (Policy.genuine_ofResponse hvalid (hclock _) hnamed htidy hread)
  | _ => exact hs

theorem Genuine.getPolicy {registrable : List String → Bool} {s : Store}
    (setting : Check.Setting) (hs : s.Genuine setting.limits) (hclock : ∀ state, 0 < o.now state)
    {domain : String} (hdomain : Domain.isValid registrable domain = true) (w : World σ) :
    (Check.getPolicy o setting domain s w).2.1.Genuine setting.limits := by
  cases hfind : Record.find o setting.options (Domain.normalize domain) w with
  | mk found w' =>
      cases found with
      | error fault =>
          rw [(Check.getPolicy_of_error hfind s).1]
          exact hs
      | ok record =>
          obtain ⟨text, parsed, -, -, rfl, hread, -⟩ := Record.find_eq_ok hfind
          rw [Check.getPolicy_of_found hfind]
          exact hs.getOrFetch o hclock setting.client
            ⟨some (Domain.normalize (Domain.normalize domain)), text⟩ rfl
            (Domain.tidy_normalize_of_isValid hdomain) hread w'

end Check

theorem Reached.genuine {registrable : List String → Bool} {limits : Limits} {s : Store}
    (h : Reached registrable limits s) : s.Genuine limits := by
  induction h with
  | empty => exact ⟨fun _ he => absurd he List.not_mem_nil, List.nodup_nil⟩
  | check _ o hclock setting hlimits domain hdomain w ih =>
      subst hlimits
      exact Genuine.getPolicy o setting ih hclock hdomain w

-- What it means that nothing is lost: as many policies as there were, under the same names, and
-- each with the same content.
structure Restores (s : Store) (result : Store × Nat × List Notice) : Prop where
  count : result.2.1 = s.size
  names : result.1.keys = s.keys
  policies : ∀ name p, s.find? name = some p →
    ∃ q, result.1.find? name = some q ∧ p.SameContent q

-- One policy on its way through a restart.
def reloaded? (registrable : List String → Bool) (limits : Limits) (e : String × Policy) :
    Option (String × Policy) :=
  loaded? registrable limits (e.1, e.2.extended)

theorem fst_of_reloaded? {registrable : List String → Bool} {limits : Limits}
    {e e' : String × Policy} (h : reloaded? registrable limits e = some e') : e'.1 = e.1 := by
  unfold reloaded? at h
  exact fst_of_loaded? h

theorem reloaded?_iff {registrable : List String → Bool} {limits : Limits} {p : Policy}
    {record : Record} {name : String} (hp : p.Genuine limits record name)
    (hlimits : Policy.Ordered limits) :
    (∃ q, reloaded? registrable limits (name, p) = some (name, q) ∧ p.SameContent q) ↔
      p.Restorable registrable limits record name := by
  rw [← hp.restored_iff hlimits]
  unfold reloaded?
  constructor
  · rintro ⟨q, hq, hsame⟩
    obtain ⟨q', hq', heq⟩ := Option.map_eq_some_iff.mp hq
    obtain ⟨-, rfl⟩ := Prod.mk.inj heq
    refine ⟨q', ?_, ⟨hsame.1, hsame.2, hsame.3, hsame.4, hsame.5, hsame.6, hsame.7⟩⟩
    cases hread : (Policy.ofExtended registrable limits p.extended).1 with
    | error e => rw [hread] at hq'; cases hq'
    | ok found => rw [hread] at hq'; cases hq'; rfl
  · rintro ⟨q, hq, hsame⟩
    refine ⟨q.asCached, by rw [loaded?, hq]; rfl,
      ⟨hsame.1, hsame.2, hsame.3, hsame.4, hsame.5, hsame.6, hsame.7⟩⟩

theorem map_fst_filterMap {f : String × Policy → Option (String × Policy)}
    {ps : List (String × Policy)} (h : ∀ e ∈ ps, ∃ q, f e = some (e.1, q)) :
    (ps.filterMap f).map Prod.fst = ps.map Prod.fst := by
  induction ps with
  | nil => rfl
  | cons e ps ih =>
      obtain ⟨q, hq⟩ := h e List.mem_cons_self
      rw [List.filterMap_cons_some hq, List.map_cons, List.map_cons,
        ih fun e he => h e (List.mem_cons_of_mem _ he)]

-- Nothing is lost if no single policy is, whatever it is that is done to each of them.
theorem restores_iff_forall {s : Store} {ps : List (String × Policy)} (hps : s.Holds ps)
    (hdistinct : s.keys.Nodup) {f : String × Policy → Option (String × Policy)}
    (hname : ∀ e e', f e = some e' → e'.1 = e.1) {result : Store × Nat × List Notice}
    (hresult : result.1.Holds (ps.filterMap f)) (hcount : result.2.1 = (ps.filterMap f).length) :
    Restores s result ↔
      ∀ name p, (name, p) ∈ ps → ∃ q, f (name, p) = some (name, q) ∧ p.SameContent q := by
  constructor
  · intro hrestores name p hmem
    have hfind := find?_of_mem hdistinct ((hps.mem_iff name p).mpr hmem)
    obtain ⟨q, hq, hsame⟩ := hrestores.policies name p hfind
    obtain ⟨⟨other, old⟩, hold, hload⟩ :=
      List.mem_filterMap.mp ((hresult.mem_iff name q).mp (mem_of_find? hq))
    obtain rfl : name = other := hname _ _ hload
    have hfind' := find?_of_mem hdistinct ((hps.mem_iff name old).mpr hold)
    obtain rfl := Option.some.inj (hfind'.symm.trans hfind)
    exact ⟨q, hload, hsame⟩
  · intro hall
    have hnames : (ps.filterMap f).map Prod.fst = ps.map Prod.fst := by
      refine map_fst_filterMap ?_
      rintro ⟨name, p⟩ he
      obtain ⟨q, hq, -⟩ := hall name p he
      exact ⟨q, hq⟩
    have hkeys : result.1.keys = s.keys := by rw [hresult.keys_eq, hnames, hps.keys_eq]
    refine ⟨?_, hkeys, fun name p hfind => ?_⟩
    · rw [hcount, hps.size_eq, ← List.length_map Prod.fst, hnames, List.length_map]
    · have hmem := (hps.mem_iff name p).mp (mem_of_find? hfind)
      obtain ⟨q, hq, hsame⟩ := hall name p hmem
      refine ⟨q, find?_of_mem (hkeys ▸ hdistinct) ((hresult.mem_iff name q).mpr ?_), hsame⟩
      exact List.mem_filterMap.mpr ⟨(name, p), hmem, hq⟩

theorem Genuine.exists_holds {limits : Limits} {s : Store} (hs : s.Genuine limits) :
    ∃ ps, s.Holds ps ∧ ∀ name p, (name, p) ∈ ps → ∃ record, p.Genuine limits record name := by
  obtain ⟨ps, hps⟩ := Store.exists_holds s fun e he => by
    obtain ⟨p, -, hp, -⟩ := hs.places e he
    exact ⟨p, hp⟩
  refine ⟨ps, hps, fun name p hmem => ?_⟩
  obtain ⟨_, record, heq, hp⟩ := hs.places _ ((hps.mem_iff name p).mpr hmem)
  cases heq
  exact ⟨record, hp⟩

-- What a restart makes of a genuine store.
theorem Genuine.load_exported (registrable : List String → Bool) {limits : Limits} {s : Store}
    {ps : List (String × Policy)} (hps : s.Holds ps) (hdistinct : s.keys.Nodup)
    (hplaces : ∀ name p, (name, p) ∈ ps → ∃ record, p.Genuine limits record name) :
    ∃ entries, s.exported? = some entries ∧
      (load registrable limits empty entries).1.Holds
        (ps.filterMap (reloaded? registrable limits)) ∧
      (load registrable limits empty entries).2.1 =
        (ps.filterMap (reloaded? registrable limits)).length := by
  refine ⟨_, hps.exported?_eq ?_, ?_⟩
  · rintro ⟨name, p⟩ he
    obtain ⟨record, hp⟩ := hplaces name p he
    exact ⟨record, hp.recorded⟩
  · have hreload : (loaded? registrable limits ∘ fun e : String × Policy => (e.1, e.2.extended)) =
        reloaded? registrable limits := by
      funext e
      rw [Function.comp_apply, reloaded?]
    rw [← hreload, ← List.filterMap_map]
    refine load_holds (fun e he => ?_) ?_
    · obtain ⟨⟨name, p⟩, hmem, rfl⟩ := List.mem_map.mp he
      obtain ⟨record, hp⟩ := hplaces name p hmem
      exact hp.tidy.normalize_eq
    · rw [hps.keys_eq] at hdistinct
      rw [List.map_map]
      exact hdistinct

-- A restart loses nothing exactly if every stored policy is restorable.
theorem restores_iff (registrable : List String → Bool) (limits : Limits)
    (hlimits : Policy.Ordered limits) (s : Store) (hs : Reached registrable limits s) :
    ∃ entries, s.exported? = some entries ∧
      (Restores s (load registrable limits empty entries) ↔
        ∀ name p record domain, s.find? name = some p → p.record = some record →
          record.domain = some domain → p.Restorable registrable limits record domain) := by
  have hdistinct := hs.genuine.distinct
  obtain ⟨ps, hps, hplaces⟩ := hs.genuine.exists_holds
  obtain ⟨entries, hexport, hholds, hcount⟩ :=
    Genuine.load_exported registrable hps hdistinct hplaces
  refine ⟨entries, hexport, ?_⟩
  rw [restores_iff_forall hps hdistinct (fun _ _ h => fst_of_reloaded? h) hholds hcount]
  constructor
  · intro hall name p record domain hfind hrecord hdomain
    have hmem := (hps.mem_iff name p).mp (mem_of_find? hfind)
    obtain ⟨record', hp⟩ := hplaces name p hmem
    obtain rfl := Option.some.inj (hp.recorded.symm.trans hrecord)
    obtain rfl := Option.some.inj (hp.named.symm.trans hdomain)
    exact (reloaded?_iff hp hlimits).mp (hall name p hmem)
  · intro hall name p hmem
    obtain ⟨record, hp⟩ := hplaces name p hmem
    have hfind := find?_of_mem hdistinct ((hps.mem_iff name p).mpr hmem)
    exact (reloaded?_iff hp hlimits).mpr (hall name p record name hfind hp.recorded hp.named)

-- Limits under which the line of one host fits as it comes, and not as it is rendered.
def tightLimits : Limits :=
  { Limits.standard with lineLength := 24 }

-- A world in which one domain has a policy, with no blank behind its colons.
def tightWorld : Outside Unit where
  now _ := 1700000000
  depth _ := 1000
  resolve _ state := (.ok (.texts ["v=STSv1; id=1;"]), state)
  request request state :=
    (.ok ⟨request.url, 200, none, [], [Text.Utf8.encode
      "version:STSv1\nmode:enforce\nmx:mail.host.example.com\nmax_age:86400\n".toList], none,
      .present 1⟩, state)
  close _ state := state

def tightSetting : Check.Setting :=
  ⟨.standard, tightLimits, .standard⟩

def tightStore : Store :=
  (Check.getPolicy tightWorld tightSetting "example.com" empty ⟨(), ⟨1, 1, []⟩, []⟩).2.1

theorem tightStore_lost :
    Policy.Ordered tightLimits ∧ Reached (fun _ => true) tightLimits tightStore ∧
      tightStore.size = 1 ∧ ∃ entries, tightStore.exported? = some entries ∧
        ¬Restores tightStore (load (fun _ => true) tightLimits empty entries) := by
  have hlimits : Policy.Ordered tightLimits := ⟨by decide, by decide, by decide, by decide⟩
  have hreached : Reached (fun _ => true) tightLimits tightStore :=
    .check .empty tightWorld (fun _ => (by decide : (0 : Int) < 1700000000)) tightSetting rfl
      "example.com" (by decide +kernel) ⟨(), ⟨1, 1, []⟩, []⟩
  refine ⟨hlimits, hreached, by decide +kernel, ?_⟩
  obtain ⟨entries, hexport, hiff⟩ :=
    restores_iff (fun _ => true) tightLimits hlimits tightStore hreached
  refine ⟨entries, hexport, fun hrestores => ?_⟩
  have hmasks : (tightStore.find? "example.com").map (·.masks) =
      some ["mail.host.example.com"] := by
    decide +kernel
  have hrecord : (tightStore.find? "example.com").bind (·.record) =
      some ⟨some "example.com", "v=STSv1; id=1;"⟩ := by
    decide +kernel
  obtain ⟨p, hfind, hp⟩ := Option.bind_eq_some_iff.mp hrecord
  rw [hfind, Option.map_some, Option.some.injEq] at hmasks
  -- the blank behind the colon makes the line one byte too long
  have hfits := (hiff.mp hrestores "example.com" p _ "example.com" hfind hp rfl).fits
    ("mx", "mail.host.example.com") (by simp [Policy.told, hmasks])
  revert hfits
  decide +kernel

end StrictTransport.Store
