import StrictTransport.Proofs.Record.Token
import StrictTransport.Proofs.Store.Load
import StrictTransport.Proofs.Store.Runs

namespace StrictTransport

-- A name whose normal form is its own normal form. The normal form of "a ." is "a ", and that of
-- "a " is "a".
def Domain.Steady (name : String) : Prop :=
  normalize (normalize name) = normalize name

instance (name : String) : Decidable (Domain.Steady name) := by
  unfold Domain.Steady
  infer_instance

namespace Store

variable {σ ε : Type}

-- What a store is used for.
inductive Use (σ ε : Type) where
  | put (domain : String) (p : Policy)
  | load (registrable : List String → Bool) (limits : Limits) (entries : List (String × String))
  | answer (call : Call σ ε)

-- The store after a use of it.
def Use.apply (o : Outside σ) (s : Store) : Use σ ε → Store
  | .put domain p => s.put domain p
  | .load registrable limits entries => (s.load registrable limits entries).1
  | .answer call => (call.answer o s).2

-- Whether a use has nothing to store under a name: calls that would store under it are served from
-- the store. What a call fetches is stored under the normal form of the name that it was looked up
-- under.
def Use.Spares (o : Outside σ) (name : String) (s : Store) : Use σ ε → Prop
  | .put domain _ => Domain.normalize domain ≠ name
  | .load _ _ entries => ∀ entry ∈ entries, Domain.normalize entry.1 ≠ name
  | .answer call => ∀ other token, subject? call.record = some (other, token) →
      Domain.normalize other = name → ∃ p, s.fresh? other token (call.world.now o) = some p

-- The store after several uses of it.
def afterUses (o : Outside σ) (uses : List (Use σ ε)) (s : Store) : Store :=
  uses.foldl (Use.apply o) s

-- Whether each of several uses spares a name.
def Spared (o : Outside σ) (name : String) : List (Use σ ε) → Store → Prop
  | [], _ => True
  | use :: uses, s => use.Spares o name s ∧ Spared o name uses (use.apply o s)

theorem find?_answer (o : Outside σ) (s : Store) (call : Call σ ε) {name : String}
    (h : (Use.answer call).Spares o name s) :
    (call.answer o s).2.find? name = s.find? name := by
  have hends := getOrFetch_ends o call.fetch call.record s call.world
  change (getOrFetch o call.fetch call.record s call.world).2.1.find? name = s.find? name
  generalize getOrFetch o call.fetch call.record s call.world = result at hends ⊢
  obtain ⟨outcome, s', w'⟩ := result
  cases hends with
  | @fetched other token p hsubject hmissed hfetch hvalid =>
      refine (find?_put s other name p).trans (if_neg ?_)
      rintro rfl
      obtain ⟨found, hfound⟩ := h other token hsubject rfl
      rw [hmissed] at hfound
      cases hfound
  | _ => rfl

theorem Use.Spares.find?_apply {o : Outside σ} {s : Store} {name : String} {use : Use σ ε}
    (h : use.Spares o name s) : (use.apply o s).find? name = s.find? name := by
  cases use with
  | put domain p =>
      change (s.put domain p).find? name = s.find? name
      rw [find?_put, if_neg (Ne.symm h)]
  | load registrable limits entries =>
      change (s.load registrable limits entries).1.find? name = s.find? name
      rw [find?_load]
      cases hlast : lastLoaded? registrable limits name entries with
      | none => rfl
      | some p =>
          obtain ⟨entry, hmem, hname, -⟩ := lastLoaded?_eq_some hlast
          exact absurd hname (h entry hmem)
  | answer call => exact find?_answer o s call h

theorem Spared.find?_afterUses {o : Outside σ} {name : String} {uses : List (Use σ ε)} {s : Store}
    (h : Spared o name uses s) : (afterUses o uses s).find? name = s.find? name := by
  induction uses generalizing s with
  | nil => rfl
  | cons use uses ih => exact (ih h.2).trans h.1.find?_apply

theorem getOrFetch_of_fresh {o : Outside σ} {record? : Option Record} {s : Store} {w : World σ}
    {name token : String} {p : Policy} (hsubject : subject? record? = some (name, token))
    (hfresh : s.fresh? name token (w.now o) = some p) (fetch : Fetch σ ε) :
    getOrFetch o fetch record? s w = (.ok ⟨some p.asCached, .stored⟩, s, w) := by
  simp only [getOrFetch, hsubject, hfresh]

theorem getOrFetch_of_valid {o : Outside σ} {fetch : Fetch σ ε} {record? : Option Record}
    {s : Store} {w : World σ} {name token : String} {p : Policy}
    (hsubject : subject? record? = some (name, token))
    (hmissed : s.fresh? name token (w.now o) = none)
    (hfetched : (fetch record? w).1 = .ok (some p)) (hvalid : p.isValid = true) :
    getOrFetch o fetch record? s w =
      (.ok ⟨some p, .fetched⟩, s.put name p, (fetch record? w).2) := by
  simp only [getOrFetch, hsubject, hmissed, hfetched, conclude, settle, hvalid, if_true, note_nil]

-- A policy is handed out as long as it holds to those who bring its record's token.
theorem fresh?_of_find? {s : Store} {name : String} {p : Policy} {record : Record} {now : Int}
    (hfind : s.find? name = some p) (hbuilt : p.record = some record)
    (hlasts : now < p.fetchTime + p.maxAge) : s.fresh? name record.token now = some p := by
  have hexpired : p.isExpired now = false := decide_eq_false (by omega)
  have hstale : isStale p record.token now = false := by
    simp [isStale, hexpired, hbuilt]
  rw [fresh?, hfind, Option.filter_some, hstale]
  rfl

theorem subject?_of_domain {record : Record} {domain : String}
    (h : record.domain = some domain) :
    subject? (some record) = some (Domain.normalize domain, record.token) := by
  rw [subject?, Option.bind_some, h]
  rfl

-- A policy that was fetched for a steady name is the one that the store has for that name, and the
-- one that it hands out, without a further fetch, as long as the policy holds. What was fetched
-- for any other name cannot be found under it: the store has what it had before, and each call
-- fetches anew.
theorem fetched_once (o : Outside σ) (fetch : Fetch σ ε) (s : Store) (w : World σ)
    (record : Record) (domain : String) (p : Policy) (hdomain : record.domain = some domain)
    (hmissed : s.fresh? (Domain.normalize domain) record.token (w.now o) = none)
    (hfetched : (fetch (some record) w).1 = .ok (some p)) (hvalid : p.isValid = true)
    (hbuilt : p.record = some record) :
    let s' := (getOrFetch o fetch (some record) s w).2.1
    (Domain.Steady domain →
      s'.get? domain = some p ∧
      ∀ uses : List (Use σ ε), Spared o (Domain.normalize domain) uses s' →
        ∀ (call : Call σ ε) (other : Record), call.record = some other →
          other.sameGeneration (some record) = true →
          call.world.now o < p.fetchTime + p.maxAge →
          getOrFetch o call.fetch call.record (afterUses o uses s') call.world =
            (.ok ⟨some p.asCached, .stored⟩, afterUses o uses s', call.world)) ∧
    (¬Domain.Steady domain →
      s'.get? domain = s.get? domain ∧
      ∀ (call : Call σ ε) (q : Policy), call.record = some record →
        call.world.now o = w.now o → call.fetched = .ok (some q) → q.isValid = true →
        (call.answer o s').1 = .ok ⟨some q, .fetched⟩) := by
  have hsubject := subject?_of_domain hdomain
  rw [getOrFetch_of_valid hsubject hmissed hfetched hvalid]
  refine ⟨fun hsteady => ?_, fun hsteady => ?_⟩
  · have hget : (s.put (Domain.normalize domain) p).find? (Domain.normalize domain) = some p := by
      rw [find?_put, if_pos hsteady.symm]
    refine ⟨hget, fun uses hspared call other hcall hsame hlasts => ?_⟩
    have hfind := hspared.find?_afterUses.trans hget
    obtain ⟨da, db, hda, hdb, hname, htoken⟩ :=
      (Record.sameGeneration_eq_true_iff other record).mp hsame
    obtain rfl := Option.some.inj (hdb.symm.trans hdomain)
    have hother := subject?_of_domain hda
    rw [hname, htoken] at hother
    rw [hcall]
    exact getOrFetch_of_fresh hother (fresh?_of_find? hfind hbuilt hlasts) call.fetch
  · have hget : (s.put (Domain.normalize domain) p).find? (Domain.normalize domain) =
        s.find? (Domain.normalize domain) := by
      rw [find?_put, if_neg (Ne.symm hsteady)]
    refine ⟨hget, fun call q hcall hnow hresult hq => ?_⟩
    have hagain : (s.put (Domain.normalize domain) p).fresh? (Domain.normalize domain) record.token
        (call.world.now o) = none := by
      rwa [fresh?, hget, hnow]
    have hcalled : subject? call.record = some (Domain.normalize domain, record.token) := by
      rw [hcall, hsubject]
    simp only [Call.answer]
    rw [getOrFetch_of_valid hcalled hagain hresult hq]

-- An entry that tells a policy for a domain.
def dayEntry (name domain : String) : String × String :=
  (name, (dayPolicy ⟨some domain, "v=STSv1; id=1;"⟩).extended)

theorem blankBeforeDot_fetched_twice :
    (¬Domain.Steady "example.com ." ∧
      let s := ((dayCall "example.com ." 1700000000).answer clockWorld empty).2
      s.get? "example.com ." = none ∧
        ((dayCall "example.com ." 1700000000).answer clockWorld s).1 =
          .ok ⟨some (dayPolicy ⟨some "example.com .", "v=STSv1; id=1;"⟩), .fetched⟩) ∧
    (Domain.Steady "example.com" ∧
      let s := ((dayCall "example.com" 1700000000).answer clockWorld empty).2
      s.get? "example.com" = some (dayPolicy ⟨some "example.com", "v=STSv1; id=1;"⟩) ∧
        ((dayCall "Example.com." 1700086399).answer clockWorld s).1 =
          .ok ⟨some (dayPolicy ⟨some "example.com", "v=STSv1; id=1;"⟩).asCached, .stored⟩) := by
  have hspaced : ¬Domain.Steady "example.com ." := by decide +kernel
  have hnamed : Domain.Steady "example.com" := by decide +kernel
  have hfetched := fun domain => fetched_once clockWorld (dayCall domain 1700000000).fetch empty
    (dayCall domain 1700000000).world ⟨some domain, "v=STSv1; id=1;"⟩ domain
    (dayPolicy ⟨some domain, "v=STSv1; id=1;"⟩) rfl rfl rfl rfl rfl
  obtain ⟨hnone, hagain⟩ := (hfetched "example.com .").2 hspaced
  obtain ⟨hsome, hserved⟩ := (hfetched "example.com").1 hnamed
  have hsame : Record.sameGeneration ⟨some "Example.com.", "v=STSv1; id=1;"⟩
      (some ⟨some "example.com", "v=STSv1; id=1;"⟩) = true := by
    decide +kernel
  refine ⟨⟨hspaced, hnone, hagain (dayCall "example.com ." 1700000000) _ rfl rfl rfl rfl⟩,
    hnamed, hsome, ?_⟩
  exact congrArg Prod.fst
    (hserved [] trivial (dayCall "Example.com." 1700086399) _ rfl hsame (by decide))

end Store

end StrictTransport
