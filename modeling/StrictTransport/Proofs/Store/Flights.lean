import Mathlib.Data.List.Nodup
import StrictTransport.Proofs.Store.Crowd
import StrictTransport.Proofs.Store.Entries

namespace StrictTransport.Store

variable {ε : Type}

theorem Stage.owed?_of_lead? {stage : Stage ε} {name : String} {flight : Nat}
    (h : stage.lead? = some (name, flight)) : stage.owed? = some flight := by
  cases stage <;> simp_all [lead?, owed?]

theorem lookup_filter_ne (flights : List (String × Nat)) (name : String) (flight : Nat)
    (other : String) : (other, flight) ∈ (flights.filter fun f => f.1 != name) ↔
      (other, flight) ∈ flights ∧ other ≠ name := by
  rw [List.mem_filter, bne_iff_ne]

namespace Crowd

theorem Leads.owes {c : Crowd ε} {i : Nat} {name : String} {flight : Nat}
    (h : c.Leads i name flight) : c.Owes i flight := by
  obtain ⟨stage, hstage, hlead⟩ := Option.bind_eq_some_iff.mp h
  exact Option.bind_eq_some_iff.mpr ⟨stage, hstage, Stage.owed?_of_lead? hlead⟩

-- The flights on the board are those that callers lead, one for a name. Each flight that started
-- is owed by one caller, until it is signalled, and only flights that started are waited for.
structure Orderly (c : Crowd ε) : Prop where
  led : ∀ name flight, (name, flight) ∈ c.board.flights ↔ ∃ i, c.Leads i name flight
  names : (c.board.flights.map Prod.fst).Nodup
  subjects : ∀ i name flight, c.Leads i name flight → c.name? i = some name
  alone : ∀ i j flight, c.Owes i flight → c.Owes j flight → i = j
  pending : ∀ i flight, c.Owes i flight →
    flight < c.board.started ∧ c.board.signals.lookup flight = none
  fates : ∀ flight, flight < c.board.started →
    (∃ i, c.Owes i flight) ∨ ∃ outcome, c.board.signals.lookup flight = some outcome
  signalled : ∀ flight outcome, c.board.signals.lookup flight = some outcome →
    flight < c.board.started
  waits : ∀ i flight, c.stage? i = some (.waiting flight) → flight < c.board.started

theorem Orderly.leader_eq {c : Crowd ε} (hc : Orderly c) {i j f g : Nat} {name : String}
    (hi : c.Leads i name f) (hj : c.Leads j name g) : i = j := by
  have hsame := List.inj_on_of_nodup_map hc.names ((hc.led name f).mpr ⟨i, hi⟩)
    ((hc.led name g).mpr ⟨j, hj⟩) rfl
  cases hsame
  exact hc.alone i j f hi.owes hj.owes

section Step

variable {c : Crowd ε} {i : Nat} {who : Caller ε} (hwho : c.callers[i]? = some who)
  (b : Board ε) (stage : Stage ε)

include hwho

theorem leads_set_self (name : String) (flight : Nat) :
    Leads ⟨b, c.callers.set i ⟨who.record, stage⟩⟩ i name flight ↔
      stage.lead? = some (name, flight) := by
  rw [Leads, c.stage?_set b hwho, if_pos rfl, Option.bind_some]

theorem leads_set_of_ne {k : Nat} (hk : k ≠ i) (name : String) (flight : Nat) :
    Leads ⟨b, c.callers.set i ⟨who.record, stage⟩⟩ k name flight ↔ c.Leads k name flight := by
  rw [Leads, c.stage?_set b hwho, if_neg hk, Leads]

theorem owes_set_self (flight : Nat) :
    Owes ⟨b, c.callers.set i ⟨who.record, stage⟩⟩ i flight ↔ stage.owed? = some flight := by
  rw [Owes, c.stage?_set b hwho, if_pos rfl, Option.bind_some]

theorem owes_set_of_ne {k : Nat} (hk : k ≠ i) (flight : Nat) :
    Owes ⟨b, c.callers.set i ⟨who.record, stage⟩⟩ k flight ↔ c.Owes k flight := by
  rw [Owes, c.stage?_set b hwho, if_neg hk, Owes]

theorem leads_iff (name : String) (flight : Nat) :
    c.Leads i name flight ↔ who.stage.lead? = some (name, flight) := by
  rw [Leads, stage?_of_callers hwho, Option.bind_some]

theorem owes_iff (flight : Nat) : c.Owes i flight ↔ who.stage.owed? = some flight := by
  rw [Owes, stage?_of_callers hwho, Option.bind_some]

theorem name?_of_callers : c.name? i = who.name? := by
  rw [name?, hwho, Option.bind_some]

theorem leads_set_iff (hlead : stage.lead? = who.stage.lead?) (k : Nat)
    (name : String) (flight : Nat) :
    Leads ⟨b, c.callers.set i ⟨who.record, stage⟩⟩ k name flight ↔ c.Leads k name flight := by
  by_cases hk : k = i
  · subst hk
    rw [leads_set_self hwho, hlead, leads_iff hwho]
  · exact leads_set_of_ne hwho b stage hk name flight

theorem owes_set_iff (howed : stage.owed? = who.stage.owed?) (k flight : Nat) :
    Owes ⟨b, c.callers.set i ⟨who.record, stage⟩⟩ k flight ↔ c.Owes k flight := by
  by_cases hk : k = i
  · subst hk
    rw [owes_set_self hwho, howed, owes_iff hwho]
  · exact owes_set_of_ne hwho b stage hk flight

theorem Orderly.quiet (hc : Orderly c) (store : Store) {stage : Stage ε}
    (hlead : stage.lead? = who.stage.lead?) (howed : stage.owed? = who.stage.owed?)
    (hjoin : ∀ flight, stage = .waiting flight → who.stage = .waiting flight ∨
      ∃ name, who.name? = some name ∧ c.board.flights.lookup name = some flight) :
    Orderly ⟨{ c.board with store }, c.callers.set i ⟨who.record, stage⟩⟩ := by
  have hleads := leads_set_iff hwho { c.board with store } stage hlead
  have howes := owes_set_iff hwho { c.board with store } stage howed
  refine ⟨?_, hc.names, ?_, ?_, ?_, ?_, hc.signalled, ?_⟩
  · intro name flight
    simp only [hleads]
    exact hc.led name flight
  · intro k name flight h
    rw [c.name?_set _ hwho]
    exact hc.subjects k name flight ((hleads k name flight).mp h)
  · intro k l flight hk hl
    exact hc.alone k l flight ((howes k flight).mp hk) ((howes l flight).mp hl)
  · intro k flight h
    exact hc.pending k flight ((howes k flight).mp h)
  · intro flight h
    simp only [howes]
    exact hc.fates flight h
  · intro k flight h
    rw [c.stage?_set _ hwho] at h
    split at h
    · rcases hjoin flight (Option.some.inj h) with hold | ⟨name, -, hlookup⟩
      · exact hc.waits i flight (by rw [stage?_of_callers hwho, hold])
      · obtain ⟨l, hl⟩ := (hc.led name flight).mp (mem_of_lookup hlookup)
        exact (hc.pending l flight hl.owes).1
    · exact hc.waits k flight h

theorem Orderly.starts (hc : Orderly c) {name : String} {stage : Stage ε}
    (hname : who.name? = some name) (hfree : c.board.flights.lookup name = none)
    (hlead : who.stage.lead? = none) (howed : who.stage.owed? = none)
    (hnow : stage.lead? = some (name, c.board.started))
    (hdue : stage.owed? = some c.board.started) :
    Orderly ⟨{ c.board with
        flights := (name, c.board.started) :: c.board.flights, started := c.board.started + 1 },
      c.callers.set i ⟨who.record, stage⟩⟩ := by
  have hother : ∀ k n f, c.Leads k n f → k ≠ i := by
    rintro k n f h rfl
    rw [leads_iff hwho, hlead] at h
    cases h
  have hdebtor : ∀ k f, c.Owes k f → k ≠ i := by
    rintro k f h rfl
    rw [owes_iff hwho, howed] at h
    cases h
  refine ⟨?_, ?_, ?_, ?_, ?_, ?_, ?_, ?_⟩
  · intro n f
    rw [List.mem_cons]
    constructor
    · rintro (heq | hold)
      · cases heq
        exact ⟨i, (leads_set_self hwho _ stage name _).mpr hnow⟩
      · obtain ⟨k, hk⟩ := (hc.led n f).mp hold
        exact ⟨k, (leads_set_of_ne hwho _ stage (hother k n f hk) n f).mpr hk⟩
    · rintro ⟨k, hk⟩
      by_cases hki : k = i
      · subst hki
        rw [leads_set_self hwho, hnow] at hk
        exact .inl (Option.some.inj hk).symm
      · exact .inr ((hc.led n f).mpr ⟨k, (leads_set_of_ne hwho _ stage hki n f).mp hk⟩)
  · refine List.nodup_cons.mpr ⟨fun hmem => ?_, hc.names⟩
    obtain ⟨⟨n, f⟩, hf, rfl⟩ := List.mem_map.mp hmem
    exact absurd (List.lookup_eq_none_iff.mp hfree _ hf) (by simp)
  · intro k n f h
    rw [c.name?_set _ hwho]
    by_cases hki : k = i
    · subst hki
      rw [leads_set_self hwho, hnow] at h
      cases h
      rw [name?_of_callers hwho, hname]
    · exact hc.subjects k n f ((leads_set_of_ne hwho _ stage hki n f).mp h)
  · intro k l f hk hl
    -- the number of the new flight is above those that others owe
    by_cases hki : k = i <;> by_cases hli : l = i
    · rw [hki, hli]
    · subst hki
      rw [owes_set_self hwho, hdue, Option.some.injEq] at hk
      have hlt := (hc.pending l f ((owes_set_of_ne hwho _ stage hli f).mp hl)).1
      omega
    · subst hli
      rw [owes_set_self hwho, hdue, Option.some.injEq] at hl
      have hlt := (hc.pending k f ((owes_set_of_ne hwho _ stage hki f).mp hk)).1
      omega
    · exact hc.alone k l f ((owes_set_of_ne hwho _ stage hki f).mp hk)
        ((owes_set_of_ne hwho _ stage hli f).mp hl)
  · intro k f h
    by_cases hki : k = i
    · subst hki
      rw [owes_set_self hwho, hdue, Option.some.injEq] at h
      subst h
      refine ⟨Nat.lt_succ_self _, Option.eq_none_iff_forall_ne_some.mpr fun outcome hsome => ?_⟩
      exact Nat.lt_irrefl _ (hc.signalled _ outcome hsome)
    · obtain ⟨hlt, hnone⟩ := hc.pending k f ((owes_set_of_ne hwho _ stage hki f).mp h)
      exact ⟨Nat.lt_succ_of_lt hlt, hnone⟩
  · intro f hf
    by_cases hnew : f = c.board.started
    · exact .inl ⟨i, (owes_set_self hwho _ stage f).mpr (hnew ▸ hdue)⟩
    · simp only at hf
      rcases hc.fates f (by omega) with ⟨k, hk⟩ | hsignal
      · exact .inl ⟨k, (owes_set_of_ne hwho _ stage (hdebtor k f hk) f).mpr hk⟩
      · exact .inr hsignal
  · exact fun f outcome h => Nat.lt_succ_of_lt (hc.signalled f outcome h)
  · intro k f h
    rw [c.stage?_set _ hwho] at h
    split at h
    · have hwait : stage = .waiting f := Option.some.inj h
      rw [hwait] at hnow
      cases hnow
    · exact Nat.lt_succ_of_lt (hc.waits k f h)

theorem Orderly.lands (hc : Orderly c) {name : String} {flight : Nat} {outcome : Outcome ε}
    (hstage : who.stage = .leaving name flight outcome) :
    Orderly ⟨{ c.board with flights := c.board.flights.filter fun f => f.1 != name },
      c.callers.set i ⟨who.record, .signalling flight outcome⟩⟩ := by
  have hleader : c.Leads i name flight := by rw [leads_iff hwho, hstage]; rfl
  have hsame : (Stage.signalling flight outcome).owed? = who.stage.owed? := by rw [hstage]; rfl
  have howes := owes_set_iff hwho
    { c.board with flights := c.board.flights.filter fun f => f.1 != name } _ hsame
  refine ⟨?_, (hc.names.sublist (List.filter_sublist.map _)), ?_, ?_, ?_, ?_, hc.signalled, ?_⟩
  · intro n f
    rw [lookup_filter_ne, hc.led]
    constructor
    · rintro ⟨⟨k, hk⟩, hne⟩
      refine ⟨k, (leads_set_of_ne hwho _ _ ?_ n f).mpr hk⟩
      rintro rfl
      rw [leads_iff hwho, hstage] at hk
      cases hk
      exact hne rfl
    · rintro ⟨k, hk⟩
      by_cases hki : k = i
      · subst hki
        rw [leads_set_self hwho] at hk
        cases hk
      · have hold : c.Leads k n f := (leads_set_of_ne hwho _ _ hki n f).mp hk
        refine ⟨⟨k, hold⟩, fun hn => ?_⟩
        obtain rfl := hc.leader_eq (hn ▸ hold) hleader
        exact hki rfl
  · intro k n f h
    rw [c.name?_set _ hwho]
    by_cases hki : k = i
    · subst hki
      rw [leads_set_self hwho] at h
      cases h
    · exact hc.subjects k n f ((leads_set_of_ne hwho _ _ hki n f).mp h)
  · intro k l f hk hl
    exact hc.alone k l f ((howes k f).mp hk) ((howes l f).mp hl)
  · exact fun k f h => hc.pending k f ((howes k f).mp h)
  · intro f hf
    simp only [howes]
    exact hc.fates f hf
  · intro k f h
    rw [c.stage?_set _ hwho] at h
    split at h
    · cases h
    · exact hc.waits k f h

theorem Orderly.signals (hc : Orderly c) {flight : Nat} {outcome : Outcome ε}
    (hstage : who.stage = .signalling flight outcome) :
    Orderly ⟨{ c.board with signals := (flight, outcome) :: c.board.signals },
      c.callers.set i ⟨who.record, .done outcome⟩⟩ := by
  have howing : c.Owes i flight := by rw [owes_iff hwho, hstage]; rfl
  have hsame : (Stage.done outcome).lead? = who.stage.lead? := by rw [hstage]; rfl
  have hleads := leads_set_iff hwho
    { c.board with signals := (flight, outcome) :: c.board.signals } _ hsame
  have howes : ∀ k f, Owes ⟨{ c.board with signals := (flight, outcome) :: c.board.signals },
      c.callers.set i ⟨who.record, .done outcome⟩⟩ k f ↔ k ≠ i ∧ c.Owes k f := by
    intro k f
    by_cases hk : k = i
    · subst hk
      rw [owes_set_self hwho]
      exact ⟨nofun, fun h => absurd rfl h.1⟩
    · rw [owes_set_of_ne hwho _ _ hk f]
      exact ⟨fun h => ⟨hk, h⟩, And.right⟩
  refine ⟨?_, hc.names, ?_, ?_, ?_, ?_, ?_, ?_⟩
  · intro n f
    simp only [hleads]
    exact hc.led n f
  · intro k n f h
    rw [c.name?_set _ hwho]
    exact hc.subjects k n f ((hleads k n f).mp h)
  · intro k l f hk hl
    exact hc.alone k l f ((howes k f).mp hk).2 ((howes l f).mp hl).2
  · intro k f h
    obtain ⟨hne, hk⟩ := (howes k f).mp h
    obtain ⟨hlt, hnone⟩ := hc.pending k f hk
    refine ⟨hlt, ?_⟩
    have hflight : f ≠ flight := by
      rintro rfl
      exact hne (hc.alone k i f hk howing)
    rw [lookup_cons_of_ne hflight]
    exact hnone
  · intro f hf
    by_cases hflight : f = flight
    · subst hflight
      exact .inr ⟨outcome, lookup_cons_of_eq f outcome c.board.signals⟩
    · rw [lookup_cons_of_ne hflight]
      rcases hc.fates f hf with ⟨k, hk⟩ | hsignal
      · refine .inl ⟨k, (howes k f).mpr ⟨?_, hk⟩⟩
        rintro rfl
        rw [owes_iff hwho, hstage] at hk
        exact hflight (Option.some.inj hk).symm
      · exact .inr hsignal
  · intro f out h
    by_cases hflight : f = flight
    · subst hflight
      exact (hc.pending i f howing).1
    · rw [lookup_cons_of_ne hflight] at h
      exact hc.signalled f out h
  · intro k f h
    rw [c.stage?_set _ hwho] at h
    split at h
    · cases h
    · exact hc.waits k f h

end Step

theorem Orderly.step {c : Crowd ε} (hc : Orderly c) (m : Move ε) : Orderly (c.step m) := by
  rcases c.step_cases m with ⟨-, heq⟩ | ⟨who, b, stage, hwho, hgoes, heq⟩
  · rwa [heq]
  · rw [heq]
    cases hgoes with
    | quiet hlead howed hjoin => exact hc.quiet hwho _ hlead howed hjoin
    | starts hname hfree hlead howed hnow hdue =>
        exact hc.starts hwho hname hfree hlead howed hnow hdue
    | lands hstage => exact hc.lands hwho hstage
    | signals hstage => exact hc.signals hwho hstage

theorem Orderly.run {c : Crowd ε} (hc : Orderly c) (moves : List (Move ε)) :
    Orderly (c.run moves) := by
  induction moves generalizing c with
  | nil => exact hc
  | cons m moves ih => exact ih (hc.step m)

end Crowd

end StrictTransport.Store
