import Mathlib.Algebra.GroupWithZero.Nat
import StrictTransport.Proofs.Store.Flights

namespace StrictTransport.Store

variable {ε : Type}

-- The sections that lie before a caller at most.
def Stage.left : Stage ε → Nat
  | .arriving => 5
  | .passing => 1
  | .fetching _ _ _ => 4
  | .settling _ _ _ _ => 3
  | .leaving _ _ _ => 2
  | .signalling _ _ => 1
  | .waiting _ => 1
  | .done _ => 0

namespace Crowd

theorem signals_step {c : Crowd ε} (hc : Orderly c) (m : Move ε) {flight : Nat}
    {outcome : Outcome ε} (h : c.board.signals.lookup flight = some outcome) :
    (c.step m).board.signals.lookup flight = some outcome := by
  rcases c.step_cases m with ⟨-, heq⟩ | ⟨who, b, stage, hwho, hgoes, heq⟩
  · rwa [heq]
  · rw [heq]
    cases hgoes with
    | @signals other _ hstage =>
        have howing : c.Owes m.caller other := by rw [owes_iff hwho, hstage]; rfl
        have hne : flight ≠ other := by
          rintro rfl
          rw [(hc.pending _ flight howing).2] at h
          cases h
        exact (lookup_cons_of_ne hne _ _).trans h
    | _ => exact h

theorem done_step {c : Crowd ε} (m : Move ε) {i : Nat} {outcome : Outcome ε}
    (h : c.stage? i = some (.done outcome)) : (c.step m).stage? i = some (.done outcome) := by
  by_cases hi : i = m.caller
  · subst hi
    obtain ⟨who, hwho, hstage⟩ := Option.map_eq_some_iff.mp h
    rw [stage?_step_self, hwho, Option.map_some, (who.step_done _ _ _ hstage).2, hstage]
  · rwa [stage?_step_of_ne c m hi]

-- A caller that leads a flight or has led it. When it is done, its outcome is what it signalled.
def Flown (c : Crowd ε) (i flight : Nat) : Prop :=
  c.Owes i flight ∨ ∃ outcome, c.stage? i = some (.done outcome) ∧
    c.board.signals.lookup flight = some outcome

-- A caller that waits for a flight or has waited for it. When it is done, it has what was
-- signalled.
def Joined (c : Crowd ε) (j flight : Nat) : Prop :=
  c.stage? j = some (.waiting flight) ∨ ∃ outcome, c.stage? j = some (.done outcome) ∧
    c.board.signals.lookup flight = some outcome

theorem Flown.step {c : Crowd ε} (hc : Orderly c) (m : Move ε) {i flight : Nat}
    (h : c.Flown i flight) : (c.step m).Flown i flight := by
  rcases h with howes | ⟨outcome, hdone, hsignal⟩
  · by_cases hi : i = m.caller
    · subst hi
      rcases c.step_cases m with ⟨-, heq⟩ | ⟨who, b, stage, hwho, hgoes, heq⟩
      · rw [heq]
        exact .inl howes
      · have howed := (owes_iff hwho flight).mp howes
        rw [heq]
        cases hgoes with
        | quiet _ hsame _ =>
            rw [← hsame] at howed
            exact .inl ((owes_set_self hwho _ _ flight).mpr howed)
        | starts _ _ _ hnone _ _ =>
            rw [hnone] at howed
            cases howed
        | lands hstage =>
            rw [hstage] at howed
            exact .inl ((owes_set_self hwho _ _ flight).mpr howed)
        | @signals _ outcome hstage =>
            rw [hstage] at howed
            cases howed
            refine .inr ⟨outcome, ?_, ?_⟩
            · rw [c.stage?_set _ hwho, if_pos rfl]
            · exact lookup_cons_of_eq flight outcome c.board.signals
    · rw [Flown, Owes, stage?_step_of_ne c m hi]
      exact .inl howes
  · exact .inr ⟨outcome, done_step m hdone, signals_step hc m hsignal⟩

theorem Joined.step {c : Crowd ε} (hc : Orderly c) (m : Move ε) {j flight : Nat}
    (h : c.Joined j flight) : (c.step m).Joined j flight := by
  rcases h with hwaits | ⟨outcome, hdone, hsignal⟩
  · by_cases hj : j = m.caller
    · subst hj
      obtain ⟨who, hwho, hstage⟩ := Option.map_eq_some_iff.mp hwaits
      have hnext := (who.step_waiting m.now m.result c.board hstage).2
      cases hsignal : c.board.signals.lookup flight with
      | none =>
          rw [hsignal] at hnext
          exact .inl (by rw [stage?_step_self, hwho, Option.map_some, hnext]; rfl)
      | some outcome =>
          rw [hsignal] at hnext
          refine .inr ⟨outcome, ?_, signals_step hc m hsignal⟩
          rw [stage?_step_self, hwho, Option.map_some, hnext]
          rfl
    · exact .inl (by rwa [stage?_step_of_ne c m hj])
  · exact .inr ⟨outcome, done_step m hdone, signals_step hc m hsignal⟩

end Crowd

end StrictTransport.Store
