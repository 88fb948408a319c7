import StrictTransport.Store.Flight

namespace StrictTransport.Store

variable {ε : Type}

-- The name and the flight that a caller leads, until it has taken the flight off the board.
def Stage.lead? : Stage ε → Option (String × Nat)
  | .fetching name flight _ => some (name, flight)
  | .settling name flight _ _ => some (name, flight)
  | .leaving name flight _ => some (name, flight)
  | _ => none

-- The flight that a caller has to signal. It still does after the flight is off the board.
def Stage.owed? : Stage ε → Option Nat
  | .fetching _ flight _ => some flight
  | .settling _ flight _ _ => some flight
  | .leaving _ flight _ => some flight
  | .signalling flight _ => some flight
  | _ => none

-- The normal form of the domain for which a caller comes.
def Caller.name? (who : Caller ε) : Option String :=
  (subject? who.record).map Prod.fst

-- What a section of a caller means to the flights: nothing, or that one of them starts, is taken
-- off the board, or is signalled.
inductive Goes (b : Board ε) (who : Caller ε) : Board ε → Stage ε → Prop where
  | quiet {store : Store} {stage : Stage ε} (hlead : stage.lead? = who.stage.lead?)
      (howed : stage.owed? = who.stage.owed?)
      (hjoin : ∀ flight, stage = .waiting flight → who.stage = .waiting flight ∨
        ∃ name, who.name? = some name ∧ b.flights.lookup name = some flight) :
      Goes b who { b with store } stage
  | starts {name : String} {stage : Stage ε} (hname : who.name? = some name)
      (hfree : b.flights.lookup name = none) (hlead : who.stage.lead? = none)
      (howed : who.stage.owed? = none) (hnow : stage.lead? = some (name, b.started))
      (hdue : stage.owed? = some b.started) :
      Goes b who
        { b with flights := (name, b.started) :: b.flights, started := b.started + 1 } stage
  | lands {name : String} {flight : Nat} {outcome : Outcome ε}
      (hstage : who.stage = .leaving name flight outcome) :
      Goes b who { b with flights := b.flights.filter fun f => f.1 != name }
        (.signalling flight outcome)
  | signals {flight : Nat} {outcome : Outcome ε} (hstage : who.stage = .signalling flight outcome) :
      Goes b who { b with signals := (flight, outcome) :: b.signals } (.done outcome)

theorem Caller.look_goes (now : Int) (b : Board ε) (who : Caller ε)
    (hstage : who.stage = .arriving) : Goes b who (who.look now b).1 (who.look now b).2 := by
  have hlead : who.stage.lead? = none := by rw [hstage]; rfl
  have howed : who.stage.owed? = none := by rw [hstage]; rfl
  unfold look
  cases hsubject : subject? who.record with
  | none => exact .quiet hlead.symm howed.symm nofun
  | some subject =>
      obtain ⟨name, token⟩ := subject
      have hname : who.name? = some name := by rw [name?, hsubject]; rfl
      cases hfresh : b.store.fresh? name token now with
      | some p =>
          simp only [hfresh]
          exact .quiet hlead.symm howed.symm nofun
      | none =>
          simp only [hfresh]
          cases hflight : b.flights.lookup name with
          | some flight =>
              refine .quiet hlead.symm howed.symm ?_
              rintro _ ⟨⟩
              exact .inr ⟨name, hname, hflight⟩
          | none => exact .starts hname hflight hlead howed rfl rfl

-- A caller keeps its record, and its stage and the board change as said.
theorem Caller.step_goes (now : Int) (result : Except ε (Option Policy)) (b : Board ε)
    (who : Caller ε) :
    (who.step now result b).2.1.record = who.record ∧
      Goes b who (who.step now result b).1 (who.step now result b).2.1.stage := by
  unfold step
  cases hstage : who.stage with
  | arriving => exact ⟨rfl, who.look_goes now b hstage⟩
  | passing => exact ⟨rfl, .quiet (by rw [hstage]; rfl) (by rw [hstage]; rfl) nofun⟩
  | fetching name flight previous =>
      exact ⟨rfl, .quiet (by rw [hstage]; rfl) (by rw [hstage]; rfl) nofun⟩
  | settling name flight previous result =>
      exact ⟨rfl, .quiet (by rw [hstage]; rfl) (by rw [hstage]; rfl) nofun⟩
  | leaving name flight outcome => exact ⟨rfl, .lands hstage⟩
  | signalling flight outcome => exact ⟨rfl, .signals hstage⟩
  | waiting flight =>
      cases hsignal : b.signals.lookup flight with
      | some outcome =>
          simp only [hsignal, true_and]
          exact .quiet (by rw [hstage]; rfl) (by rw [hstage]; rfl) nofun
      | none =>
          simp only [hsignal, true_and]
          exact .quiet rfl rfl fun _ h => .inl h
  | done outcome => exact ⟨rfl, .quiet rfl rfl fun _ h => .inl h⟩

theorem Caller.step_done (now : Int) (result : Except ε (Option Policy)) (b : Board ε)
    {who : Caller ε} {outcome : Outcome ε} (hstage : who.stage = .done outcome) :
    (who.step now result b).1 = b ∧ (who.step now result b).2.1 = who := by
  simp only [step, hstage, and_self]

theorem Caller.step_waiting (now : Int) (result : Except ε (Option Policy)) (b : Board ε)
    {who : Caller ε} {flight : Nat} (hstage : who.stage = .waiting flight) :
    (who.step now result b).1 = b ∧ (who.step now result b).2.1.stage =
      ((b.signals.lookup flight).map Stage.done).getD (.waiting flight) := by
  simp only [step, hstage]
  cases b.signals.lookup flight with
  | some outcome => exact ⟨rfl, rfl⟩
  | none => exact ⟨rfl, hstage⟩

-- Callers at one board.
structure Crowd (ε : Type) where
  board : Board ε
  callers : List (Caller ε)

-- Which caller goes through its next section, when, and what its fetch gives if that is a fetch.
structure Move (ε : Type) where
  caller : Nat
  now : Int
  result : Except ε (Option Policy)

namespace Crowd

-- Callers that have yet to arrive, each with a record.
def start (s : Store) (records : List (Option Record)) : Crowd ε :=
  ⟨.ofStore s, records.map fun record => ⟨record, .arriving⟩⟩

def step (c : Crowd ε) (m : Move ε) : Crowd ε :=
  match c.callers[m.caller]? with
  | none => c
  | some who =>
    let (board, who, _) := who.step m.now m.result c.board
    ⟨board, c.callers.set m.caller who⟩

def run (c : Crowd ε) (moves : List (Move ε)) : Crowd ε :=
  moves.foldl step c

def stage? (c : Crowd ε) (i : Nat) : Option (Stage ε) :=
  c.callers[i]?.map Caller.stage

def name? (c : Crowd ε) (i : Nat) : Option String :=
  c.callers[i]?.bind Caller.name?

def Leads (c : Crowd ε) (i : Nat) (name : String) (flight : Nat) : Prop :=
  (c.stage? i).bind Stage.lead? = some (name, flight)

def Owes (c : Crowd ε) (i : Nat) (flight : Nat) : Prop :=
  (c.stage? i).bind Stage.owed? = some flight

theorem stage?_of_callers {c : Crowd ε} {i : Nat} {who : Caller ε}
    (hwho : c.callers[i]? = some who) : c.stage? i = some who.stage := by
  rw [stage?, hwho, Option.map_some]

-- A move leaves everything as it was, or takes one caller through a section.
theorem step_cases (c : Crowd ε) (m : Move ε) :
    c.callers[m.caller]? = none ∧ c.step m = c ∨
      ∃ who b stage, c.callers[m.caller]? = some who ∧ Goes c.board who b stage ∧
        c.step m = ⟨b, c.callers.set m.caller ⟨who.record, stage⟩⟩ := by
  cases hwho : c.callers[m.caller]? with
  | none => exact .inl ⟨rfl, by rw [step, hwho]⟩
  | some who =>
      obtain ⟨hrecord, hgoes⟩ := who.step_goes m.now m.result c.board
      refine .inr ⟨who, _, _, rfl, hgoes, ?_⟩
      rw [step, hwho, ← hrecord]

theorem stage?_set (c : Crowd ε) (b : Board ε) {i : Nat} {who : Caller ε}
    (hwho : c.callers[i]? = some who) (who' : Caller ε) (k : Nat) :
    stage? ⟨b, c.callers.set i who'⟩ k = if k = i then some who'.stage else c.stage? k := by
  have hlt : i < c.callers.length := (List.getElem?_eq_some_iff.mp hwho).1
  unfold stage?
  by_cases hk : k = i
  · subst hk
    rw [List.getElem?_set_self hlt, if_pos rfl, Option.map_some]
  · rw [List.getElem?_set_ne (Ne.symm hk), if_neg hk]

theorem name?_set (c : Crowd ε) (b : Board ε) {i : Nat} {who : Caller ε}
    (hwho : c.callers[i]? = some who) (stage : Stage ε) (k : Nat) :
    name? ⟨b, c.callers.set i ⟨who.record, stage⟩⟩ k = c.name? k := by
  have hlt : i < c.callers.length := (List.getElem?_eq_some_iff.mp hwho).1
  unfold name?
  by_cases hk : k = i
  · subst hk
    rw [List.getElem?_set_self hlt, hwho]
    rfl
  · rw [List.getElem?_set_ne (Ne.symm hk)]

theorem stage?_step_self (c : Crowd ε) (m : Move ε) :
    (c.step m).stage? m.caller =
      c.callers[m.caller]?.map fun who => (who.step m.now m.result c.board).2.1.stage := by
  unfold step
  cases hwho : c.callers[m.caller]? with
  | none => rw [stage?, hwho]; rfl
  | some who => rw [c.stage?_set _ hwho, if_pos rfl]; rfl

-- Only the caller that moves changes its stage.
theorem stage?_step_of_ne (c : Crowd ε) (m : Move ε) {k : Nat} (hk : k ≠ m.caller) :
    (c.step m).stage? k = c.stage? k := by
  rcases c.step_cases m with ⟨-, heq⟩ | ⟨who, b, stage, hwho, -, heq⟩
  · rw [heq]
  · rw [heq, c.stage?_set b hwho, if_neg hk]

end Crowd

end StrictTransport.Store
