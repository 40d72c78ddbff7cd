import ScpiVxiTmc.Lib.Machine

set_option autoImplicit false

/- One party's steps among the calls of others. If each of its steps may as well
come before a call that precedes it, all of them may come first, as if they were
one. -/
namespace Machine

variable {σ κ ω ο : Type}

/-- Who moves next: the one party, or another with a call. -/
inductive Turn (κ : Type)
  | own
  | other (call : κ)

def Turn.other? : Turn κ → Option κ
  | .own => none
  | .other call => some call

/-- The party and the others on one state. -/
def turnStep (own : σ → Option (ω × σ)) (other : σ → κ → Option (ο × σ)) (state : σ) :
    Turn κ → Option ((ω ⊕ ο) × σ)
  | .own => (own state).map fun done => (.inl done.1, done.2)
  | .other call => (other state call).map fun done => (.inr done.1, done.2)

/-- Steps of the party alone: `count` of them. -/
def alone (own : σ → Option (ω × σ)) (state : σ) (count : Nat) : Option (List ω × σ) :=
  exec (fun state (_ : Unit) => own state) state (List.replicate count ())

/-- While `J` holds and others make the calls of `G` only, a step of the party may
move in front of a call. -/
structure LeftMover (own : σ → Option (ω × σ)) (other : σ → κ → Option (ο × σ)) (J : σ → Prop)
    (G : σ → κ → Prop) : Prop where
  ownKeeps : ∀ state output after, J state → own state = some (output, after) → J after
  otherKeeps : ∀ state call output after, J state → G state call →
    other state call = some (output, after) → J after
  guarded : ∀ state call output after, J state → G state call →
    own state = some (output, after) → G after call
  swaps : ∀ state call reply middle output after, J state → G state call →
    other state call = some (reply, middle) → own middle = some (output, after) →
    ∃ early, own state = some (output, early) ∧ other early call = some (reply, after)

/-- What the party may make of its turns: nothing is asked of its own. -/
def Allowed (G : σ → κ → Prop) (state : σ) : Turn κ → Prop
  | .own => True
  | .other call => G state call

variable {own : σ → Option (ω × σ)} {other : σ → κ → Option (ο × σ)} {J : σ → Prop}
  {G : σ → κ → Prop}

theorem alone_succ_eq_some {state last : σ} {count : Nat} {outputs : List ω} :
    alone own state (count + 1) = some (outputs, last) ↔
      ∃ output after later, own state = some (output, after) ∧
        alone own after count = some (later, last) ∧ outputs = output :: later := by
  rw [alone, List.replicate_succ]
  exact exec_cons_eq_some

/-- Any number of steps may move in front of a call. -/
theorem LeftMover.alone_swaps (mover : LeftMover own other J G) {state middle last : σ}
    {call : κ} {reply : ο} {count : Nat} {outputs : List ω} (holds : J state)
    (allowed : G state call) (called : other state call = some (reply, middle))
    (moved : alone own middle count = some (outputs, last)) :
    ∃ early, alone own state count = some (outputs, early) ∧
      other early call = some (reply, last) := by
  induction count generalizing state middle outputs with
  | zero =>
      obtain ⟨rfl, rfl⟩ := exec_nil_eq_some.mp moved
      exact ⟨state, rfl, called⟩
  | succ count ih =>
      obtain ⟨output, after, later, first, rest, rfl⟩ := alone_succ_eq_some.mp moved
      obtain ⟨early, firstEarly, calledLater⟩ :=
        mover.swaps state call reply middle output after holds allowed called first
      obtain ⟨last', restEarly, calledLast⟩ :=
        ih (mover.ownKeeps _ _ _ holds firstEarly) (mover.guarded _ _ _ _ holds allowed firstEarly)
          calledLater rest
      exact ⟨last', alone_succ_eq_some.mpr ⟨output, early, later, firstEarly, restEarly, rfl⟩,
        calledLast⟩

/-- A run of all parties is one in which the party makes all its steps first, and
everyone gets the same answers. -/
theorem LeftMover.exec_own_first (mover : LeftMover own other J G) {state last : σ}
    {turns : List (Turn κ)} {outputs : List (ω ⊕ ο)} (holds : J state)
    (along : Along (turnStep own other) (Allowed G) state turns)
    (moved : exec (turnStep own other) state turns = some (outputs, last)) :
    ∃ count middle, alone own state count = some (outputs.filterMap Sum.getLeft?, middle) ∧
      exec other middle (turns.filterMap Turn.other?) =
        some (outputs.filterMap Sum.getRight?, last) := by
  induction turns generalizing state outputs with
  | nil =>
      obtain ⟨rfl, rfl⟩ := exec_nil_eq_some.mp moved
      exact ⟨0, state, rfl, rfl⟩
  | cons turn rest ih =>
      obtain ⟨output, after, later, first, remaining, rfl⟩ := exec_cons_eq_some.mp moved
      obtain ⟨allowed, alongRest⟩ := (along_cons first).mp along
      cases turn with
      | own =>
          obtain ⟨done, stepped, same⟩ := Option.map_eq_some_iff.mp first
          obtain ⟨rfl, rfl⟩ := Prod.mk.inj same
          obtain ⟨count, middle, mine, others⟩ :=
            ih (mover.ownKeeps _ _ _ holds stepped) alongRest remaining
          exact ⟨count + 1, middle,
            alone_succ_eq_some.mpr ⟨done.1, done.2, _, stepped, mine, rfl⟩, others⟩
      | other call =>
          obtain ⟨done, called, same⟩ := Option.map_eq_some_iff.mp first
          obtain ⟨rfl, rfl⟩ := Prod.mk.inj same
          obtain ⟨count, middle, mine, others⟩ :=
            ih (mover.otherKeeps _ _ _ _ holds allowed called) alongRest remaining
          obtain ⟨early, mineEarly, calledLast⟩ := mover.alone_swaps holds allowed called mine
          exact ⟨count, early, mineEarly,
            exec_cons_eq_some.mpr ⟨done.1, middle, _, calledLast, others, rfl⟩⟩

end Machine
