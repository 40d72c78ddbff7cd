import ScpiVxiTmc.Lib.Ledger

set_option autoImplicit false

/- The two bulk threads and the calls made to start and to stop them. In a trace
`pthread_create` opens a thread, `pthread_cancel` uses it and `pthread_join`
closes it. -/
namespace ScpiVxiTmc

/-- The globals `ep0`, `source` and `sink`. In the other two the id of the
control thread says that there is no thread. -/
structure IoThreads (τ : Type) where
  ep0 : τ
  source : τ
  sink : τ

/-- What the two calls of `pthread_create` in `start_io` bring: an id, or none
when they fail. The second is made only if the first succeeds. -/
structure Creates (τ : Type) where
  source : Option τ
  sink : Option τ

namespace Creates

def Succeed {τ : Type} (creates : Creates τ) : Prop :=
  creates.source.isSome ∧ creates.sink.isSome

end Creates

/-- What an event from the host means for the bulk threads. -/
inductive IoAction (τ : Type)
  | start (creates : Creates τ)
  | stop
  | keep

namespace IoAction

def CreatesSucceed {τ : Type} : IoAction τ → Prop
  | .start creates => creates.Succeed
  | .stop => True
  | .keep => True

def IsStart {τ : Type} : IoAction τ → Prop
  | .start _ => True
  | .stop => False
  | .keep => False

def IsStop {τ : Type} : IoAction τ → Prop
  | .start _ => False
  | .stop => True
  | .keep => False

/-- Whether the device is configured after an action. -/
def configuredAfter {τ : Type} (configured : Bool) : IoAction τ → Bool
  | .start _ => true
  | .stop => false
  | .keep => configured

/-- Whether the device is configured after some actions. -/
def configured {τ : Type} (actions : List (IoAction τ)) : Bool :=
  actions.foldl configuredAfter false

theorem configured_concat {τ : Type} (actions : List (IoAction τ)) (action : IoAction τ) :
    configured (actions ++ [action]) = action.configuredAfter (configured actions) := by
  simp only [configured, List.foldl_append, List.foldl_cons, List.foldl_nil]

/-- No configuration is set while one is. -/
def StartsIdle {τ : Type} (before : List (IoAction τ)) (action : IoAction τ) : Prop :=
  action.IsStart → configured before = false

end IoAction

/-- At the start of `ep0_thread` -/
def IoThreads.ofEp0 {τ : Type} (ep0 : τ) : IoThreads τ := ⟨ep0, ep0, ep0⟩

/-- `start_io`. A failed call leaves its handle as it was, and no handle is
looked at before it is overwritten. -/
def startIo {τ : Type} (io : IoThreads τ) (creates : Creates τ) :
    List (Ledger.Entry τ) × IoThreads τ :=
  match creates.source with
  | none => ([], io)
  | some source =>
      match creates.sink with
      | none => ([.opened source, .used source], { io with source := io.ep0 })
      | some sink =>
          ([.opened source, .opened sink], { io with source := source, sink := sink })

variable {τ : Type}

/-- Each handle is the control thread's id or a thread that was created and not
joined, and no thread stands in both. -/
structure IoThreads.Joinable (io : IoThreads τ) (held : List τ) : Prop where
  source : io.source = io.ep0 ∨ io.source ∈ held
  sink : io.sink = io.ep0 ∨ io.sink ∈ held
  apart : io.source ≠ io.sink ∨ io.source = io.ep0 ∧ io.sink = io.ep0

/-- The threads that exist are those of the handles: both after a start, none
after a stop. -/
def IoThreads.Records (io : IoThreads τ) (held : List τ) : Bool → Prop
  | false => held = [] ∧ io.source = io.ep0 ∧ io.sink = io.ep0
  | true => held = [io.source, io.sink] ∧ io.source ≠ io.ep0 ∧ io.sink ≠ io.ep0 ∧
      io.source ≠ io.sink

theorem startIo_ep0 (io : IoThreads τ) (creates : Creates τ) :
    (startIo io creates).2.ep0 = io.ep0 := by
  unfold startIo
  split
  · rfl
  · split <;> rfl

theorem ofEp0_joinable (ep0 : τ) (held : List τ) : (IoThreads.ofEp0 ep0).Joinable held :=
  ⟨Or.inl rfl, Or.inl rfl, Or.inr ⟨rfl, rfl⟩⟩

theorem ofEp0_records (ep0 : τ) : (IoThreads.ofEp0 ep0).Records [] false := ⟨rfl, rfl, rfl⟩

/-- More threads do not harm a handle. -/
theorem IoThreads.Joinable.mono {io : IoThreads τ} {held more : List τ}
    (joinable : io.Joinable held) (grows : held ⊆ more) : io.Joinable more :=
  ⟨joinable.source.imp_right (grows ·), joinable.sink.imp_right (grows ·), joinable.apart⟩

/-- Every thread that exists is recorded, and none is left after a stop. -/
structure IoThreads.Accounts (io : IoThreads τ) (held : List τ) (stopped : Prop) : Prop where
  recorded : ∀ thread ∈ held, thread = io.source ∨ thread = io.sink
  few : held.length ≤ 2
  none : stopped → held = []

theorem IoThreads.Records.accounts {io : IoThreads τ} {held : List τ} {configured : Bool}
    {stopped : Prop} (records : io.Records held configured)
    (idle : stopped → configured = false) : io.Accounts held stopped := by
  cases configured with
  | false =>
      obtain ⟨rfl, _, _⟩ := records
      exact ⟨by simp, Nat.zero_le 2, fun _ => rfl⟩
  | true =>
      obtain ⟨rfl, _, _, _⟩ := records
      exact ⟨by simp, Nat.le_refl 2, fun now => absurd (idle now) (by decide)⟩

variable [DecidableEq τ]

/-- One of the two halves of `stop_io`. -/
def stopThread (ep0 thread : τ) : List (Ledger.Entry τ) :=
  if thread = ep0 then [] else [.used thread, .closed thread]

/-- `stop_io` -/
def stopIo (io : IoThreads τ) : List (Ledger.Entry τ) × IoThreads τ :=
  (stopThread io.ep0 io.source ++ stopThread io.ep0 io.sink,
    { io with source := io.ep0, sink := io.ep0 })

def IoThreads.perform (io : IoThreads τ) : IoAction τ → List (Ledger.Entry τ) × IoThreads τ
  | .start creates => startIo io creates
  | .stop => stopIo io
  | .keep => ([], io)

/-- A start cancels at most the thread it has just created, and leaves handles
that can be joined, whichever of its two calls fail and over whatever threads. -/
theorem startIo_joinable {io : IoThreads τ} {creates : Creates τ} {held : List τ}
    (joinable : io.Joinable held)
    (fresh : Ledger.Fresh io.ep0 held (startIo io creates).1) :
    Ledger.Safe held (startIo io creates).1 ∧
      (startIo io creates).2.Joinable (Ledger.live held (startIo io creates).1) := by
  cases first : creates.source with
  | none =>
      simp only [startIo, first]
      exact ⟨trivial, joinable⟩
  | some source =>
      have more : held ⊆ held ++ [source] := List.subset_append_left held [source]
      have new : source ∈ held ++ [source] := List.mem_concat_self
      cases second : creates.sink with
      | none =>
          simp only [startIo, first, second]
          refine ⟨⟨trivial, new, trivial⟩, ⟨Or.inl rfl, (joinable.mono more).sink, ?_⟩⟩
          by_cases none : io.sink = io.ep0
          · exact Or.inr ⟨rfl, none⟩
          · exact Or.inl (Ne.symm none)
      | some sink =>
          simp only [startIo, first, second] at fresh ⊢
          obtain ⟨_, ⟨sinkNew, _⟩, _⟩ := fresh
          have both : held ++ [source] ⊆ held ++ [source] ++ [sink] :=
            List.subset_append_left _ [sink]
          refine ⟨⟨trivial, trivial, trivial⟩, ⟨Or.inr (both new), Or.inr List.mem_concat_self, ?_⟩⟩
          apply Or.inl
          intro (same : source = sink)
          exact sinkNew (same ▸ new)

/-- A thread is cancelled and joined while it still is to be joined. -/
theorem stopThread_safe {ep0 thread : τ} {held : List τ} (known : thread = ep0 ∨ thread ∈ held) :
    Ledger.Safe held (stopThread ep0 thread) := by
  unfold stopThread
  split
  · trivial
  · rename_i other
    have member := known.resolve_left other
    exact ⟨member, member, trivial⟩

theorem mem_live_stopThread {ep0 thread other : τ} {held : List τ} :
    other ∈ Ledger.live held (stopThread ep0 thread) ↔
      other ∈ held ∧ (thread = ep0 ∨ other ≠ thread) := by
  unfold stopThread
  by_cases none : thread = ep0
  · simp [none]
  · simp [none, Ledger.hold]

theorem stopIo_safe {io : IoThreads τ} {held : List τ} (joinable : io.Joinable held) :
    Ledger.Safe held (stopIo io).1 := by
  apply (Ledger.along_append _ _ _ _).mpr
  refine ⟨stopThread_safe joinable.source, stopThread_safe ?_⟩
  rcases joinable.sink with none | member
  · exact Or.inl none
  · rcases joinable.apart with apart | neither
    · exact Or.inr (mem_live_stopThread.mpr ⟨member, Or.inr (Ne.symm apart)⟩)
    · exact Or.inl neither.2

/-- Over no thread a start that succeeds leaves exactly its two. -/
theorem startIo_records {io : IoThreads τ} {creates : Creates τ} {held : List τ}
    (records : io.Records held false) (succeed : creates.Succeed)
    (fresh : Ledger.Fresh io.ep0 held (startIo io creates).1) :
    (startIo io creates).2.Records (Ledger.live held (startIo io creates).1) true := by
  obtain ⟨rfl, _, _⟩ := records
  obtain ⟨source, created⟩ := Option.isSome_iff_exists.mp succeed.1
  obtain ⟨sink, createdToo⟩ := Option.isSome_iff_exists.mp succeed.2
  simp only [startIo, created, createdToo] at fresh ⊢
  obtain ⟨⟨_, sourceNew⟩, ⟨sinkFresh, sinkNew⟩, _⟩ := fresh
  refine ⟨rfl, sourceNew, sinkNew, ?_⟩
  intro (same : source = sink)
  exact sinkFresh (same ▸ List.mem_concat_self)

/-- Over its own threads a start that succeeds loses both. -/
theorem startIo_loses {io : IoThreads τ} {creates : Creates τ} {held : List τ}
    (records : io.Records held true) (succeed : creates.Succeed)
    (fresh : Ledger.Fresh io.ep0 held (startIo io creates).1) :
    io.source ∈ Ledger.live held (startIo io creates).1 ∧
      io.source ≠ (startIo io creates).2.source ∧ io.source ≠ (startIo io creates).2.sink := by
  obtain ⟨rfl, _, _, _⟩ := records
  obtain ⟨source, created⟩ := Option.isSome_iff_exists.mp succeed.1
  obtain ⟨sink, createdToo⟩ := Option.isSome_iff_exists.mp succeed.2
  simp only [startIo, created, createdToo] at fresh ⊢
  obtain ⟨⟨sourceFresh, _⟩, ⟨sinkFresh, _⟩, _⟩ := fresh
  refine ⟨List.mem_cons_self, ?_, ?_⟩
  · rintro rfl
    exact sourceFresh List.mem_cons_self
  · rintro rfl
    exact sinkFresh List.mem_cons_self

/-- A stop joins whatever is recorded. -/
theorem stopIo_records {io : IoThreads τ} {held : List τ} {configured : Bool}
    (records : io.Records held configured) :
    (stopIo io).2.Records (Ledger.live held (stopIo io).1) false := by
  cases configured with
  | false =>
      obtain ⟨rfl, none, noneToo⟩ := records
      simp only [stopIo, stopThread, none, noneToo, ↓reduceIte, List.append_nil]
      exact ⟨rfl, rfl, rfl⟩
  | true =>
      obtain ⟨rfl, source, sink, apart⟩ := records
      refine ⟨?_, rfl, rfl⟩
      simp [stopIo, stopThread, source, sink, Ledger.live, Ledger.hold]

theorem perform_ep0 (io : IoThreads τ) (action : IoAction τ) :
    (io.perform action).2.ep0 = io.ep0 := by
  cases action with
  | start creates => exact startIo_ep0 io creates
  | stop => rfl
  | keep => rfl

theorem perform_joinable {io : IoThreads τ} {action : IoAction τ} {held : List τ}
    (joinable : io.Joinable held)
    (fresh : Ledger.Fresh io.ep0 held (io.perform action).1) :
    Ledger.Safe held (io.perform action).1 ∧
      (io.perform action).2.Joinable (Ledger.live held (io.perform action).1) := by
  cases action with
  | start creates => exact startIo_joinable joinable fresh
  | stop => exact ⟨stopIo_safe joinable, ofEp0_joinable io.ep0 _⟩
  | keep => exact ⟨trivial, joinable⟩

/-- Only a start of a configured device breaks the records. -/
theorem perform_records {io : IoThreads τ} {action : IoAction τ} {held : List τ}
    {configured : Bool} (records : io.Records held configured)
    (succeed : action.CreatesSucceed)
    (fresh : Ledger.Fresh io.ep0 held (io.perform action).1)
    (guard : action.IsStart → configured = false) :
    (io.perform action).2.Records (Ledger.live held (io.perform action).1)
      (action.configuredAfter configured) := by
  cases action with
  | start creates => exact startIo_records (guard trivial ▸ records) succeed fresh
  | stop => exact stopIo_records records
  | keep => exact records

theorem perform_accounts_iff {io : IoThreads τ} {action : IoAction τ} {held : List τ}
    {configured : Bool} (records : io.Records held configured)
    (succeed : action.CreatesSucceed)
    (fresh : Ledger.Fresh io.ep0 held (io.perform action).1) :
    (io.perform action).2.Accounts (Ledger.live held (io.perform action).1) action.IsStop ↔
      (action.IsStart → configured = false) := by
  constructor
  · intro accounts isStart
    cases action with
    | stop => cases isStart
    | keep => cases isStart
    | start creates =>
        cases configured with
        | false => rfl
        | true =>
            obtain ⟨alive, notSource, notSink⟩ := startIo_loses records succeed fresh
            cases accounts.recorded io.source alive with
            | inl same => exact absurd same notSource
            | inr same => exact absurd same notSink
  · intro guard
    apply (perform_records records succeed fresh guard).accounts
    intro isStop
    cases action with
    | start creates => cases isStop
    | stop => rfl
    | keep => cases isStop

/-- A source thread that was started is there until the next stop. -/
theorem perform_source_live {io : IoThreads τ} {action : IoAction τ} {held : List τ}
    {configured : Bool} (alive : configured = true → io.source ∈ held)
    (succeed : action.CreatesSucceed) (still : action.configuredAfter configured = true) :
    (io.perform action).2.source ∈ Ledger.live held (io.perform action).1 := by
  cases action with
  | start creates =>
      obtain ⟨source, created⟩ := Option.isSome_iff_exists.mp succeed.1
      obtain ⟨sink, createdToo⟩ := Option.isSome_iff_exists.mp succeed.2
      simp only [IoThreads.perform, startIo, created, createdToo]
      exact List.mem_append_left [sink] List.mem_concat_self
  | stop => cases still
  | keep => exact alive still

end ScpiVxiTmc
