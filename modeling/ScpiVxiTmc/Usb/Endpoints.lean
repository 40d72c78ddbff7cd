import ScpiVxiTmc.Lib.History
import ScpiVxiTmc.Lib.Ledger

set_option autoImplicit false

/- The endpoint descriptors over the lives of the sink thread, one for each time
that `start_io` creates it and `stop_io` or the thread itself ends it. -/
namespace ScpiVxiTmc

/-- The errno of a call that failed. -/
structure Errno where
  value : Int
  positive : 0 < value

/-- How `ep_config` goes: the open fails, the descriptors written to the endpoint
are refused, or it is configured. A thread cancelled in it gets no descriptor. -/
inductive EpOutcome
  | openFails (errno : Errno)
  | configFails (fd : Nat) (errno : Errno)
  | configured (fd : Nat)
  | cancelled

/-- How the sink thread ends once it has both endpoints: it is cancelled in the
print in front of the push of its cleanup handler, or its loop ends. -/
inductive LoopEnd
  | cancelledEarly
  | cancelled
  | readZero
  | readFailed

structure SinkLife where
  sink : EpOutcome
  source : EpOutcome
  ended : LoopEnd

/-- The globals `sink_fd` and `source_fd`. -/
structure EpFiles where
  sinkFd : Int
  sourceFd : Int
  deriving DecidableEq

/-- As they are initialised -/
def EpFiles.none : EpFiles := ⟨-1, -1⟩

/-- `ep_config`: its result and the descriptors it opened and closed. -/
def epConfig : EpOutcome → Option (Int × List (Ledger.Entry Int))
  | .openFails errno => some (-errno.value, [])
  | .configFails fd errno => some (-errno.value, [.opened fd, .closed fd])
  | .configured fd => some (fd, [.opened fd])
  | .cancelled => Option.none

/-- `close_fd` in a bulk thread: the new value of the variable, after the FIFO
ioctls and the close. -/
def closeFd (fd : Int) : Int × List (Ledger.Entry Int) := (-1, [.used fd, .closed fd])

/-- `simple_sink_thread`, all but the loop. The cleanup handler is pushed when
both endpoints are open, and is for one of them. -/
def simpleSinkThread (files : EpFiles) (life : SinkLife) : List (Ledger.Entry Int) × EpFiles :=
  match epConfig life.sink with
  | none => ([], files)
  | some sink =>
      if sink.1 < 0 then (sink.2, files)
      else
        let withSink := { files with sinkFd := sink.1 }
        match epConfig life.source with
        | none => (sink.2, withSink)
        | some source =>
            if source.1 < 0 then (sink.2 ++ source.2, withSink)
            else
              let withBoth := { withSink with sourceFd := source.1 }
              match life.ended with
              | .cancelledEarly => (sink.2 ++ source.2, withBoth)
              | .cancelled | .readZero | .readFailed =>
                  let closed := closeFd withBoth.sinkFd
                  (sink.2 ++ source.2 ++ closed.2, { withBoth with sinkFd := closed.1 })

/-- One cycle of starting and stopping. -/
def sinkCycle (files : EpFiles) (life : SinkLife) :
    Option (List (Ledger.Entry Int) × EpFiles) := some (simpleSinkThread files life)

/-- When the thread has terminated, everything opened so far is closed and both
variables say so. -/
def BalancedAfter (_before : List SinkLife) (outputs : List (List (Ledger.Entry Int)))
    (_files : EpFiles) (_life : SinkLife)
    (result : Option (List (Ledger.Entry Int) × EpFiles)) : Prop :=
  ∃ trace after, result = some (trace, after) ∧
    Ledger.live [] (outputs ++ [trace]).flatten = [] ∧ after = .none

/-- The thread does not get as far as a descriptor for the sink endpoint. -/
def SinkUnopened (life : SinkLife) : Prop := ∀ fd, life.sink ≠ .configured fd

theorem Errno.neg_lt_zero (errno : Errno) : -errno.value < 0 := by
  have positive := errno.positive
  omega

theorem simpleSinkThread_unopened (files : EpFiles) {life : SinkLife}
    (unopened : SinkUnopened life) :
    (simpleSinkThread files life).2 = files ∧
      Ledger.live [] (simpleSinkThread files life).1 = [] := by
  unfold simpleSinkThread
  cases opens : life.sink with
  | openFails errno =>
      simp only [epConfig, errno.neg_lt_zero, ↓reduceIte]
      exact ⟨trivial, rfl⟩
  | configFails fd errno =>
      simp only [epConfig, errno.neg_lt_zero, ↓reduceIte]
      refine ⟨trivial, ?_⟩
      simp [Ledger.live, Ledger.hold]
  | configured fd => exact absurd opens (unopened fd)
  | cancelled => exact ⟨rfl, rfl⟩

/-- Once the sink endpoint is open, one of the variables keeps a descriptor,
whatever happens then: `sink_fd` if the source endpoint cannot be opened, and
`source_fd` if it can. -/
theorem simpleSinkThread_opened (files : EpFiles) {life : SinkLife} {fd : Nat}
    (opens : life.sink = .configured fd) : (simpleSinkThread files life).2 ≠ .none := by
  have descriptor (number : Nat) : ¬ (number : Int) < 0 ∧ (number : Int) ≠ -1 := by omega
  simp only [simpleSinkThread, opens, epConfig, descriptor fd, ↓reduceIte]
  cases life.source with
  | openFails errno =>
      simp only [errno.neg_lt_zero, ↓reduceIte, EpFiles.none, ne_eq, EpFiles.mk.injEq,
        descriptor fd, false_and, not_false_eq_true]
  | configFails other errno =>
      simp only [errno.neg_lt_zero, ↓reduceIte, EpFiles.none, ne_eq, EpFiles.mk.injEq,
        descriptor fd, false_and, not_false_eq_true]
  | configured other =>
      simp only [descriptor other, ↓reduceIte]
      cases life.ended with
      | cancelledEarly | cancelled | readZero | readFailed =>
          simp only [EpFiles.none, ne_eq, EpFiles.mk.injEq, descriptor other, and_false,
            not_false_eq_true]
  | cancelled =>
      simp only [EpFiles.none, ne_eq, EpFiles.mk.injEq, descriptor fd, false_and,
        not_false_eq_true]

theorem unopened_balanced {outputs : List (List (Ledger.Entry Int))} {life : SinkLife}
    (closed : Ledger.live [] outputs.flatten = []) (unopened : SinkUnopened life) :
    Ledger.live [] (outputs ++ [(simpleSinkThread .none life).1]).flatten = [] ∧
      (simpleSinkThread .none life).2 = .none := by
  obtain ⟨kept, balanced⟩ := simpleSinkThread_unopened .none unopened
  refine ⟨?_, kept⟩
  rw [List.flatten_concat, Ledger.live_append, closed, balanced]

/-- Descriptors are balanced over exactly those lives that never have one. -/
theorem descriptors_balanced_iff (lives : List SinkLife) :
    Machine.Throughout sinkCycle BalancedAfter .none lives ↔ ∀ life ∈ lives, SinkUnopened life := by
  rw [← Machine.guarded_iff_forall]
  apply Machine.throughout_iff
    (J := fun _ outputs files => Ledger.live [] outputs.flatten = [] ∧ files = .none)
  · exact ⟨rfl, rfl⟩
  · rintro before outputs files life ⟨closed, rfl⟩
    apply Machine.returns_iff.trans
    constructor
    · intro balanced fd opens
      exact simpleSinkThread_opened _ opens balanced.2
    · intro unopened
      exact unopened_balanced closed unopened
  · rintro before outputs files life ⟨closed, rfl⟩ unopened
    exact ⟨_, _, rfl, unopened_balanced closed unopened⟩

/-- Both endpoints are opened and the host disconnects. -/
def normalLife : SinkLife := ⟨.configured 5, .configured 6, .readZero⟩

theorem normalLife_leaks :
    Ledger.live [] (simpleSinkThread .none normalLife).1 = [6] ∧
      ¬ Machine.Throughout sinkCycle BalancedAfter .none [normalLife] := by
  refine ⟨by decide, ?_⟩
  intro through
  have balanced := Machine.returns_iff.mp
    (through [] normalLife (List.prefix_refl _) [] .none rfl)
  exact absurd balanced.2 (by decide)

end ScpiVxiTmc
