import ScpiVxiTmc.Process

set_option autoImplicit false

/- What holds of the adapter in every run of the process, whatever the hosts send and
wherever their threads are cut off. -/
namespace ScpiVxiTmc

open Machine

/-- A call of the adapter, or a command that is cut off before it is announced. -/
inductive AdapterUse
  | call (call : AdapterCall)
  | cutWrite (buf : List UInt8)

def Adapter.unannounced (a : Adapter) (buf : List UInt8) : Adapter :=
  { a with gScpiMsg := (scpiMsgRxWrite a.gScpiMsg buf).2 }

def adapterUse (a : Adapter) : AdapterUse → Option ((Int × List UInt8) × Adapter)
  | .call call => adapterStep a call
  | .cutWrite buf => some ((0, []), a.unannounced buf)

namespace Adapter

/-- From one state of the adapter to the other there are such uses. -/
abbrev ComesTo (a b : Adapter) : Prop := Machine.Reachable adapterUse a b

theorem ComesTo.of_leads {a b : Adapter} (leads : Instrument.Leads a b) : a.ComesTo b :=
  leads.widen fun _ call _ _ answered => (Machine.Reachable.start _ _).next (.call call) answered

/-- The semaphore and the queue, with so many messages there before the start. -/
def Counted (left : Nat) (a : Adapter) : Prop := a.scpiSem + left = a.msgQueue.length + 1

theorem adapterUse_inRange (a : Adapter) (use : AdapterUse) (reply : Int × List UInt8)
    (after : Adapter) (inside : a.InRange) (moved : adapterUse a use = some (reply, after)) :
    after.InRange := by
  cases use with
  | call call => exact adapterStep_inRange a call reply after inside moved
  | cutWrite buf =>
      cases moved
      exact ⟨ByteRing.write_inRange _ _ inside.rx, inside.tx⟩

/-- A message and its post come together and go together. -/
theorem adapterUse_counted {left : Nat} (a : Adapter) (use : AdapterUse)
    (reply : Int × List UInt8) (after : Adapter) (counted : a.Counted left)
    (moved : adapterUse a use = some (reply, after)) : after.Counted left := by
  unfold Counted at counted ⊢
  cases use with
  | call call =>
      cases call with
      | cmdWrite buf accepted =>
          cases moved
          cases accepted with
          | false => exact counted
          | true =>
              show a.scpiSem + 1 + left = (a.msgQueue ++ [ScpiMsg.mk 1]).length + 1
              rw [List.length_append, List.length_singleton]
              omega
      | cmdRead len =>
          obtain ⟨sem, msg, rest, posts, queue, _, rfl⟩ := scpiMsgCmdRead_eq_some.mp moved
          rw [queue, List.length_cons] at counted
          show sem + left = rest.length + 1
          omega
      | reponseAvailLen =>
          cases moved
          exact counted
      | reponseRead len =>
          have answered : (scpiMsgReponseRead a len).2 = after :=
            congrArg Prod.snd (Option.some.inj moved)
          unfold scpiMsgReponseRead at answered
          split at answered
          · exact answered ▸ counted
          · exact answered ▸ counted
      | reponseWrite buf msgsrc =>
          cases moved
          unfold scpiMsgReponseWrite
          split
          · exact counted
          · dsimp only
            split
            · exact counted
            · exact counted
  | cutWrite buf =>
      cases moved
      exact counted

end Adapter

/-- A sender only makes calls of the adapter. -/
theorem leads_senderStep {s after : Sending} {writes : List (List UInt8)}
    (moved : senderStep s = some (writes, after)) : Instrument.Leads s.adapter after.adapter := by
  rw [senderStep_reads moved]
  exact Instrument.leads_reponseRead s.adapter s.sender.reads

theorem comesTo_cutRound {thread : SinkThread} {cut : Cut} {after : Adapter}
    (left : cutRound thread cut = some after) : thread.adapter.ComesTo after := by
  cases cut with
  | idle reads =>
      cases left
      exact Machine.Reachable.start _ _
  | command bytes later =>
      simp only [cutRound, Option.bind_eq_some_iff, Option.ite_none_right_eq_some] at left
      obtain ⟨buf, _, _, left⟩ := left
      split at left
      · cases left
      · rw [Option.ite_none_right_eq_some] at left
        obtain ⟨_, same⟩ := left
        cases same
        exact (Machine.Reachable.start _ _).next (.cutWrite _) rfl
  | request bytes steps printed =>
      simp only [cutRound, Option.bind_eq_some_iff, Option.ite_none_right_eq_some,
        Option.map_eq_some_iff] at left
      obtain ⟨buf, _, _, ⟨writes, last⟩, moved, rfl⟩ := left
      exact .of_leads (exec_invariant (P := fun s => Instrument.Leads thread.adapter s.adapter)
        (fun s _ output after soFar made => soFar.trans (leads_senderStep made))
        (Machine.Reachable.start _ _) moved)

namespace Process

variable {τ : Type}

theorem leaves_comesTo {p : Process τ} {cancelled : Option SinkLocals} {cut : Option Cut}
    {adapter : Adapter} (left : p.leaves cancelled cut = some adapter) :
    p.server.adapter.ComesTo adapter := by
  cases cancelled with
  | none =>
      cases cut with
      | none =>
          cases left
          exact Machine.Reachable.start _ _
      | some cut => cases left
  | some locals =>
      cases cut with
      | none => cases left
      | some cut => exact comesTo_cutRound left

variable [DecidableEq τ] {table : UsbGadgetStrings}

theorem step_comesTo {p after : Process τ} {input : Input τ} {output : Output τ}
    (moved : p.step table input = some (output, after)) :
    p.server.adapter.ComesTo after.server.adapter := by
  cases input with
  | sink thread reads accepted =>
      obtain ⟨locals, _, moved⟩ := Option.bind_eq_some_iff.mp moved
      split at moved
      · rename_i writes next round
        cases moved
        exact .of_leads (Instrument.leads_sinkRound round)
      · cases moved
        exact Machine.Reachable.start _ _
      · cases moved
  | request protocol req =>
      rw [step, Option.ite_none_right_eq_some, Option.map_eq_some_iff] at moved
      obtain ⟨_, done, answered, same⟩ := moved
      cases same
      exact .of_leads (Instrument.leads_replies answered)
  | cmdRead len =>
      obtain ⟨done, answered, same⟩ := Option.map_eq_some_iff.mp moved
      cases same
      exact .of_leads (.call (.cmdRead len) answered)
  | reponseWrite buf msgsrc =>
      cases moved
      exact .of_leads (.call (.reponseWrite buf msgsrc) rfl)
  | control event cut opened =>
      rw [step, Option.ite_none_right_eq_some] at moved
      obtain ⟨_, moved⟩ := moved
      obtain ⟨done, handled, moved⟩ := Option.bind_eq_some_iff.mp moved
      obtain ⟨adapter, left, same⟩ := Option.map_eq_some_iff.mp moved
      cases same
      have still : p.withAdapter done.2.adapter = p := by
        rw [gadgetStep_adapter handled]
        rfl
      rw [still] at left
      exact leaves_comesTo left

/-- After a start that got its message queue, whatever the hosts send and wherever their
threads are cut off, both rings stay in range, the semaphore and the queue differ by what
an earlier run has left in the queue, and so the application waits exactly where nothing
is announced, or, if something was left, where it has taken one message more than was
announced. -/
theorem wakeups_account (strings : UsbGadgetStrings) (left : List ScpiMsg) (first p : Process τ)
    (begun : first.BegunWith left) (reached : Machine.Reachable (step strings) first p) :
    p.server.adapter.InRange ∧
      p.server.adapter.scpiSem + left.length = p.server.adapter.msgQueue.length + 1 ∧
      ∀ len, p.step strings (.cmdRead len) = none ↔
        if left = [] then p.server.adapter.msgQueue = [] else p.server.adapter.scpiSem = 0 := by
  obtain ⟨_, started, ep0, _, _, rfl⟩ := begun
  have path : (ofStart started ep0 left).server.adapter.ComesTo p.server.adapter :=
    reached.invariant (P := fun q =>
        (ofStart started ep0 left).server.adapter.ComesTo q.server.adapter)
      (Machine.Reachable.start _ _) fun before input output after soFar moved =>
        soFar.trans (step_comesTo moved)
  have counted := path.invariant (P := Adapter.Counted left.length) (Nat.add_comm 1 left.length)
    Adapter.adapterUse_counted
  refine ⟨path.invariant ⟨Adapter.init_inRange.rx, Adapter.init_inRange.tx⟩
    Adapter.adapterUse_inRange, counted, fun len => ?_⟩
  rw [step, Option.map_eq_none_iff, scpiMsgCmdRead_eq_none_iff]
  unfold Adapter.Counted at counted
  cases left with
  | nil =>
      rw [if_pos rfl, or_iff_right]
      rw [List.length_nil] at counted
      omega
  | cons msg rest =>
      rw [if_neg (List.cons_ne_nil msg rest), or_iff_left_of_imp]
      intro nothing
      rw [nothing, List.length_cons, List.length_nil] at counted
      omega

/-- A message of an earlier run: the first read brings nothing, and the next one waits. -/
theorem wakeups_account_left_over :
    ∃ output p, step strings (ofStart ⟨0, ⟨0, [.opened 3], some 3⟩, vxi11Calls⟩ 0 [⟨1⟩])
        (.cmdRead 100) = some (output, p) ∧
      output.taken = [] ∧ p.step strings (.cmdRead 100) = none :=
  ⟨_, _, rfl, rfl, ((wakeups_account strings [⟨1⟩] _ _ (begunWith_all [⟨1⟩])
    ((Machine.Reachable.start _ _).next (.cmdRead 100) rfl)).2.2 100).mpr rfl⟩

end Process

end ScpiVxiTmc
