import ScpiVxiTmc.Adapter.Messages
import ScpiVxiTmc.Lib.Merge

set_option autoImplicit false

/- Two threads in `scpi_msg_rx_write` at once, each with a command of its own. -/
namespace ScpiVxiTmc

/-- Who brings a command: the USB sink thread or the VXI-11 RPC thread. -/
inductive Transport
  | usb
  | vxi
  deriving DecidableEq

/-- The globals of the adapter and what the two loops have yet to write. -/
structure TwoWriters where
  g : ScpiTxCfg
  left : Transport → List UInt8

namespace TwoWriters

/-- A round of one of the loops, with the byte it writes. -/
def step (s : TwoWriters) (next : Transport) : Option (UInt8 × TwoWriters) :=
  match s.left next with
  | [] => none
  | byte :: rest =>
      some (byte, ⟨(scpiMsgRxWrite s.g [byte]).2, Function.update s.left next rest⟩)

/-- One command comes complete behind the old bytes, and then the other. -/
def Unmixed (old : List UInt8) (commands : Transport → List UInt8) (unread : List UInt8) : Prop :=
  unread = old ++ commands .usb ++ commands .vxi ∨ unread = old ++ commands .vxi ++ commands .usb

/-- Every round writes the byte that its place has when the commands follow each
other in one of the two orders. -/
def KeepsPlaces (commands : Transport → List UInt8) (schedule : List Transport) : Prop :=
  Merge.InPlace commands schedule (commands .usb ++ commands .vxi) ∨
    Merge.InPlace commands schedule (commands .vxi ++ commands .usb)

theorem scpiMsgRxWrite_rx (g : ScpiTxCfg) (buf : List UInt8) :
    (scpiMsgRxWrite g buf).2.rx = (g.rx.write buf).2 := rfl

/-- The two loops write a merge of their commands as one loop would write it. -/
theorem exec_step (s : TwoWriters) (schedule : List Transport) :
    Machine.exec step s schedule =
      (Machine.exec Merge.pick s.left schedule).map fun merged =>
        (merged.1, ⟨(scpiMsgRxWrite s.g merged.1).2, merged.2⟩) := by
  induction schedule generalizing s with
  | nil => rfl
  | cons next rest ih =>
      rw [Machine.exec, Machine.exec, step, Merge.pick]
      cases s.left next with
      | nil => rfl
      | cons byte later =>
          simp only [Option.bind_some, ih, Option.map_map]
          rfl

theorem count_add_count (schedule : List Transport) :
    schedule.count .usb + schedule.count .vxi = schedule.length := by
  induction schedule with
  | nil => rfl
  | cons next rest ih =>
      cases next with
      | usb =>
          rw [List.count_cons_self, List.count_cons_of_ne (by decide), List.length_cons]
          omega
      | vxi =>
          rw [List.count_cons_self, List.count_cons_of_ne (by decide), List.length_cons]
          omega

/-- Nothing but the order of the rounds keeps two commands apart. -/
theorem commands_unmixed_iff (a : Adapter) (commands : Transport → List UInt8)
    (schedule : List Transport) (reached : a.Reachable)
    (room : a.rx.unread.length + (commands .usb).length + (commands .vxi).length ≤ 1023)
    (complete : ∀ next, schedule.count next = (commands next).length) :
    ∃ bytes g, Machine.exec step ⟨a.gScpiMsg, commands⟩ schedule =
        some (bytes, ⟨g, fun _ => []⟩) ∧
      (Unmixed a.rx.unread commands g.rx.unread ↔ KeepsPlaces commands schedule) := by
  have bufMax : scpiBufMax = 1024 := rfl
  have rounds := count_add_count schedule
  rw [complete, complete] at rounds
  rcases Merge.exec_pick commands schedule (fun next => Nat.le_of_eq (complete next)) with
    ⟨bytes, merged, size, places⟩
  have emptied : (fun next => (commands next).drop (schedule.count next)) = fun _ => [] := by
    funext next
    rw [complete, List.drop_length]
  have appended : (a.rx.write bytes).2.unread = a.rx.unread ++ bytes := by
    apply (ByteRing.write_unread_eq_append_iff a.rx bytes reached.inRange.rx).mpr
    rw [ByteRing.unread_length] at room
    omega
  refine ⟨bytes, (scpiMsgRxWrite a.gScpiMsg bytes).2, ?_, ?_⟩
  · rw [exec_step, merged, emptied]
    rfl
  · have usbFirst := places.eq_iff (commands .usb ++ commands .vxi) size
      (by rw [List.length_append]; omega)
    have vxiFirst := places.eq_iff (commands .vxi ++ commands .usb) size
      (by rw [List.length_append]; omega)
    rw [scpiMsgRxWrite_rx, appended, Unmixed, List.append_assoc, List.append_assoc,
      List.append_cancel_left_eq, List.append_cancel_left_eq, usbFirst, vxiFirst, KeepsPlaces]

/-- One call makes all its rounds before the other makes its first. -/
def InTurn (schedule : List Transport) : Prop :=
  schedule = List.replicate (schedule.count .usb) .usb ++
      List.replicate (schedule.count .vxi) .vxi ∨
    schedule = List.replicate (schedule.count .vxi) .vxi ++
      List.replicate (schedule.count .usb) .usb

/-- A byte for each transport, to tell whose rounds are whose. -/
def tag : Transport → UInt8
  | .usb => 0
  | .vxi => 1

theorem tag_injective : Function.Injective tag := by
  intro left right same
  cases left <;> cases right <;> first | rfl | exact absurd same (by decide)

/-- Tags in the places of two calls in turn are the tags of such a schedule. -/
theorem ordered_of_inPlace {schedule : List Transport} {first second : Transport}
    (rounds : schedule.count first + schedule.count second = schedule.length)
    (places : Merge.InPlace (fun next => List.replicate (schedule.count next) (tag next)) schedule
      (List.replicate (schedule.count first) (tag first) ++
        List.replicate (schedule.count second) (tag second))) :
    schedule = List.replicate (schedule.count first) first ++
      List.replicate (schedule.count second) second := by
  have tagged := Merge.inPlace_map tag schedule
  have fits : (List.replicate (schedule.count first) (tag first) ++
      List.replicate (schedule.count second) (tag second)).length = schedule.length := by
    rw [List.length_append, List.length_replicate, List.length_replicate, rounds]
  have same := (tagged.eq_iff _ (List.length_map _) fits).mpr places
  rw [← List.map_replicate, ← List.map_replicate, ← List.map_append] at same
  exact List.map_injective_iff.mpr tag_injective same

/-- Only calls that do not overlap keep all commands of their lengths apart. -/
theorem keepsPlaces_always_iff (schedule : List Transport) :
    (∀ commands : Transport → List UInt8, (∀ next, schedule.count next = (commands next).length) →
      KeepsPlaces commands schedule) ↔ InTurn schedule := by
  have rounds := count_add_count schedule
  constructor
  · intro always
    have places := always (fun next => List.replicate (schedule.count next) (tag next))
      (fun next => List.length_replicate.symm)
    rcases places with usbFirst | vxiFirst
    · exact Or.inl (ordered_of_inPlace rounds usbFirst)
    · rw [Nat.add_comm] at rounds
      exact Or.inr (ordered_of_inPlace rounds vxiFirst)
  · intro turns commands complete
    rcases turns with usbFirst | vxiFirst
    · apply Or.inl
      rw [usbFirst, complete, complete]
      exact Merge.inPlace_in_turn commands (by decide)
    · apply Or.inr
      rw [vxiFirst, complete, complete]
      exact Merge.inPlace_in_turn commands (by decide)

/-- The commands AB and C -/
def twoCommands : Transport → List UInt8
  | .usb => [65, 66]
  | .vxi => [67]

/-- C before AB, round for round. -/
theorem twoCommands_unmixed :
    ∃ bytes g, Machine.exec step ⟨Adapter.init.gScpiMsg, twoCommands⟩ [.vxi, .usb, .usb] =
        some (bytes, ⟨g, fun _ => []⟩) ∧
      (Unmixed Adapter.init.rx.unread twoCommands g.rx.unread ↔
        KeepsPlaces twoCommands [.vxi, .usb, .usb]) :=
  commands_unmixed_iff .init twoCommands [.vxi, .usb, .usb] (Machine.Reachable.start _ _)
    (by decide) (fun next => by cases next <;> rfl)

/-- With C between the bytes of AB, the SCPI thread finds ACB. -/
theorem twoCommands_garbled :
    ∃ left, Machine.exec step ⟨Adapter.init.gScpiMsg, twoCommands⟩ [.usb, .vxi, .usb] =
        some ([65, 67, 66], ⟨(scpiMsgRxWrite Adapter.init.gScpiMsg [65, 67, 66]).2, left⟩) ∧
      ¬ Unmixed Adapter.init.rx.unread twoCommands
        (scpiMsgRxWrite Adapter.init.gScpiMsg [65, 67, 66]).2.rx.unread := by
  have merged : ∃ left, Machine.exec Merge.pick twoCommands [.usb, .vxi, .usb] =
      some ([65, 67, 66], left) := ⟨_, rfl⟩
  rcases merged with ⟨left, merged⟩
  refine ⟨left, by rw [exec_step, merged]; rfl, ?_⟩
  have appended : (Adapter.init.rx.write [65, 67, 66]).2.unread =
      Adapter.init.rx.unread ++ [65, 67, 66] := by
    apply (ByteRing.write_unread_eq_append_iff Adapter.init.rx _ Adapter.init_inRange.rx).mpr
    decide
  rw [scpiMsgRxWrite_rx, appended, Unmixed, List.append_assoc, List.append_assoc,
    List.append_cancel_left_eq, List.append_cancel_left_eq]
  decide

end TwoWriters

end ScpiVxiTmc
