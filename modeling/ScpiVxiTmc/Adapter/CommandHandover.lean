import ScpiVxiTmc.Adapter.Messages

set_option autoImplicit false

/- Whole calls of the command functions in any order: the two transports write
commands, the SCPI thread of `main.c` reads with a buffer of 100 bytes. -/
namespace ScpiVxiTmc

inductive HandoverCall
  | write (cmd : List UInt8)
  | read

/-- One whole call; a read that the semaphore or the queue blocks is no call yet. -/
def handoverStep (a : Adapter) : HandoverCall → Option ((Int × List UInt8) × Adapter)
  | .write cmd =>
      let done := scpiMsgCmdWrite a cmd true
      some ((done.1, []), done.2)
  | .read => scpiMsgCmdRead a 100

/-- Commands have 1 to 100 bytes and find room in the ring. -/
def FitsRing (a : Adapter) : HandoverCall → Prop
  | .write cmd => 1 ≤ cmd.length ∧ cmd.length ≤ 100 ∧ a.rx.avail + cmd.length ≤ 1023
  | .read => True

/-- The commands of a run, in the order of their writes. -/
def commandsOf : List HandoverCall → List (List UInt8)
  | [] => []
  | .write cmd :: rest => cmd :: commandsOf rest
  | .read :: rest => commandsOf rest

/-- What the reads of a run returned and stored, in their order. -/
def deliveriesOf : List HandoverCall → List (Int × List UInt8) → List (Int × List UInt8)
  | .write _ :: rest, _ :: replies => deliveriesOf rest replies
  | .read :: rest, reply :: replies => reply :: deliveriesOf rest replies
  | _, _ => []

/-- A read that hands over one command returns its length with its bytes. -/
def asDelivery (cmd : List UInt8) : Int × List UInt8 := (cmd.length, cmd)

/-- The i-th read to return delivers the i-th command written, whole and alone. -/
def OneCommandPerRead (calls : List HandoverCall) (replies : List (Int × List UInt8)) : Prop :=
  deliveriesOf calls replies <+: (commandsOf calls).map asDelivery

/-- At every read, of the commands written and not read, there is only one, or
the oldest fills the reader's buffer by itself. -/
def ReadsMeetOneCommand : List (List UInt8) → List HandoverCall → Prop
  | _, [] => True
  | waiting, .write cmd :: rest => ReadsMeetOneCommand (waiting ++ [cmd]) rest
  | waiting, .read :: rest =>
      (waiting.length = 1 ∨ waiting.head?.map List.length = some 100) ∧
        ReadsMeetOneCommand waiting.tail rest

/-- The ring holds the waiting commands end to end; the queue, one message for
each. Nothing in either says where a command ends. -/
structure Carries (a : Adapter) (waiting : List (List UInt8)) : Prop where
  inRange : a.rx.InRange
  unread : a.rx.unread = waiting.flatten
  queued : a.msgQueue.length = waiting.length
  sizes : ∀ cmd ∈ waiting, 1 ≤ cmd.length ∧ cmd.length ≤ 100

theorem init_carries : Carries .init [] :=
  ⟨ByteRing.zero_holds.inRange, ByteRing.zero_holds.items, rfl, by simp⟩

theorem carries_write {a : Adapter} {waiting : List (List UInt8)} {cmd : List UInt8}
    (carried : Carries a waiting) (fits : FitsRing a (.write cmd)) :
    Carries (scpiMsgCmdWrite a cmd true).2 (waiting ++ [cmd]) := by
  obtain ⟨positive, short, room⟩ := fits
  refine ⟨?_, ?_, ?_, ?_⟩
  · rw [Adapter.rx, scpiMsgCmdWrite_gScpiMsg]
    exact ByteRing.write_inRange a.rx cmd carried.inRange
  · rw [Adapter.rx, scpiMsgCmdWrite_gScpiMsg, List.flatten_concat, ← carried.unread]
    exact (ByteRing.write_unread_eq_append_iff a.rx cmd carried.inRange).mpr
      (Nat.lt_succ_of_le room)
  · rw [scpiMsgCmdWrite_msgQueue, List.length_append, List.length_append, carried.queued]
    rfl
  · intro command member
    rcases List.mem_append.mp member with old | new
    · exact carried.sizes command old
    · rw [List.mem_singleton.mp new]
      exact ⟨positive, short⟩

/-- A buffer of 100 bytes takes exactly the oldest command when nothing follows
it or nothing else fits. -/
theorem take_flatten_eq_head_iff (cmd : List UInt8) (rest : List (List UInt8))
    (short : cmd.length ≤ 100) (positive : ∀ later ∈ rest, 1 ≤ later.length) :
    (cmd :: rest).flatten.take 100 = cmd ↔ rest = [] ∨ cmd.length = 100 := by
  rw [List.flatten_cons]
  cases rest with
  | nil =>
      simp only [List.flatten_nil, List.append_nil, true_or, iff_true]
      exact List.take_of_length_le short
  | cons next more =>
      have follows : 1 ≤ next.length := positive next List.mem_cons_self
      constructor
      · intro same
        have size := congrArg List.length same
        rw [List.length_take, List.length_append, List.flatten_cons, List.length_append] at size
        exact Or.inr (by omega)
      · rintro (absurdity | full)
        · cases absurdity
        · exact List.take_left' full

theorem drop_flatten_of_meets (cmd : List UInt8) (rest : List (List UInt8))
    (short : cmd.length ≤ 100) (meets : rest = [] ∨ cmd.length = 100) :
    (cmd :: rest).flatten.drop 100 = rest.flatten := by
  rw [List.flatten_cons]
  rcases meets with rfl | full
  · simpa using short
  · exact List.drop_left' full

/-- What a read returns while commands are waiting, and what it leaves. -/
theorem carries_read {a after : Adapter} {waiting : List (List UInt8)}
    {reply : Int × List UInt8} (carried : Carries a waiting)
    (returned : scpiMsgCmdRead a 100 = some (reply, after)) :
    ∃ cmd rest, waiting = cmd :: rest ∧
      (reply = asDelivery cmd ↔ rest = [] ∨ cmd.length = 100) ∧
      (rest = [] ∨ cmd.length = 100 → Carries after rest) := by
  obtain ⟨sem, msg, later, _, queue, rfl, rfl⟩ := scpiMsgCmdRead_eq_some.mp returned
  have size := carried.queued
  rw [queue, List.length_cons] at size
  obtain ⟨cmd, rest, rfl⟩ := List.exists_cons_of_length_eq_add_one size.symm
  have sizes := carried.sizes
  have short : cmd.length ≤ 100 := (sizes cmd List.mem_cons_self).2
  have positive : ∀ next ∈ rest, 1 ≤ next.length :=
    fun next member => (sizes next (List.mem_cons_of_mem _ member)).1
  obtain ⟨count, bytes, left⟩ := ByteRing.read_holds a.rx _ 100 carried.inRange.holds
  have stored : (a.rx.read 100).2.1 = (cmd :: rest).flatten.take 100 := by
    rw [ByteRing.read_bytes a.rx 100 carried.inRange, carried.unread]
  have counted : (a.rx.read 100).1 = (a.rx.read 100).2.1.length := by
    rw [count, bytes, List.length_take]
  refine ⟨cmd, rest, rfl, ?_, ?_⟩
  · rw [← take_flatten_eq_head_iff cmd rest short positive, ← stored, counted]
    constructor
    · exact congrArg Prod.snd
    · intro same
      rw [same, asDelivery]
  · intro meets
    refine ⟨left.inRange, ?_, ?_, fun next member => sizes next (List.mem_cons_of_mem _ member)⟩
    · change (a.rx.read 100).2.2.unread = rest.flatten
      rw [ByteRing.read_unread a.rx 100 carried.inRange, carried.unread,
        drop_flatten_of_meets cmd rest short meets]
    · simpa using size

/-- The waiting commands are the part of the history a read depends on. -/
theorem deliveries_prefix_iff (calls : List HandoverCall) {a last : Adapter}
    {waiting : List (List UInt8)} {replies : List (Int × List UInt8)}
    (carried : Carries a waiting) (fits : Machine.Along handoverStep FitsRing a calls)
    (moved : Machine.exec handoverStep a calls = some (replies, last)) :
    deliveriesOf calls replies <+: (waiting ++ commandsOf calls).map asDelivery ↔
      ReadsMeetOneCommand waiting calls := by
  induction calls generalizing a waiting replies with
  | nil => simp [deliveriesOf, ReadsMeetOneCommand]
  | cons call rest ih =>
      obtain ⟨reply, after, later, first, remaining, rfl⟩ := Machine.exec_cons_eq_some.mp moved
      cases call with
      | write cmd =>
          simp only [handoverStep, Option.some.injEq, Prod.mk.injEq] at first
          obtain ⟨_, rfl⟩ := first
          have step := ih (carries_write carried fits.1) (fits.2 _ _ rfl) remaining
          simpa only [deliveriesOf, commandsOf, ReadsMeetOneCommand, List.append_assoc,
            List.singleton_append] using step
      | read =>
          obtain ⟨cmd, more, rfl, exact_iff, leaves⟩ := carries_read carried first
          have alone : ((cmd :: more).length = 1 ∨
              (cmd :: more).head?.map List.length = some 100) ↔
              (more = [] ∨ cmd.length = 100) := by
            simp
          simp only [deliveriesOf, commandsOf, ReadsMeetOneCommand, alone, List.tail_cons,
            List.cons_append, List.map_cons, List.cons_prefix_cons, exact_iff]
          constructor
          · intro both
            exact ⟨both.1, (ih (leaves both.1) (fits.2 _ _ first) remaining).mp both.2⟩
          · intro both
            exact ⟨both.1, (ih (leaves both.1) (fits.2 _ _ first) remaining).mpr both.2⟩

/-- In a run that never overfills the ring, reads hand over one command each if
and only if each of them starts with one command to read. -/
theorem one_command_per_read_iff (calls : List HandoverCall) (last : Adapter)
    (replies : List (Int × List UInt8))
    (fits : Machine.Along handoverStep FitsRing .init calls)
    (moved : Machine.exec handoverStep .init calls = some (replies, last)) :
    OneCommandPerRead calls replies ↔ ReadsMeetOneCommand [] calls :=
  deliveries_prefix_iff calls init_carries fits moved

set_option maxRecDepth 16384 in
theorem one_command_per_read_alternating :
    OneCommandPerRead [.write [42], .read, .write [7], .read]
        [(0, []), (1, [42]), (0, []), (1, [7])] ↔
      ReadsMeetOneCommand [] [.write [42], .read, .write [7], .read] := by
  refine one_command_per_read_iff _ _ _ ?_ rfl
  rw [Machine.along_cons rfl, Machine.along_cons rfl, Machine.along_cons rfl,
    Machine.along_cons rfl]
  exact ⟨⟨by decide, by decide, by decide⟩, trivial, ⟨by decide, by decide, by decide⟩,
    trivial, trivial⟩

set_option maxRecDepth 16384 in
/-- Two writes before the first read: it returns both commands as one. -/
theorem two_commands_joined :
    (∃ last, Machine.exec handoverStep .init [.write [42], .write [7], .read] =
        some ([(0, []), (0, []), (2, [42, 7])], last)) ∧
      Machine.Along handoverStep FitsRing .init [.write [42], .write [7], .read] ∧
      ¬ OneCommandPerRead [.write [42], .write [7], .read]
        [(0, []), (0, []), (2, [42, 7])] := by
  refine ⟨⟨_, rfl⟩, ?_, ?_⟩
  · rw [Machine.along_cons rfl, Machine.along_cons rfl, Machine.along_cons rfl]
    exact ⟨⟨by decide, by decide, by decide⟩, ⟨by decide, by decide, by decide⟩, trivial, trivial⟩
  · unfold OneCommandPerRead
    decide

end ScpiVxiTmc
