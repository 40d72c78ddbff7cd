import ScpiVxiTmc.Adapter.Ring
import ScpiVxiTmc.Lib.Machine

set_option autoImplicit false

/- One thread in `scpi_msg_rx_write` and one in `scpi_msg_rx_read`, no lock between
them. A round of the one loop takes two steps, a round of the other four. -/
namespace ScpiVxiTmc

namespace ByteRing

/-- `rxBuf[rxTail] = *buf++` -/
def storeByte (ring : ByteRing) (byte : UInt8) : ByteRing :=
  { ring with buf := ring.buf.setIfInBounds ring.tail byte }

/-- `rxTail` is set to 0 or incremented. -/
def advanceTail (ring : ByteRing) : ByteRing :=
  { ring with tail := if ring.tail ≥ scpiBufMax - 1 then 0 else ring.tail + 1 }

/-- `rxHead++` -/
def incrementHead (ring : ByteRing) : ByteRing := { ring with head := ring.head + 1 }

/-- `rxHead` goes back to 0 if it left the array. -/
def wrapHead (ring : ByteRing) : ByteRing :=
  { ring with head := if ring.head ≥ scpiBufMax then 0 else ring.head }

/-- The steps of a round make the round. -/
theorem advanceTail_storeByte (ring : ByteRing) (byte : UInt8) :
    (ring.storeByte byte).advanceTail = ring.putByte byte := rfl

theorem wrapHead_incrementHead (ring : ByteRing) :
    (ring.cell ring.head, ring.incrementHead.wrapHead) = ring.takeByte := rfl

end ByteRing

/-- Where the writer is, with the bytes that its call has yet to store: before a
round, or between the store and the move of the tail. -/
inductive RxWriter
  | round (todo : List UInt8)
  | stored (todo : List UInt8)

/-- Where the reader is, with how far `cnt` still is from `len`. -/
inductive RxReader
  | idle
  | test (left : Nat)
  | load (left : Nat)
  | increment (left : Nat)
  | wrap (left : Nat)

/-- The ring and its two users, and the bytes stored and loaded so far. -/
structure SharedRing where
  ring : ByteRing
  writer : RxWriter
  reader : RxReader
  stored : List UInt8
  loaded : List UInt8

/-- A step of one of the users, or a new call once the last one has returned. -/
inductive RxStep
  | writeCall (buf : List UInt8)
  | store
  | advance
  | readCall (len : Nat)
  | test
  | load
  | increment
  | wrap

namespace SharedRing

def init : SharedRing := ⟨.zero, .round [], .idle, [], []⟩

/-- A step, if its user has come to it, with the index of the array that it uses. -/
def step (s : SharedRing) (next : RxStep) : Option (Option Nat × SharedRing) :=
  match next, s.writer, s.reader with
  | .writeCall buf, .round [], _ => some (none, { s with writer := .round buf })
  | .store, .round (byte :: rest), _ =>
      some (some s.ring.tail,
        { s with
          ring := s.ring.storeByte byte
          writer := .stored rest
          stored := s.stored ++ [byte] })
  | .advance, .stored rest, _ =>
      some (none, { s with ring := s.ring.advanceTail, writer := .round rest })
  | .readCall len, _, .idle => some (none, { s with reader := .test len })
  | .test, _, .test left =>
      some (none, { s with
        reader := if s.ring.head ≠ s.ring.tail ∧ 0 < left then .load left else .idle })
  | .load, _, .load left =>
      some (some s.ring.head,
        { s with loaded := s.loaded ++ [s.ring.cell s.ring.head], reader := .increment left })
  | .increment, _, .increment left =>
      some (none, { s with ring := s.ring.incrementHead, reader := .wrap left })
  | .wrap, _, .wrap left =>
      some (none, { s with ring := s.ring.wrapHead, reader := .test (left - 1) })
  | _, _, _ => none

/-- The rounds of a write loop that is not interrupted. -/
theorem exec_write (ring : ByteRing) (reader : RxReader) (buf stored loaded : List UInt8) :
    ∃ used, Machine.exec step ⟨ring, .round buf, reader, stored, loaded⟩
        (buf.flatMap fun _ => [.store, .advance]) =
      some (used, ⟨(ring.write buf).2, .round [], reader, stored ++ buf, loaded⟩) := by
  induction buf generalizing ring stored with
  | nil => exact ⟨[], by rw [List.append_nil]; rfl⟩
  | cons byte rest ih =>
      rcases ih (ring.putByte byte) (stored ++ [byte]) with ⟨used, ran⟩
      rw [List.append_assoc] at ran
      refine ⟨some ring.tail :: none :: used, ?_⟩
      simp only [List.flatMap_cons, List.cons_append, List.nil_append, Machine.exec_cons_eq_some]
      exact ⟨_, _, _, rfl, ⟨_, _, _, rfl, ran, rfl⟩, rfl⟩

/-- The rounds of a read loop that is not interrupted, and the test that ends it. -/
theorem exec_read (ring : ByteRing) (writer : RxWriter) (len : Nat) (stored loaded : List UInt8) :
    ∃ used, Machine.exec step ⟨ring, writer, .test len, stored, loaded⟩
        ((List.replicate (ring.read len).1 [.test, .load, .increment, .wrap]).flatten ++ [.test]) =
      some (used,
        ⟨(ring.read len).2.2, writer, .idle, stored, loaded ++ (ring.read len).2.1⟩) := by
  induction len generalizing ring loaded with
  | zero =>
      refine ⟨[none], ?_⟩
      simp [ByteRing.read, Machine.exec, step]
  | succ len ih =>
      by_cases apart : ring.head ≠ ring.tail
      · rcases ih ring.takeByte.2 (loaded ++ [ring.takeByte.1]) with ⟨used, ran⟩
        rw [List.append_assoc] at ran
        have entered : step ⟨ring, writer, .test (len + 1), stored, loaded⟩ .test =
            some (none, ⟨ring, writer, .load (len + 1), stored, loaded⟩) := by
          simp only [step, apart, ne_eq, not_false_eq_true, Nat.succ_pos, and_self, ↓reduceIte]
        have wrapped := Machine.exec_cons_eq_some.mpr ⟨none, _, used,
          show step ⟨ring.incrementHead, writer, .wrap (len + 1), stored,
            loaded ++ [ring.takeByte.1]⟩ .wrap = _ from rfl, ran, rfl⟩
        have incremented := Machine.exec_cons_eq_some.mpr ⟨none, _, _,
          show step ⟨ring, writer, .increment (len + 1), stored,
            loaded ++ [ring.takeByte.1]⟩ .increment = _ from rfl, wrapped, rfl⟩
        have loadedOne := Machine.exec_cons_eq_some.mpr ⟨some ring.head, _, _,
          show step ⟨ring, writer, .load (len + 1), stored, loaded⟩ .load = _ from rfl,
          incremented, rfl⟩
        refine ⟨none :: some ring.head :: none :: none :: used, ?_⟩
        simp only [ByteRing.read, if_pos apart, List.replicate_succ, List.flatten_cons,
          List.cons_append, List.nil_append]
        exact Machine.exec_cons_eq_some.mpr ⟨none, _, _, entered, loadedOne, rfl⟩
      · refine ⟨[none], ?_⟩
        simp [ByteRing.read, Machine.exec, step, apart]

/-- A call that nothing interrupts is the write loop of the ring. -/
theorem whole_write (ring : ByteRing) (reader : RxReader) (buf stored loaded : List UInt8) :
    ∃ used, Machine.exec step ⟨ring, .round [], reader, stored, loaded⟩
        (.writeCall buf :: buf.flatMap fun _ => [.store, .advance]) =
      some (used, ⟨(ring.write buf).2, .round [], reader, stored ++ buf, loaded⟩) := by
  rcases exec_write ring reader buf stored loaded with ⟨used, ran⟩
  exact ⟨none :: used, Machine.exec_cons_eq_some.mpr ⟨none, _, used, rfl, ran, rfl⟩⟩

/-- And one of the reader is the read loop. -/
theorem whole_read (ring : ByteRing) (writer : RxWriter) (len : Nat) (stored loaded : List UInt8) :
    ∃ used, Machine.exec step ⟨ring, writer, .idle, stored, loaded⟩
        (.readCall len :: ((List.replicate (ring.read len).1
          [.test, .load, .increment, .wrap]).flatten ++ [.test])) =
      some (used,
        ⟨(ring.read len).2.2, writer, .idle, stored, loaded ++ (ring.read len).2.1⟩) := by
  rcases exec_read ring writer len stored loaded with ⟨used, ran⟩
  exact ⟨none :: used, Machine.exec_cons_eq_some.mpr ⟨none, _, used, rfl, ran, rfl⟩⟩

/-- How many bytes were stored and are not loaded. -/
def unread (s : SharedRing) : Nat := s.stored.length - s.loaded.length

/-- The writer does not start a round on 1023 unread bytes. -/
def KeepsRoom (s : SharedRing) (next : RxStep) : Prop := next = .store → s.unread ≠ 1023

/-- How many stored bytes the tail has not passed. -/
def pending (s : SharedRing) : Nat :=
  match s.writer with
  | .round _ => 0
  | .stored _ => 1

/-- Where the head is, by where the reader is, how many bytes it has loaded and
how many the tail has passed. -/
def HeadAt (reader : RxReader) (head loaded passed : Nat) : Prop :=
  match reader with
  | .idle => head = loaded % 1024
  | .test _ => head = loaded % 1024
  | .load _ => head = loaded % 1024 ∧ loaded < passed
  | .increment _ => 0 < loaded ∧ head = (loaded - 1) % 1024
  | .wrap _ => 0 < loaded ∧ head = (loaded - 1) % 1024 + 1

/-- The bytes that are stored and not loaded are in their cells. -/
structure Inv (s : SharedRing) : Prop where
  passed : s.loaded.length + s.pending ≤ s.stored.length
  room : s.stored.length ≤ s.loaded.length + 1023
  tailAt : s.ring.tail = (s.stored.length - s.pending) % 1024
  headAt : HeadAt s.reader s.ring.head s.loaded.length (s.stored.length - s.pending)
  cells : ∀ i, s.loaded.length ≤ i → i < s.stored.length →
    some (s.ring.cell (i % 1024)) = s.stored[i]?
  order : s.loaded = s.stored.take s.loaded.length

/-- The six kinds of steps, and the calls: what each needs and what it does. -/
inductive Moves (s : SharedRing) : RxStep → Option Nat → SharedRing → Prop
  | writeCall (buf : List UInt8) (returned : s.writer = .round []) :
      Moves s (.writeCall buf) none { s with writer := .round buf }
  | store (byte : UInt8) (rest : List UInt8) (ready : s.writer = .round (byte :: rest)) :
      Moves s .store (some s.ring.tail)
        { s with
          ring := s.ring.storeByte byte
          writer := .stored rest
          stored := s.stored ++ [byte] }
  | advance (rest : List UInt8) (ready : s.writer = .stored rest) :
      Moves s .advance none { s with ring := s.ring.advanceTail, writer := .round rest }
  | readCall (len : Nat) (returned : s.reader = .idle) :
      Moves s (.readCall len) none { s with reader := .test len }
  | enter (left : Nat) (ready : s.reader = .test left) (apart : s.ring.head ≠ s.ring.tail) :
      Moves s .test none { s with reader := .load left }
  | leave (left : Nat) (ready : s.reader = .test left) :
      Moves s .test none { s with reader := .idle }
  | load (left : Nat) (ready : s.reader = .load left) :
      Moves s .load (some s.ring.head)
        { s with loaded := s.loaded ++ [s.ring.cell s.ring.head], reader := .increment left }
  | increment (left : Nat) (ready : s.reader = .increment left) :
      Moves s .increment none { s with ring := s.ring.incrementHead, reader := .wrap left }
  | wrap (left : Nat) (ready : s.reader = .wrap left) :
      Moves s .wrap none { s with ring := s.ring.wrapHead, reader := .test (left - 1) }

theorem moves_of_step {s after : SharedRing} {next : RxStep} {used : Option Nat}
    (moved : s.step next = some (used, after)) : Moves s next used after := by
  unfold step at moved
  split at moved
  case h_5 left ready =>
    rw [Option.some.injEq, Prod.mk.injEq] at moved
    rcases moved with ⟨rfl, rfl⟩
    split
    · rename_i both
      exact .enter left ready both.1
    · exact .leave left ready
  all_goals cases moved
  · exact .writeCall _ ‹_›
  · exact .store _ _ ‹_›
  · exact .advance _ ‹_›
  · exact .readCall _ ‹_›
  · exact .load _ ‹_›
  · exact .increment _ ‹_›
  · exact .wrap _ ‹_›

theorem init_inv : init.Inv := by
  refine ⟨Nat.le_refl 0, Nat.zero_le _, rfl, rfl, ?_, rfl⟩
  intro i _ below
  cases below

/-- The head does not care how much further the tail is. -/
theorem HeadAt.mono {reader : RxReader} {head loaded passed more : Nat}
    (place : HeadAt reader head loaded passed) (further : passed ≤ more) :
    HeadAt reader head loaded more := by
  cases reader with
  | idle => exact place
  | test left => exact place
  | load left => exact ⟨place.1, Nat.lt_of_lt_of_le place.2 further⟩
  | increment left => exact place
  | wrap left => exact place

section
variable {s : SharedRing}

theorem Inv.tail_lt (inv : s.Inv) : s.ring.tail < scpiBufMax := by
  rw [inv.tailAt]
  exact Nat.mod_lt _ (by decide)

/-- The store goes into the cell of the next byte, and that is no cell of a byte
that is stored already and not loaded. -/
theorem Inv.store (inv : s.Inv) {byte : UInt8} {rest : List UInt8}
    (ready : s.writer = .round (byte :: rest)) (keeps : s.unread ≠ 1023) :
    Inv { s with
      ring := s.ring.storeByte byte
      writer := .stored rest
      stored := s.stored ++ [byte] } := by
  have nothing : s.pending = 0 := by rw [pending, ready]
  have passed := inv.passed
  have full := inv.room
  have tailAt := inv.tailAt
  have headAt := inv.headAt
  have grown : (s.stored ++ [byte]).length = s.stored.length + 1 := List.length_append
  have content : (s.ring.storeByte byte).cell = Function.update s.ring.cell s.ring.tail byte :=
    s.ring.putByte_cell inv.tail_lt byte
  rw [nothing] at passed tailAt headAt
  rw [unread] at keeps
  refine ⟨?_, ?_, ?_, ?_, ?_, ?_⟩
  · show s.loaded.length + 1 ≤ (s.stored ++ [byte]).length
    omega
  · show (s.stored ++ [byte]).length ≤ s.loaded.length + 1023
    omega
  · show s.ring.tail = ((s.stored ++ [byte]).length - 1) % 1024
    rw [grown]
    exact tailAt
  · show HeadAt s.reader s.ring.head s.loaded.length ((s.stored ++ [byte]).length - 1)
    rw [grown]
    exact headAt
  · show ∀ i, s.loaded.length ≤ i → i < (s.stored ++ [byte]).length →
      some ((s.ring.storeByte byte).cell (i % 1024)) = (s.stored ++ [byte])[i]?
    intro i unloaded below
    rw [content]
    by_cases last : i = s.stored.length
    · rw [last, tailAt, Nat.sub_zero, Function.update_self, List.getElem?_concat_length]
    · have apart : i % 1024 ≠ s.ring.tail := by omega
      rw [Function.update_of_ne apart, inv.cells i unloaded (by omega),
        List.getElem?_append_left (by omega)]
  · show s.loaded = (s.stored ++ [byte]).take s.loaded.length
    rw [List.take_append_of_le_length (by omega)]
    exact inv.order

theorem Inv.advance (inv : s.Inv) {rest : List UInt8} (ready : s.writer = .stored rest) :
    Inv { s with ring := s.ring.advanceTail, writer := .round rest } := by
  have one : s.pending = 1 := by rw [pending, ready]
  have passed := inv.passed
  have tailAt := inv.tailAt
  have headAt := inv.headAt
  rw [one] at passed tailAt headAt
  refine ⟨?_, inv.room, ?_, ?_, inv.cells, inv.order⟩
  · show s.loaded.length + 0 ≤ s.stored.length
    omega
  · show (if s.ring.tail ≥ 1024 - 1 then 0 else s.ring.tail + 1) = (s.stored.length - 0) % 1024
    split <;> omega
  · exact headAt.mono (Nat.sub_le_sub_left (Nat.zero_le 1) _)

/-- Different indices mean that a byte is waiting: no more than 1023 can be. -/
theorem Inv.enter (inv : s.Inv) {left : Nat} (ready : s.reader = .test left)
    (apart : s.ring.head ≠ s.ring.tail) : Inv { s with reader := .load left } := by
  have passed := inv.passed
  have full := inv.room
  have tailAt := inv.tailAt
  have headAt := inv.headAt
  rw [ready] at headAt
  change s.ring.head = s.loaded.length % 1024 at headAt
  refine ⟨inv.passed, inv.room, inv.tailAt, ?_, inv.cells, inv.order⟩
  show s.ring.head = s.loaded.length % 1024 ∧ s.loaded.length < s.stored.length - s.pending
  omega

/-- What is loaded is the oldest byte that was not. -/
theorem Inv.load (inv : s.Inv) {left : Nat} (ready : s.reader = .load left) :
    Inv { s with
      loaded := s.loaded ++ [s.ring.cell s.ring.head]
      reader := .increment left } := by
  have passed := inv.passed
  have full := inv.room
  have headAt := inv.headAt
  rw [ready] at headAt
  change s.ring.head = s.loaded.length % 1024 ∧ s.loaded.length < s.stored.length - s.pending
    at headAt
  have grown : (s.loaded ++ [s.ring.cell s.ring.head]).length = s.loaded.length + 1 :=
    List.length_append
  have oldest := inv.cells s.loaded.length (Nat.le_refl _) (by omega)
  rw [← headAt.1] at oldest
  refine ⟨?_, ?_, inv.tailAt, ?_, ?_, ?_⟩
  · show (s.loaded ++ [s.ring.cell s.ring.head]).length + s.pending ≤ s.stored.length
    omega
  · show s.stored.length ≤ (s.loaded ++ [s.ring.cell s.ring.head]).length + 1023
    omega
  · show 0 < (s.loaded ++ [s.ring.cell s.ring.head]).length ∧
      s.ring.head = ((s.loaded ++ [s.ring.cell s.ring.head]).length - 1) % 1024
    omega
  · show ∀ i, (s.loaded ++ [s.ring.cell s.ring.head]).length ≤ i → i < s.stored.length →
      some (s.ring.cell (i % 1024)) = s.stored[i]?
    intro i unloaded below
    exact inv.cells i (by omega) below
  · show s.loaded ++ [s.ring.cell s.ring.head] =
      s.stored.take (s.loaded ++ [s.ring.cell s.ring.head]).length
    rw [grown, List.take_add_one, ← inv.order, ← oldest]
    rfl

theorem Inv.increment (inv : s.Inv) {left : Nat} (ready : s.reader = .increment left) :
    Inv { s with ring := s.ring.incrementHead, reader := .wrap left } := by
  have headAt := inv.headAt
  rw [ready] at headAt
  refine ⟨inv.passed, inv.room, inv.tailAt, ?_, inv.cells, inv.order⟩
  exact ⟨headAt.1, congrArg (· + 1) headAt.2⟩

theorem Inv.wrap (inv : s.Inv) {left : Nat} (ready : s.reader = .wrap left) :
    Inv { s with ring := s.ring.wrapHead, reader := .test (left - 1) } := by
  have headAt := inv.headAt
  rw [ready] at headAt
  change 0 < s.loaded.length ∧ s.ring.head = (s.loaded.length - 1) % 1024 + 1 at headAt
  refine ⟨inv.passed, inv.room, inv.tailAt, ?_, inv.cells, inv.order⟩
  show (if s.ring.head ≥ 1024 then 0 else s.ring.head) = s.loaded.length % 1024
  split <;> omega

/-- A call starts where the last one left the indices, and so does its return. -/
theorem Inv.idle_or_test (inv : s.Inv) {reader : RxReader}
    (before : s.reader = .idle ∨ ∃ left, s.reader = .test left)
    (after : reader = .idle ∨ ∃ left, reader = .test left) : Inv { s with reader := reader } := by
  have headAt : s.ring.head = s.loaded.length % 1024 := by
    have place := inv.headAt
    rcases before with idle | ⟨left, test⟩
    · rw [idle] at place
      exact place
    · rw [test] at place
      exact place
  refine ⟨inv.passed, inv.room, inv.tailAt, ?_, inv.cells, inv.order⟩
  rcases after with rfl | ⟨left, rfl⟩
  · exact headAt
  · exact headAt

theorem Inv.writeCall (inv : s.Inv) (buf : List UInt8) (returned : s.writer = .round []) :
    Inv { s with writer := .round buf } := by
  have nothing : s.pending = 0 := by rw [pending, returned]
  have passed := inv.passed
  have tailAt := inv.tailAt
  have headAt := inv.headAt
  rw [nothing] at passed tailAt headAt
  exact ⟨passed, inv.room, tailAt, headAt, inv.cells, inv.order⟩

/-- Every step keeps the invariant and uses the array inside its bounds. -/
theorem Inv.moves {after : SharedRing} {next : RxStep} {used : Option Nat} (inv : s.Inv)
    (keeps : s.KeepsRoom next) (moves : Moves s next used after) :
    after.Inv ∧ ∀ index, used = some index → index < 1024 := by
  cases moves with
  | writeCall buf returned =>
      exact ⟨inv.writeCall buf returned, fun index no => by cases no⟩
  | store byte rest ready =>
      refine ⟨inv.store ready (keeps rfl), ?_⟩
      intro index used
      exact Option.some.inj used ▸ inv.tail_lt
  | advance rest ready => exact ⟨inv.advance ready, fun index no => by cases no⟩
  | readCall len returned =>
      refine ⟨inv.idle_or_test (Or.inl returned) (Or.inr ⟨len, rfl⟩), ?_⟩
      exact fun index no => by cases no
  | enter left ready apart => exact ⟨inv.enter ready apart, fun index no => by cases no⟩
  | leave left ready =>
      refine ⟨inv.idle_or_test (Or.inr ⟨left, ready⟩) (Or.inl rfl), ?_⟩
      exact fun index no => by cases no
  | load left ready =>
      refine ⟨inv.load ready, ?_⟩
      intro index used
      have headAt := inv.headAt
      rw [ready] at headAt
      rw [← Option.some.inj used, headAt.1]
      exact Nat.mod_lt _ (by decide)
  | increment left ready => exact ⟨inv.increment ready, fun index no => by cases no⟩
  | wrap left ready => exact ⟨inv.wrap ready, fun index no => by cases no⟩

/-- The count is one too high while a loaded byte is still in front of the head. -/
theorem Inv.avail_le (inv : s.Inv) : s.ring.avail ≤ s.unread + 1 := by
  have passed := inv.passed
  have full := inv.room
  have tailAt := inv.tailAt
  have headAt := inv.headAt
  have bufMax : scpiBufMax = 1024 := rfl
  simp only [ByteRing.avail, unread, bufMax]
  cases place : s.reader with
  | idle =>
      simp only [place, HeadAt] at headAt
      split <;> omega
  | test left =>
      simp only [place, HeadAt] at headAt
      split <;> omega
  | load left =>
      simp only [place, HeadAt] at headAt
      split <;> omega
  | increment left =>
      simp only [place, HeadAt] at headAt
      split <;> omega
  | wrap left =>
      simp only [place, HeadAt] at headAt
      split <;> omega

end

/-- What holds of the two users after some steps, and of the indices they used. -/
structure NeedsNoLock (used : List (Option Nat)) (s : SharedRing) : Prop where
  order : s.loaded <+: s.stored
  inBounds : ∀ index, some index ∈ used → index < 1024
  counted : s.ring.avail ≤ s.unread + 1

/-- One writer and one reader need no lock, as long as the writer keeps room. -/
theorem shared_without_lock (steps : List RxStep) (used : List (Option Nat)) (s : SharedRing)
    (keepsRoom : Machine.Along step KeepsRoom init steps)
    (ran : Machine.exec step init steps = some (used, s)) : NeedsNoLock used s := by
  have kept := Machine.exec_along (J := Inv)
    (Q := fun used => ∀ index, used = some index → index < 1024)
    (fun before next used after inv keeps moved => inv.moves keeps (moves_of_step moved))
    init_inv keepsRoom ran
  rcases kept with ⟨inv, indices⟩
  refine ⟨?_, ?_, inv.avail_le⟩
  · rw [inv.order]
    exact List.take_prefix _ _
  · intro index member
    exact indices (some index) member index rfl

/-- The byte is loaded between the store of the next one and the move of the tail. -/
def crossing : List RxStep :=
  [.writeCall [42, 43], .store, .advance, .readCall 1, .test, .store, .load, .increment]

theorem crossing_needs_no_lock : ∃ used s, Machine.exec step init crossing = some (used, s) ∧
    s.stored.length = 2 ∧ s.loaded.length = 1 ∧ NeedsNoLock used s := by
  have keepsRoom : Machine.Along step KeepsRoom init crossing := by
    rw [crossing, Machine.along_cons rfl, Machine.along_cons rfl, Machine.along_cons rfl,
      Machine.along_cons rfl, Machine.along_cons rfl, Machine.along_cons rfl,
      Machine.along_cons rfl, Machine.along_cons rfl]
    exact ⟨nofun, fun _ => by decide, nofun, nofun, nofun, fun _ => by decide, nofun, nofun,
      trivial⟩
  exact ⟨_, _, rfl, rfl, rfl, shared_without_lock crossing _ _ keepsRoom rfl⟩

end SharedRing

end ScpiVxiTmc
