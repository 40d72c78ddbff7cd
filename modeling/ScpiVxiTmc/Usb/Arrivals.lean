import ScpiVxiTmc.Usb.LengthTest

set_option autoImplicit false

/- What the continuation reads of a transfer bring, told apart from what
`usbtmc_msg_cmd_read` makes of it. -/
namespace ScpiVxiTmc

/-- How the wait for the rest of a transfer ends: with its last piece, with a
read that fails or brings nothing, after the last round, or not yet. -/
inductive Ending
  | whole (last : List UInt8)
  | broken
  | tooMany
  | waiting

namespace Ending

def IsWhole : Ending → Prop
  | whole _ => True
  | broken => False
  | tooMany => False
  | waiting => False

def IsBroken : Ending → Prop
  | whole _ => False
  | broken => True
  | tooMany => False
  | waiting => False

def last : Ending → List (List UInt8)
  | whole last => [last]
  | broken => []
  | tooMany => []
  | waiting => []

/-- What the loop at `rcv_continue` ends with, once its reads are stored. -/
def result (filled : RevBuf) : Ending → Except NoReturn (Int × RevBuf)
  | whole _ => .ok (0, filled)
  | broken => .ok (0, filled)
  | tooMany => .ok (-2, filled)
  | waiting => .error .blocked

theorem last_eq_nil {ending : Ending} (unfinished : ¬ ending.IsWhole) : ending.last = [] := by
  cases ending with
  | whole last => exact absurd trivial unfinished
  | broken => rfl
  | tooMany => rfl
  | waiting => rfl

theorem result_of_isWhole {ending : Ending} (whole : ending.IsWhole) (filled : RevBuf) :
    ending.result filled = .ok (0, filled) := by
  cases ending with
  | whole last => rfl
  | broken => exact absurd whole id
  | tooMany => exact absurd whole id
  | waiting => exact absurd whole id

theorem not_isBroken_of_isWhole {ending : Ending} (whole : ending.IsWhole) :
    ¬ ending.IsBroken := by
  cases ending with
  | whole last => exact id
  | broken => exact absurd whole id
  | tooMany => exact id
  | waiting => exact id

end Ending

/-- The pieces that leave something missing, and what comes after them. -/
structure Arrival where
  pieces : List (List UInt8)
  ending : Ending

/-- All pieces, in the order they are stored. -/
def Arrival.all (arrived : Arrival) : List (List UInt8) := arrived.pieces ++ arrived.ending.last

/-- What arrives of `missing` bytes in a number of rounds. -/
def arrival : Nat → Nat → List SinkRead → Arrival
  | _, 0, _ => ⟨[], .tooMany⟩
  | _, _ + 1, [] => ⟨[], .waiting⟩
  | _, _ + 1, .failed :: _ => ⟨[], .broken⟩
  | missing, left + 1, .data bytes :: later =>
      let got := bytes.take missing
      if got = [] then ⟨[], .broken⟩
      else if got.length = missing then ⟨[], .whole got⟩
      else
        let rest := arrival (missing - got.length) left later
        ⟨got :: rest.pieces, rest.ending⟩

/-- The bytes that a read asked for `count` brings. -/
def SinkRead.brought (count : Int) : SinkRead → Nat
  | .data bytes => (bytes.take count.toNat).length
  | .failed => 0

/-- The bytes that the reads of a call brought together. -/
def SinkCall.received {α : Type} (call : SinkCall α) (reads : List SinkRead) : Nat :=
  (List.zipWith SinkRead.brought call.asked reads).foldr (· + ·) 0

/-- The call of the loop for `missing` bytes does what the arrival tells. -/
structure Follows (missing : Nat) (revBuf : RevBuf) (reads : List SinkRead) (arrived : Arrival)
    (call : SinkCall (Int × RevBuf)) : Prop where
  outcome : call.outcome =
    match Buffer.overlay? revBuf arrived.all with
    | none => .error .readPastRevBuf
    | some filled => arrived.ending.result filled
  asks : ∀ count ∈ call.asked, count ≤ missing
  received_le : call.received reads ≤ missing
  received_eq : call.received reads = missing ↔
    (∀ piece ∈ arrived.pieces, piece.length ≤ usbBufsize) ∧ arrived.ending.IsWhole

theorem received_cons {α : Type} (count : Int) (asked : List Int) (left : List SinkRead)
    (outcome : Except NoReturn α) (read : SinkRead) (reads : List SinkRead) :
    (SinkCall.mk (count :: asked) left outcome).received (read :: reads) =
      read.brought count + (SinkCall.mk asked left outcome).received reads := by
  simp only [SinkCall.received, List.zipWith_cons_cons, List.foldr_cons]

theorem received_nil {α : Type} (left : List SinkRead) (outcome : Except NoReturn α)
    (reads : List SinkRead) : (SinkCall.mk [] left outcome).received reads = 0 := by
  simp only [SinkCall.received, List.zipWith_nil_left, List.foldr_nil]

theorem asks_once (count : Int) : ∀ asked ∈ [count], asked ≤ count := by
  intro asked member
  exact Int.le_of_eq (List.mem_singleton.mp member)

/-- A round that brings nothing is the last. -/
theorem follows_of_nothing {missing : Nat} {revBuf : RevBuf} {reads : List SinkRead}
    {ending : Ending} {call : SinkCall (Int × RevBuf)} (positive : 0 < missing)
    (unfinished : ¬ ending.IsWhole) (ended : call.outcome = ending.result revBuf)
    (asks : ∀ count ∈ call.asked, count ≤ missing) (nothing : call.received reads = 0) :
    Follows missing revBuf reads ⟨[], ending⟩ call := by
  refine ⟨?_, asks, by omega, ?_⟩
  · rw [ended, Arrival.all, Ending.last_eq_nil unfinished]
    rfl
  · apply iff_of_false
    · omega
    · intro both
      exact unfinished both.2

/-- A round that brings all that is missing. -/
theorem follows_of_whole {missing : Nat} (revBuf : RevBuf) (transfersize rcvedLen : Int)
    (left : Nat) (bytes : List UInt8) (later : List SinkRead) (positive : 0 < missing)
    (total : transfersize = rcvedLen + missing) (enough : (bytes.take missing).length = missing) :
    Follows missing revBuf (.data bytes :: later) ⟨[], .whole (bytes.take missing)⟩
      (rcvContinue transfersize (left + 1) revBuf rcvedLen (.data bytes :: later)) := by
  have count : transfersize - rcvedLen = missing := by omega
  have something : bytes.take missing ≠ [] := by
    intro nothing
    rw [nothing, List.length_nil] at enough
    omega
  have done : ¬ transfersize > rcvedLen + missing := by omega
  have round : rcvContinue transfersize (left + 1) revBuf rcvedLen (.data bytes :: later) =
      ⟨[missing], later,
        match Buffer.store? revBuf 0 (bytes.take missing) with
        | none => .error .readPastRevBuf
        | some filled => .ok (0, filled)⟩ := by
    simp only [rcvContinue, count, Int.toNat_natCast, something, ↓reduceIte, enough, done]
    cases Buffer.store? revBuf 0 (bytes.take missing) with
    | none => rfl
    | some filled => rfl
  have all : (SinkRead.data bytes).brought missing = missing := enough
  rw [round]
  refine ⟨?_, ?_, ?_, ?_⟩
  · simp only [Arrival.all, Ending.last, List.nil_append, Buffer.overlay?_cons,
      Buffer.overlay?_nil]
    cases Buffer.store? revBuf 0 (bytes.take missing) with
    | none => rfl
    | some filled => rfl
  · exact asks_once missing
  · rw [received_cons, received_nil, all]
    omega
  · rw [received_cons, received_nil, all]
    apply iff_of_true
    · omega
    · exact ⟨fun piece member => absurd member List.not_mem_nil, trivial⟩

section
variable {missing : Nat} (revBuf : RevBuf) (transfersize rcvedLen : Int) (left : Nat)
  (bytes : List UInt8) (later : List SinkRead) (something : bytes.take missing ≠ [])
  (total : transfersize = rcvedLen + missing) (part : (bytes.take missing).length < missing)
include something total part

/-- A round that brings a part of what is missing, but too much for the buffer. -/
theorem follows_of_overrun (overrun : Buffer.store? revBuf 0 (bytes.take missing) = none)
    (rest : Arrival) :
    Follows missing revBuf (.data bytes :: later)
      ⟨bytes.take missing :: rest.pieces, rest.ending⟩
      (rcvContinue transfersize (left + 1) revBuf rcvedLen (.data bytes :: later)) := by
  have count : transfersize - rcvedLen = missing := by omega
  have brought : (SinkRead.data bytes).brought missing = (bytes.take missing).length := rfl
  have round : rcvContinue transfersize (left + 1) revBuf rcvedLen (.data bytes :: later) =
      ⟨[missing], later, .error .readPastRevBuf⟩ := by
    simp only [rcvContinue, count, Int.toNat_natCast, something, ↓reduceIte, overrun]
  have leaves := (Buffer.store?_eq_none revBuf 0 (bytes.take missing)).mp overrun
  rw [round]
  refine ⟨?_, ?_, ?_, ?_⟩
  · simp only [Arrival.all, List.cons_append, Buffer.overlay?_cons, overrun, Option.bind_none]
  · exact asks_once missing
  · rw [received_cons, received_nil, brought]
    omega
  · rw [received_cons, received_nil, brought]
    apply iff_of_false
    · omega
    · intro both
      have fits := both.1 _ List.mem_cons_self
      omega

/-- A round that stores a part of what is missing, and the rounds after it. -/
theorem follows_of_part {filled : RevBuf} {rest : Arrival}
    (stored : Buffer.store? revBuf 0 (bytes.take missing) = some filled)
    (follows : Follows (missing - (bytes.take missing).length) filled later rest
      (rcvContinue transfersize left filled (rcvedLen + (bytes.take missing).length) later)) :
    Follows missing revBuf (.data bytes :: later)
      ⟨bytes.take missing :: rest.pieces, rest.ending⟩
      (rcvContinue transfersize (left + 1) revBuf rcvedLen (.data bytes :: later)) := by
  have count : transfersize - rcvedLen = missing := by omega
  have more : transfersize > rcvedLen + (bytes.take missing).length := by omega
  have fits := Buffer.fits_of_store? stored
  rw [Nat.zero_add] at fits
  have round : rcvContinue transfersize (left + 1) revBuf rcvedLen (.data bytes :: later) =
      let next := rcvContinue transfersize left filled
        (rcvedLen + (bytes.take missing).length) later
      ⟨missing :: next.asked, next.later, next.outcome⟩ := by
    simp only [rcvContinue, count, Int.toNat_natCast, something, ↓reduceIte, stored, more]
  have together : (rcvContinue transfersize (left + 1) revBuf rcvedLen
        (.data bytes :: later)).received (.data bytes :: later) =
      (bytes.take missing).length + (rcvContinue transfersize left filled
        (rcvedLen + (bytes.take missing).length) later).received later := by
    rw [round]
    exact received_cons _ _ _ _ _ _
  have smaller := follows.received_le
  refine ⟨?_, ?_, ?_, ?_⟩
  · simp only [Arrival.all, List.cons_append, Buffer.overlay?_cons, stored, Option.bind_some,
      round]
    exact follows.outcome
  · rw [round]
    intro asked member
    rcases List.mem_cons.mp member with same | inRest
    · omega
    · have bound := follows.asks asked inRest
      omega
  · omega
  · rw [List.forall_mem_cons, and_iff_right fits, ← follows.received_eq, together]
    omega

end

/-- By induction on the rounds. -/
theorem rcvContinue_follows {missing : Nat} (revBuf : RevBuf) (transfersize rcvedLen : Int)
    (left : Nat) (reads : List SinkRead) (positive : 0 < missing)
    (total : transfersize = rcvedLen + missing) :
    Follows missing revBuf reads (arrival missing left reads)
      (rcvContinue transfersize left revBuf rcvedLen reads) := by
  have count : transfersize - rcvedLen = missing := by omega
  induction left generalizing missing revBuf rcvedLen reads with
  | zero =>
      apply follows_of_nothing positive id rfl
      · intro asked member
        exact absurd member List.not_mem_nil
      · exact received_nil _ _ _
  | succ left ih =>
      have asksOnce : ∀ asked ∈ [transfersize - rcvedLen], asked ≤ (missing : Int) := by
        rw [count]
        exact asks_once missing
      cases reads with
      | nil => exact follows_of_nothing positive id rfl asksOnce rfl
      | cons read later =>
          cases read with
          | failed => exact follows_of_nothing positive id rfl asksOnce rfl
          | data bytes =>
              by_cases nothing : bytes.take missing = []
              · have round : rcvContinue transfersize (left + 1) revBuf rcvedLen
                    (.data bytes :: later) =
                      ⟨[transfersize - rcvedLen], later, .ok (0, revBuf)⟩ := by
                  simp only [rcvContinue, count, Int.toNat_natCast, nothing, ↓reduceIte]
                simp only [round, arrival, nothing, ↓reduceIte]
                rw [count] at asksOnce ⊢
                apply follows_of_nothing positive id rfl asksOnce
                rw [received_cons, received_nil]
                exact congrArg List.length nothing
              · have short : (bytes.take missing).length ≤ missing := List.length_take_le _ _
                rcases Nat.lt_or_eq_of_le short with part | enough
                · simp only [arrival, nothing, Nat.ne_of_lt part, ↓reduceIte]
                  cases stored : Buffer.store? revBuf 0 (bytes.take missing) with
                  | none =>
                      exact follows_of_overrun revBuf transfersize rcvedLen left bytes later
                        nothing total part stored _
                  | some filled =>
                      apply follows_of_part revBuf transfersize rcvedLen left bytes later nothing
                        total part stored
                      apply ih
                      · omega
                      · omega
                      · omega
                · simp only [arrival, nothing, enough, ↓reduceIte]
                  exact follows_of_whole revBuf transfersize rcvedLen left bytes later positive
                    total enough

end ScpiVxiTmc
