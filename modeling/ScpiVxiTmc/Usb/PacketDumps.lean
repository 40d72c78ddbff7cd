import ScpiVxiTmc.Usb.CutRound

set_option autoImplicit false

/- What `empty_out_buf` prints of the packets of a response. The count for the packets
behind the first is that of a packet with a header, which they do not have. -/
namespace ScpiVxiTmc

open Machine

/-- `empty_out_buf` on an array of so many bytes: the count it returns; none where it
reads behind the array. -/
def emptyOutBuf (size nbytes : Nat) : Option Nat := if nbytes ≤ size then some nbytes else none

/-- How much is printed of the packet that the next step sends, out of `rev_buf` or
`tmp_buf`. -/
def Sender.dump : Sender → Nat
  | .called _ => 0
  | .headed _ total => Align.up (min total usbTmcDataMax + usbTmcHeaderLen)
  | .looping _ total sended =>
      if sended < total then Align.up (min (total - sended) usbBufsize + usbTmcHeaderLen) else 0
  | .returned _ _ => 0

/-- What is printed in so many steps. -/
def dumpsIn (s : Sending) : Nat → List Nat
  | 0 => []
  | steps + 1 => s.sender.dump :: (senderStep s).elim [] fun done => dumpsIn done.2 steps

/-- What is printed of a response, in all the steps that it may take. -/
def responseDumps (a : Adapter) (revBuf : RevBuf) : List Nat :=
  dumpsIn ⟨a, .called revBuf⟩ (Sender.left (scpiMsgReponseAvailLen a).toNat (.called revBuf))

/-- What is printed of a response that is cut off: so much of the last packet. -/
def cutDumps (a : Adapter) (revBuf : RevBuf) (steps printed : Nat) : List Nat :=
  dumpsIn ⟨a, .called revBuf⟩ (steps - 1) ++
    ((dumpsIn ⟨a, .called revBuf⟩ steps).drop (steps - 1)).map (min printed)

/-- Some dump reads behind its array. -/
def dumpsStray (dumps : List Nat) : Bool :=
  dumps.any fun nbytes => (emptyOutBuf usbBufsize nbytes).isNone

/-- A response whose second packet has more than 500 bytes. -/
def TooLong (a : Adapter) (revBuf : RevBuf) : Prop :=
  (UsbTmcBulkHeader.ofBuf revBuf).bmTransferAttributes &&& attribTermchar = 0 ∧
    1001 ≤ scpiMsgReponseAvailLen a

theorem dumpsStray_iff {dumps : List Nat} :
    dumpsStray dumps = true ↔ ∃ nbytes ∈ dumps, usbBufsize < nbytes := by
  have past (nbytes : Nat) : (emptyOutBuf usbBufsize nbytes).isNone = true ↔
      usbBufsize < nbytes := by
    by_cases inside : nbytes ≤ usbBufsize
    · simp [emptyOutBuf, inside, Nat.not_lt.mpr inside]
    · simp [emptyOutBuf, inside, Nat.lt_of_not_le inside]
  simp only [dumpsStray, List.any_eq_true, past]

theorem dumpsIn_zero (s : Sending) : ¬ ∃ nbytes ∈ dumpsIn s 0, usbBufsize < nbytes := by
  rintro ⟨_, printed, _⟩
  cases printed

theorem dumpsIn_succ {s after : Sending} {writes : List (List UInt8)} {steps : Nat}
    (moved : senderStep s = some (writes, after)) :
    (∃ nbytes ∈ dumpsIn s (steps + 1), usbBufsize < nbytes) ↔
      usbBufsize < s.sender.dump ∨ ∃ nbytes ∈ dumpsIn after steps, usbBufsize < nbytes := by
  simp only [dumpsIn, moved, Option.elim_some, List.mem_cons, exists_eq_or_imp]

theorem dumpsIn_returned {a : Adapter} {retValue : Int} {revBuf : RevBuf} {steps : Nat} :
    ¬ ∃ nbytes ∈ dumpsIn ⟨a, .returned retValue revBuf⟩ steps, usbBufsize < nbytes := by
  cases steps with
  | zero => exact dumpsIn_zero _
  | succ steps =>
      rintro ⟨nbytes, printed, past⟩
      obtain rfl := List.mem_singleton.mp printed
      exact absurd (show 512 < 0 from past) (by decide)

/-- By induction on the steps; where the next packet does not stray, it is the last. -/
theorem dumpsIn_looping {a : Adapter} {revBuf : RevBuf} {total sended steps : Nat} :
    (∃ nbytes ∈ dumpsIn ⟨a, .looping revBuf total sended⟩ steps, usbBufsize < nbytes) ↔
      501 ≤ total - sended ∧ 1 ≤ steps := by
  induction steps generalizing a sended with
  | zero => exact iff_of_false (dumpsIn_zero _) fun both => absurd both.2 (by decide)
  | succ steps ih =>
      by_cases unsent : sended < total
      · have moved : ∃ writes next, senderStep ⟨a, .looping revBuf total sended⟩ =
            some (writes, ⟨next, .looping revBuf total (sended + min (total - sended) 512)⟩) := by
          simp only [senderStep, unsent, ↓reduceIte]
          exact ⟨_, _, rfl⟩
        obtain ⟨writes, next, moved⟩ := moved
        have dump : (Sender.looping revBuf total sended).dump =
            (min (total - sended) 512 + 12 + 3) / 4 * 4 := if_pos unsent
        rw [dumpsIn_succ moved, ih, dump]
        show 512 < _ ∨ _ ↔ _
        omega
      · have moved : senderStep ⟨a, .looping revBuf total sended⟩ =
            some ([], ⟨a, .returned 0 revBuf⟩) := by
          simp only [senderStep, unsent, ↓reduceIte]
        have dump : (Sender.looping revBuf total sended).dump = 0 := if_neg unsent
        rw [dumpsIn_succ moved, or_iff_left dumpsIn_returned, dump]
        show 512 < 0 ↔ _
        omega

theorem dumpsIn_headed {a : Adapter} {revBuf : RevBuf} {total steps : Nat} :
    (∃ nbytes ∈ dumpsIn ⟨a, .headed revBuf total⟩ steps, usbBufsize < nbytes) ↔
      1001 ≤ total ∧ 2 ≤ steps := by
  cases steps with
  | zero => exact iff_of_false (dumpsIn_zero _) fun both => absurd both.2 (by decide)
  | succ steps =>
      have dump : (Sender.headed revBuf total).dump = (min total 500 + 12 + 3) / 4 * 4 := rfl
      rw [dumpsIn_succ rfl, dumpsIn_looping, dump]
      show 512 < _ ∨ 501 ≤ total - min total 500 ∧ _ ↔ _
      omega

/-- The second packet strays, the third step, or none does. -/
theorem dumpsIn_called {a : Adapter} {revBuf : RevBuf} {steps : Nat} :
    (∃ nbytes ∈ dumpsIn ⟨a, .called revBuf⟩ steps, usbBufsize < nbytes) ↔
      TooLong a revBuf ∧ 3 ≤ steps := by
  cases steps with
  | zero => exact iff_of_false (dumpsIn_zero _) fun both => absurd both.2 (by decide)
  | succ steps =>
      have nothing : ¬ usbBufsize < (Sender.called revBuf).dump := by
        show ¬ 512 < 0
        decide
      obtain ⟨_, back, empty⟩ | ⟨_, goes, asks, _⟩ := senderStep_called a revBuf
      · rw [dumpsIn_succ back, or_iff_right nothing]
        refine iff_of_false dumpsIn_returned ?_
        rintro ⟨⟨asks, long⟩, _⟩
        have short := empty asks
        omega
      · rw [dumpsIn_succ goes, or_iff_right nothing, dumpsIn_headed, TooLong, and_iff_right asks]
        omega

/-- A response is printed past its array exactly where it is too long. -/
theorem responseDumps_stray_iff {a : Adapter} {revBuf : RevBuf} :
    dumpsStray (responseDumps a revBuf) = true ↔ TooLong a revBuf := by
  rw [dumpsStray_iff, responseDumps, dumpsIn_called]
  exact and_iff_left (Nat.le_add_right 3 _)

theorem dumpsIn_take (s : Sending) (steps : Nat) :
    (dumpsIn s (steps + 1)).take steps = dumpsIn s steps := by
  induction steps generalizing s with
  | zero => rfl
  | succ steps ih =>
      rw [dumpsIn, dumpsIn, List.take_succ_cons]
      cases senderStep s with
      | none => rw [Option.elim_none, Option.elim_none, List.take_nil]
      | some done => rw [Option.elim_some, Option.elim_some, ih]

/-- One that is cut off has to have got behind its second packet, or far into it. -/
theorem cutDumps_stray_iff {a : Adapter} {revBuf : RevBuf} {steps printed : Nat} :
    dumpsStray (cutDumps a revBuf steps printed) = true ↔
      TooLong a revBuf ∧ (4 ≤ steps ∨ steps = 3 ∧ usbBufsize < printed) := by
  have parts : (∃ nbytes ∈ cutDumps a revBuf steps printed, usbBufsize < nbytes) ↔
      (∃ nbytes ∈ dumpsIn ⟨a, .called revBuf⟩ (steps - 1), usbBufsize < nbytes) ∨
        usbBufsize < printed ∧ ∃ nbytes ∈ (dumpsIn ⟨a, .called revBuf⟩ steps).drop (steps - 1),
          usbBufsize < nbytes := by
    simp only [cutDumps, List.mem_append, or_and_right, exists_or, List.mem_map,
      exists_exists_and_eq_and, Nat.lt_min]
    refine or_congr Iff.rfl ⟨?_, ?_⟩
    · rintro ⟨nbytes, last, far, past⟩
      exact ⟨far, nbytes, last, past⟩
    · rintro ⟨far, nbytes, last, past⟩
      exact ⟨nbytes, last, far, past⟩
  rw [dumpsStray_iff, parts, dumpsIn_called]
  constructor
  · rintro (⟨long, before⟩ | ⟨far, nbytes, last, past⟩)
    · exact ⟨long, Or.inl (by omega)⟩
    · have made := dumpsIn_called.mp ⟨nbytes, List.mem_of_mem_drop last, past⟩
      refine ⟨made.1, ?_⟩
      omega
  · rintro ⟨long, behind | ⟨rfl, far⟩⟩
    · exact Or.inl ⟨long, by omega⟩
    · -- the dump that strays is not among the first two, so it is the last
      obtain ⟨nbytes, member, past⟩ := dumpsIn_called.mpr ⟨long, Nat.le_refl 3⟩
      refine Or.inr ⟨far, nbytes, ?_, past⟩
      rw [← List.take_append_drop 2 (dumpsIn _ 3), List.mem_append, dumpsIn_take] at member
      refine member.resolve_left fun early => ?_
      exact absurd (dumpsIn_called.mp ⟨nbytes, early, past⟩).2 (by decide)

end ScpiVxiTmc
