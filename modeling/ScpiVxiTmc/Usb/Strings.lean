import ScpiVxiTmc.Lib.Buffer
import ScpiVxiTmc.Lib.CString

set_option autoImplicit false

namespace ScpiVxiTmc

/-- `USB_DT_STRING` -/
abbrev usbDtString : UInt8 := 3

/-- `EINVAL` -/
abbrev einval : Int := 22

/-- `buf` of `handle_control` -/
abbrev ReplyBuf := Vector UInt8 256

/-- A C string: what can be read from its pointer on, a terminator in it. -/
structure CText where
  bytes : List UInt8
  terminated : 0 ∈ bytes

/-- `struct usb_string`; `s` is none for a null pointer. -/
structure UsbString where
  id : UInt8
  s : Option CText

/-- `struct usb_gadget_strings`, with the array behind `strings` as far as it goes. -/
structure UsbGadgetStrings where
  language : UInt16
  strings : Option (List UsbString)

/-- The two bytes that `put_unaligned_le16` stores. -/
def le16Bytes (val : UInt16) : List UInt8 := [val.toUInt8, (val >>> 8).toUInt8]

/-- The next byte of a sequence and its bits; the inner none is `fail`. There is
no result when it would be read from behind the memory of the string. -/
def continuation : List UInt8 → Option (Option (UInt16 × List UInt8))
  | [] => none
  | c :: s => some (if c &&& 0xc0 ≠ 0xc0 then none else some ((c &&& 0x3f).toUInt16, s))

/-- One round of the loop in `utf8_to_utf16le`, `c` read already. -/
def utf8Uchar (c : UInt8) (s : List UInt8) : Option (Option (UInt16 × List UInt8)) :=
  if c &&& 0x80 ≠ 0 then
    if c &&& 0xe0 = 0xc0 then
      (continuation s).map fun second => second.map fun (bits, s) =>
        ((c &&& 0x1f).toUInt16 <<< 6 ||| bits, s)
    else if c &&& 0xf0 = 0xe0 then
      (continuation s).bind fun
        | none => some none
        | some (bits, s) =>
            (continuation s).map fun third => third.bind fun (lastBits, s) =>
              let uchar := (c &&& 0x0f).toUInt16 <<< 12 ||| bits <<< 6 ||| lastBits
              if 0xd800 ≤ uchar ∧ uchar ≤ 0xdfff then none else some (uchar, s)
    else some none
  else some (some (c.toUInt16, s))

/-- `utf8_to_utf16le`: its result and the units it stored, also when it fails. -/
def utf8ToUtf16le : List UInt8 → Nat → Option (Int × List UInt16)
  | _, 0 => some (0, [])
  | [], _ + 1 => none
  | c :: s, len + 1 =>
      if c = 0 then some (0, [])
      else
        (utf8Uchar c s).bind fun
          | none => some (-1, [])
          | some (uchar, rest) =>
              (utf8ToUtf16le rest len).map fun later =>
                (if later.1 < 0 then -1 else later.1 + 1, uchar :: later.2)

/-- The search loop, where it ends. A null string ends it and is what it finds;
nothing else tells it where the array does. -/
def findString (id : Nat) : List UsbString → Option (Option CText)
  | [] => none
  | entry :: rest =>
      match entry.s with
      | none => some none
      | some s => if entry.id.toNat = id then some (some s) else findString id rest

/-- The descriptor of a string that was found. -/
def stringDescriptor (s : CText) (buf : ReplyBuf) : Option (Int × ReplyBuf) :=
  (CString.strlen s.bytes).bind fun found =>
    let len := if found > 126 then 126 else found
    (Buffer.store? buf 2 (List.replicate (2 * len) 0)).bind fun zeroed =>
      (utf8ToUtf16le s.bytes len).bind fun text =>
        (Buffer.store? zeroed 2 (text.2.flatMap le16Bytes)).bind fun filled =>
          if text.1 < 0 then some (-einval, filled)
          else
            let size := UInt8.ofInt ((text.1 + 1) * 2)
            (Buffer.store? filled 0 [size, usbDtString]).map fun done => (size.toNat, done)

/-- `usb_gadget_get_string`, with `buf` as it leaves it; none if it leaves an array. -/
def usbGadgetGetString (table : UsbGadgetStrings) (id : Nat) (buf : ReplyBuf) :
    Option (Int × ReplyBuf) :=
  if id = 0 then
    (Buffer.store? buf 0 ([4, usbDtString] ++ le16Bytes table.language)).map fun done => (4, done)
  else
    match table.strings with
    | none => some (-einval, buf)
    | some strings =>
        (findString id strings).bind fun
          | none => some (-einval, buf)
          | some s => stringDescriptor s buf

/-- No entry of the array ends the search for `id`. -/
def SearchLeaves (table : UsbGadgetStrings) (id : Nat) : Prop :=
  ∃ strings, table.strings = some strings ∧
    ∀ entry ∈ strings, entry.s ≠ none ∧ entry.id.toNat ≠ id

theorem findString_eq_none {id : Nat} {strings : List UsbString} :
    findString id strings = none ↔
      ∀ entry ∈ strings, entry.s ≠ none ∧ entry.id.toNat ≠ id := by
  induction strings with
  | nil => simp [findString]
  | cons entry rest ih =>
      rw [List.forall_mem_cons, ← ih]
      cases text : entry.s with
      | none => simp [findString, text]
      | some s =>
          by_cases same : entry.id.toNat = id
          · simp [findString, text, same]
          · simp [findString, text, same]

/-- A zero byte passes no test for a continuation, so a sequence ends in front
of the terminator or fails at it. -/
theorem continuation_of_terminated {s : List UInt8} (terminated : 0 ∈ s) :
    ∃ outcome, continuation s = some outcome ∧
      ∀ bits rest, outcome = some (bits, rest) → 0 ∈ rest := by
  cases s with
  | nil => cases terminated
  | cons c s =>
      refine ⟨_, rfl, ?_⟩
      intro bits rest passed
      split at passed
      · cases passed
      · rename_i marked
        rw [Option.some.injEq, Prod.mk.injEq] at passed
        rcases List.mem_cons.mp terminated with first | later
        · rw [← first] at marked
          exact absurd (by decide) marked
        · exact passed.2 ▸ later

theorem utf8Uchar_of_terminated (c : UInt8) {s : List UInt8} (terminated : 0 ∈ s) :
    ∃ outcome, utf8Uchar c s = some outcome ∧
      ∀ uchar rest, outcome = some (uchar, rest) → 0 ∈ rest := by
  obtain ⟨second, found, later⟩ := continuation_of_terminated terminated
  unfold utf8Uchar
  split
  · split
    · -- two bytes
      rw [found]
      refine ⟨_, rfl, ?_⟩
      intro uchar rest passed
      cases second with
      | none => cases passed
      | some pair =>
          simp only [Option.map_some, Option.some.injEq, Prod.mk.injEq] at passed
          exact later _ _ (by rw [← passed.2])
    · split
      · -- three bytes
        rw [found, Option.bind_some]
        cases second with
        | none =>
            refine ⟨none, rfl, ?_⟩
            intro uchar rest passed
            cases passed
        | some pair =>
            obtain ⟨third, foundThird, last⟩ :=
              continuation_of_terminated (later pair.1 pair.2 rfl)
            simp only [foundThird, Option.map_some]
            refine ⟨_, rfl, ?_⟩
            intro uchar rest passed
            cases third with
            | none => cases passed
            | some lastPair =>
                rw [Option.bind_some] at passed
                split at passed
                · cases passed
                · rw [Option.some.injEq, Prod.mk.injEq] at passed
                  exact last _ _ (by rw [← passed.2])
      · refine ⟨none, rfl, ?_⟩
        intro uchar rest passed
        cases passed
  · refine ⟨_, rfl, ?_⟩
    intro uchar rest passed
    rw [Option.some.injEq, Prod.mk.injEq] at passed
    exact passed.2 ▸ terminated

/-- A terminated string is converted without a look behind its terminator. Each
round stores one unit, and the result counts them unless it is negative. -/
theorem utf8ToUtf16le_of_terminated {s : List UInt8} (len : Nat) (terminated : 0 ∈ s) :
    ∃ count units, utf8ToUtf16le s len = some (count, units) ∧ units.length ≤ len ∧
      (count < 0 ∨ count = units.length) := by
  induction len generalizing s with
  | zero => exact ⟨0, [], by simp [utf8ToUtf16le], Nat.le_refl 0, Or.inr rfl⟩
  | succ len ih =>
      cases s with
      | nil => cases terminated
      | cons c s =>
          by_cases zero : c = 0
          · exact ⟨0, [], by simp [utf8ToUtf16le, zero], Nat.zero_le _, Or.inr rfl⟩
          · have inRest : 0 ∈ s := (List.mem_cons.mp terminated).resolve_left (Ne.symm zero)
            obtain ⟨outcome, found, later⟩ := utf8Uchar_of_terminated c inRest
            simp only [utf8ToUtf16le, zero, ↓reduceIte, found, Option.bind_some]
            cases outcome with
            | none => exact ⟨-1, [], rfl, Nat.zero_le _, Or.inl (by decide)⟩
            | some pair =>
                obtain ⟨count, units, converted, short, counted⟩ := ih (later pair.1 pair.2 rfl)
                simp only [converted, Option.map_some]
                refine ⟨_, _, rfl, Nat.succ_le_succ short, ?_⟩
                rcases counted with negative | exact
                · exact Or.inl (by simp [negative])
                · rw [List.length_cons, exact]
                  refine Or.inr ?_
                  split <;> omega

theorem flatMap_le16Bytes_length (units : List UInt16) :
    (units.flatMap le16Bytes).length = 2 * units.length := by
  induction units with
  | nil => rfl
  | cons unit rest ih =>
      rw [List.flatMap_cons, List.length_append, ih, List.length_cons]
      show 2 + 2 * rest.length = _
      omega

/-- Every store of the descriptor is inside the reply buffer; the last one puts
its length and type in front of the units. -/
theorem stringDescriptor_eq (s : CText) (buf : ReplyBuf) {found : Nat} {count : Int}
    {units : List UInt16} (scanned : CString.strlen s.bytes = some found)
    (converted : utf8ToUtf16le s.bytes (if found > 126 then 126 else found) = some (count, units))
    (short : units.length ≤ 126) :
    ∃ filled : ReplyBuf,
      (filled.toList.drop 2).take (2 * units.length) = units.flatMap le16Bytes ∧
      stringDescriptor s buf =
        if count < 0 then some (-einval, filled)
        else some (((UInt8.ofInt ((count + 1) * 2)).toNat : Int),
          Buffer.store filled 0 [UInt8.ofInt ((count + 1) * 2), usbDtString]
            (show 0 + 2 ≤ 256 by decide)) := by
  have zeroFits : 2 + (List.replicate (2 * if found > 126 then 126 else found) (0 : UInt8)).length
      ≤ 256 := by
    rw [List.length_replicate]
    split <;> omega
  have text := flatMap_le16Bytes_length units
  have textFits : 2 + (units.flatMap le16Bytes).length ≤ 256 := by omega
  refine ⟨Buffer.store (Buffer.store buf 2 _ zeroFits) 2 _ textFits, ?_, ?_⟩
  · rw [← text]
    exact Buffer.store_drop_take _ 2 _ textFits
  · simp only [stringDescriptor, scanned, Option.bind_some, Buffer.store?_of_fits _ _ _ zeroFits,
      converted, Buffer.store?_of_fits _ _ _ textFits,
      Buffer.store?_of_fits _ 0 [UInt8.ofInt ((count + 1) * 2), usbDtString]
        (show 0 + 2 ≤ 256 by decide), Option.map_some]

/-- A string that was found is served inside the reply buffer, or refused. -/
theorem stringDescriptor_returns (s : CText) (buf : ReplyBuf) :
    ∃ status done, stringDescriptor s buf = some (status, done) ∧
      (status < 0 ∨ ∃ size : UInt8, status = size.toNat) := by
  obtain ⟨found, scanned⟩ : ∃ found, CString.strlen s.bytes = some found := by
    obtain ⟨front, rest, split⟩ := List.append_of_mem s.terminated
    exact ⟨_, by rw [split, CString.strlen_append_zero]⟩
  obtain ⟨count, units, converted, short, _⟩ :=
    utf8ToUtf16le_of_terminated (if found > 126 then 126 else found) s.terminated
  have small : units.length ≤ 126 := by
    apply Nat.le_trans short
    split <;> omega
  obtain ⟨filled, _, replied⟩ := stringDescriptor_eq s buf scanned converted small
  rw [replied]
  split
  · exact ⟨_, _, rfl, Or.inl (by decide)⟩
  · exact ⟨_, _, rfl, Or.inr ⟨_, rfl⟩⟩

/-- The request for the languages is served from the table's head. -/
theorem usbGadgetGetString_languages (table : UsbGadgetStrings) (buf : ReplyBuf) :
    ∃ done, usbGadgetGetString table 0 buf = some (4, done) ∧
      done.toList.take 4 = [4, usbDtString] ++ le16Bytes table.language := by
  have fits : 0 + ([4, usbDtString] ++ le16Bytes table.language).length ≤ 256 := by
    show 0 + 4 ≤ 256
    decide
  refine ⟨Buffer.store buf 0 _ fits, ?_, Buffer.store_front_take buf _ fits⟩
  rw [usbGadgetGetString, if_pos rfl, Buffer.store?_of_fits buf 0 _ fits, Option.map_some]

/-- The search is the only way out of an array. -/
theorem usbGadgetGetString_eq_none {table : UsbGadgetStrings} {id : Nat} {buf : ReplyBuf} :
    usbGadgetGetString table id buf = none ↔ id ≠ 0 ∧ SearchLeaves table id := by
  by_cases zero : id = 0
  · obtain ⟨done, returns, _⟩ := usbGadgetGetString_languages table buf
    simp [zero, returns]
  · unfold usbGadgetGetString SearchLeaves
    simp only [zero, ↓reduceIte, ne_eq, not_false_eq_true, true_and]
    cases entries : table.strings with
    | none => simp
    | some strings =>
        simp only [Option.some.injEq, exists_eq_left', ← findString_eq_none, ← ne_eq]
        cases search : findString id strings with
        | none => simp
        | some text =>
            cases text with
            | none => simp
            | some s =>
                obtain ⟨status, done, returns, _⟩ := stringDescriptor_returns s buf
                simp [returns]

end ScpiVxiTmc
