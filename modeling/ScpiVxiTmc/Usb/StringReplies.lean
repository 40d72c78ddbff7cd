import ScpiVxiTmc.Usb.Control

set_option autoImplicit false

/- The replies to requests for strings: their form, what they are made from, and
where the search for a string ends. -/
namespace ScpiVxiTmc

namespace CText

/-- What stands in front of the terminator. -/
def text (s : CText) : List UInt8 := s.bytes.takeWhile (· ≠ 0)

/-- The string in memory that ends with its terminator. -/
def cut (s : CText) : CText := .literal s.text

theorem zero_not_mem_text (s : CText) : 0 ∉ s.text := CString.zero_not_mem_takeWhile s.bytes

theorem bytes_split (s : CText) : ∃ behind, s.bytes = s.text ++ 0 :: behind :=
  CString.exists_behind s.terminated

theorem strlen_bytes (s : CText) : CString.strlen s.bytes = some s.text.length := by
  rcases s.bytes_split with ⟨behind, split⟩
  rw [split, CString.strlen_append_zero, CString.takeWhile_eq_self.mpr s.zero_not_mem_text]

theorem cut_text (s : CText) : s.cut.text = s.text := by
  show (s.text ++ [0]).takeWhile (· ≠ 0) = s.text
  rw [List.takeWhile_append_of_pos]
  · simp
  · intro byte member
    exact decide_eq_true fun zero => s.zero_not_mem_text (zero ▸ member)

end CText

/-- What is found in front of the end of some memory is found in a larger one. -/
theorem continuation_append {s : List UInt8} {outcome : Option (UInt16 × List UInt8)}
    (more : List UInt8) (found : continuation s = some outcome) :
    continuation (s ++ more) = some (outcome.map fun pair => (pair.1, pair.2 ++ more)) := by
  cases s with
  | nil => cases found
  | cons c s =>
      cases Option.some.inj found
      rw [List.cons_append, continuation]
      split <;> rfl

theorem utf8Uchar_append {c : UInt8} {s : List UInt8} {outcome : Option (UInt16 × List UInt8)}
    (more : List UInt8) (found : utf8Uchar c s = some outcome) :
    utf8Uchar c (s ++ more) = some (outcome.map fun pair => (pair.1, pair.2 ++ more)) := by
  unfold utf8Uchar at found ⊢
  split
  · rename_i marked
    rw [if_pos marked] at found
    split
    · -- two bytes
      rename_i two
      rw [if_pos two] at found
      rcases Option.map_eq_some_iff.mp found with ⟨second, next, rfl⟩
      rw [continuation_append more next]
      cases second with
      | none => rfl
      | some pair => rfl
    · rename_i notTwo
      rw [if_neg notTwo] at found
      split
      · -- three bytes
        rename_i three
        rw [if_pos three] at found
        rcases Option.bind_eq_some_iff.mp found with ⟨second, next, found⟩
        rw [continuation_append more next, Option.bind_some]
        cases second with
        | none =>
            cases found
            rfl
        | some pair =>
            rcases Option.map_eq_some_iff.mp found with ⟨third, last, rfl⟩
            simp only [Option.map_some, continuation_append more last]
            cases third with
            | none => rfl
            | some lastPair =>
                simp only [Option.map_some, Option.bind_some]
                split <;> rfl
      · rename_i notThree
        rw [if_neg notThree] at found
        cases found
        rfl
  · rename_i plain
    rw [if_neg plain] at found
    cases found
    rfl

theorem utf8ToUtf16le_append {s : List UInt8} {len : Nat} {result : Int × List UInt16}
    (more : List UInt8) (found : utf8ToUtf16le s len = some result) :
    utf8ToUtf16le (s ++ more) len = some result := by
  induction len generalizing s result with
  | zero => exact found
  | succ len ih =>
      cases s with
      | nil => cases found
      | cons c s =>
          rw [List.cons_append]
          unfold utf8ToUtf16le at found ⊢
          split
          · rename_i zero
            rw [if_pos zero] at found
            exact found
          · rename_i nonzero
            rw [if_neg nonzero] at found
            rcases Option.bind_eq_some_iff.mp found with ⟨outcome, next, found⟩
            rw [utf8Uchar_append more next, Option.bind_some]
            cases outcome with
            | none => exact found
            | some pair =>
                rcases Option.map_eq_some_iff.mp found with ⟨later, converted, rfl⟩
                simp only [Option.map_some, ih converted]

/-- The transcoder looks at no byte behind the terminator. -/
theorem utf8ToUtf16le_cut (s : CText) (len : Nat) :
    utf8ToUtf16le s.cut.bytes len = utf8ToUtf16le s.bytes len := by
  rcases s.bytes_split with ⟨behind, split⟩
  rcases utf8ToUtf16le_of_terminated len s.cut.terminated with ⟨count, units, found, _⟩
  have whole : s.bytes = s.cut.bytes ++ behind := by
    rw [split]
    exact (List.append_assoc s.text [0] behind).symm
  rw [whole, utf8ToUtf16le_append behind found, found]

theorem stringDescriptor_cut (s : CText) (buf : ReplyBuf) :
    stringDescriptor s.cut buf = stringDescriptor s buf := by
  simp only [stringDescriptor, CText.strlen_bytes, CText.cut_text, utf8ToUtf16le_cut]

/-- A descriptor of `units`, its first byte its length. -/
def descriptorOf (units : List UInt16) : List UInt8 :=
  UInt8.ofNat (2 * (units.length + 1)) :: usbDtString :: units.flatMap le16Bytes

theorem descriptorOf_length (units : List UInt16) :
    (descriptorOf units).length = 2 * (units.length + 1) := by
  rw [descriptorOf, List.length_cons, List.length_cons, flatMap_le16Bytes_length]
  omega

/-- How many units `usb_gadget_get_string` lets the transcoder store. -/
def unitLimit (s : CText) : Nat := if s.text.length > 126 then 126 else s.text.length

/-- Either the transcoder fails, or its units make the descriptor. -/
theorem stringDescriptor_replies (s : CText) (buf : ReplyBuf) :
    ∃ count units, utf8ToUtf16le s.bytes (unitLimit s) = some (count, units) ∧
      units.length ≤ 126 ∧
      (count < 0 ∧ (∃ done, stringDescriptor s buf = some (-einval, done)) ∨
        count = units.length ∧ ∃ done,
          stringDescriptor s buf = some (((descriptorOf units).length : Int), done) ∧
          done.toList.take (descriptorOf units).length = descriptorOf units) := by
  rcases utf8ToUtf16le_of_terminated (unitLimit s) s.terminated with
    ⟨count, units, converted, short, counted⟩
  have small : units.length ≤ 126 := by
    apply Nat.le_trans short
    rw [unitLimit]
    split <;> omega
  rcases stringDescriptor_eq s buf s.strlen_bytes converted small with ⟨filled, text, replied⟩
  refine ⟨count, units, converted, small, ?_⟩
  rcases counted with negative | exact
  · rw [if_pos negative] at replied
    exact Or.inl ⟨negative, filled, replied⟩
  · have nonnegative : ¬ count < 0 := by omega
    have length := descriptorOf_length units
    have size : UInt8.ofInt ((count + 1) * 2) = UInt8.ofNat (2 * (units.length + 1)) := by
      rw [exact, UInt8.ofInt]
      congr 1
      omega
    have sizeNat : (UInt8.ofNat (2 * (units.length + 1))).toNat = (descriptorOf units).length := by
      rw [length, UInt8.toNat_ofNat_of_lt']
      show _ < 256
      omega
    rw [if_neg nonnegative, size, sizeNat] at replied
    refine Or.inr ⟨exact, _, replied, ?_⟩
    have more : 2 * (units.length + 1) = 2 * units.length + 2 := by omega
    rw [Buffer.store_front_toList, length, more, descriptorOf, more, ← text]
    rfl

/-- The tables that end with a null string. -/
def UsbGadgetStrings.EndsInNull (table : UsbGadgetStrings) : Prop :=
  ∃ front last, table.strings = some (front ++ [last]) ∧ last.s = none

/-- The same table, its strings in memory that ends with their terminators. -/
def UsbGadgetStrings.cut (table : UsbGadgetStrings) : UsbGadgetStrings :=
  { table with
    strings := table.strings.map fun entries => entries.map fun entry =>
      { entry with s := entry.s.map CText.cut } }

/-- A standard request for a string. -/
structure UsbCtrlrequest.AsksString (setup : UsbCtrlrequest) : Prop where
  type : setup.bRequestType = usbDirIn
  request : setup.bRequest = usbReqGetDescriptor
  kind : setup.wValue >>> 8 = usbDtString.toUInt16

/-- The id of the string, from the low byte of `wValue`. -/
def UsbCtrlrequest.stringId (setup : UsbCtrlrequest) : Nat := (setup.wValue &&& 0xff).toNat

section
variable {τ : Type} [DecidableEq τ] (setup : UsbCtrlrequest) (gadget : Gadget τ)

/-- What `handle_control` does with the result of `usb_gadget_get_string`. -/
def replyString (got : Int × ReplyBuf) : ControlRun τ :=
  if got.1 < 0 then stall setup gadget
  else
    let tmp := if (setup.wLength.toNat : Int) < got.1 then setup.wLength.toNat else got.1.toNat
    answer gadget (got.2.toList.take tmp)

variable {setup}

theorem handleControl_string (asks : setup.AsksString) (table : UsbGadgetStrings)
    (env : ControlEnv τ) :
    handleControl setup gadget table env =
      if setup.stringId ≠ 0 ∧ setup.wIndex ≠ table.language then some (stall setup gadget)
      else (usbGadgetGetString table setup.stringId env.buf).map (replyString setup gadget) := by
  have notInterface : usbDirIn ≠ classInterfaceIn := by decide
  have notEndpoint : usbDirIn ≠ classEndpointIn := by decide
  simp only [handleControl, asks.type, notInterface, notEndpoint, standardRequest, asks.request,
    getDescriptor, asks.kind, ne_eq, not_true_eq_false, ↓reduceIte]
  rfl

omit [DecidableEq τ] in
/-- A descriptor at the front of the buffer goes out as far as the host takes it. -/
theorem replyString_of_front (buf : ReplyBuf) (descriptor : List UInt8)
    (front : buf.toList.take descriptor.length = descriptor) :
    replyString setup gadget ((descriptor.length : Int), buf) =
      answer gadget (descriptor.take (min setup.wLength.toNat descriptor.length)) := by
  have nonnegative : ¬ ((descriptor.length : Int) < 0) := by omega
  simp only [replyString, nonnegative, ↓reduceIte, Int.toNat_natCast, Int.ofNat_lt]
  congr 1
  split
  · rename_i less
    rw [Nat.min_eq_left (Nat.le_of_lt less)]
    conv_rhs => rw [← front]
    rw [List.take_take, Nat.min_eq_left (Nat.le_of_lt less)]
  · rename_i enough
    rw [Nat.min_eq_right (Nat.le_of_not_lt enough), front, List.take_length]

end

/-- The form of a reply: its length, the type, and for a string of the table the
units that the transcoder stored for it. -/
structure DescriptorFormed (table : UsbGadgetStrings) (id : Nat) (descriptor : List UInt8) :
    Prop where
  size : descriptor.head? = some (UInt8.ofNat descriptor.length)
  byte : descriptor.length < 256
  kind : descriptor[1]? = some usbDtString
  even : id ≠ 0 → descriptor.length % 2 = 0 ∧ 2 ≤ descriptor.length ∧ descriptor.length ≤ 254
  text : id ≠ 0 → ∃ entries s units, table.strings = some entries ∧
    findString id entries = some (some s) ∧
    utf8ToUtf16le s.bytes (unitLimit s) = some ((units.length : Int), units) ∧
    descriptor.length = 2 * (units.length + 1) ∧ units.length ≤ 126 ∧
    descriptor.drop 2 = units.flatMap le16Bytes

theorem descriptorOf_formed {table : UsbGadgetStrings} {id : Nat} {entries : List UsbString}
    {s : CText} {units : List UInt16} (listed : table.strings = some entries)
    (found : findString id entries = some (some s))
    (converted : utf8ToUtf16le s.bytes (unitLimit s) = some ((units.length : Int), units))
    (short : units.length ≤ 126) : DescriptorFormed table id (descriptorOf units) := by
  have length := descriptorOf_length units
  refine ⟨?_, by omega, rfl, fun _ => by omega, fun _ => ?_⟩
  · rw [length]
    rfl
  · exact ⟨entries, s, units, listed, found, converted, length, short, rfl⟩

/-- A request for a string is served from inside the strings and the buffer, the
same if each string is followed by nothing, and stalls or sends a descriptor. -/
structure ServedInBounds {τ : Type} [DecidableEq τ] (table : UsbGadgetStrings)
    (setup : UsbCtrlrequest) (gadget : Gadget τ) (env : ControlEnv τ) : Prop where
  reads : handleControl setup gadget table.cut env = handleControl setup gadget table env
  replies : handleControl setup gadget table env = some (stall setup gadget) ∨
    ∃ descriptor, handleControl setup gadget table env =
        some (answer gadget (descriptor.take (min setup.wLength.toNat descriptor.length))) ∧
      DescriptorFormed table setup.stringId descriptor

/-- Cutting the strings does not change what is found. -/
theorem findString_cut (id : Nat) (entries : List UsbString) :
    findString id (entries.map fun entry => { entry with s := entry.s.map CText.cut }) =
      (findString id entries).map (Option.map CText.cut) := by
  induction entries with
  | nil => rfl
  | cons entry rest ih =>
      rw [List.map_cons, findString, findString]
      cases entry.s with
      | none => rfl
      | some s =>
          simp only [Option.map_some]
          split
          · rfl
          · exact ih

theorem usbGadgetGetString_cut (table : UsbGadgetStrings) (id : Nat) (buf : ReplyBuf) :
    usbGadgetGetString table.cut id buf = usbGadgetGetString table id buf := by
  unfold usbGadgetGetString UsbGadgetStrings.cut
  split
  · rfl
  · cases table.strings with
    | none => rfl
    | some entries =>
        simp only [Option.map_some, findString_cut]
        cases findString id entries with
        | none => rfl
        | some found =>
            cases found with
            | none => rfl
            | some s => exact stringDescriptor_cut s buf

/-- A null string ends every search, at it or before it. -/
theorem findString_of_null {id : Nat} {entries : List UsbString}
    (ends : ∃ entry ∈ entries, entry.s = none) : ∃ found, findString id entries = some found := by
  apply Option.ne_none_iff_exists'.mp
  intro leaves
  rcases ends with ⟨entry, member, null⟩
  exact (findString_eq_none.mp leaves entry member).1 null

/-- Whatever the strings hold and the host asks for. -/
theorem strings_served_in_bounds {τ : Type} [DecidableEq τ] (table : UsbGadgetStrings)
    (setup : UsbCtrlrequest) (gadget : Gadget τ) (env : ControlEnv τ) (asks : setup.AsksString)
    (ends : table.EndsInNull) : ServedInBounds table setup gadget env := by
  have served := handleControl_string gadget asks table env
  constructor
  · rw [served, handleControl_string gadget asks, usbGadgetGetString_cut]
    rfl
  · rw [served]
    split
    · exact Or.inl rfl
    · by_cases zero : setup.stringId = 0
      · -- the languages
        rcases usbGadgetGetString_languages table env.buf with ⟨done, languages, front⟩
        refine Or.inr ⟨[4, usbDtString] ++ le16Bytes table.language, ?_, ?_⟩
        · rw [zero, languages, Option.map_some]
          exact congrArg some (replyString_of_front gadget done
            ([4, usbDtString] ++ le16Bytes table.language) front)
        · exact ⟨rfl, show 4 < 256 by decide, rfl, fun other => absurd zero other,
            fun other => absurd zero other⟩
      · rcases ends with ⟨early, last, listed, null⟩
        have search : ∃ found, findString setup.stringId (early ++ [last]) = some found :=
          findString_of_null ⟨last, List.mem_concat_self, null⟩
        rcases search with ⟨found, search⟩
        rw [usbGadgetGetString, if_neg zero, listed]
        simp only [search, Option.bind_some]
        cases found with
        | none => exact Or.inl rfl
        | some s =>
            rcases stringDescriptor_replies s env.buf with
              ⟨count, units, converted, short, failed | ⟨exact, done, replied, front⟩⟩
            · rcases failed with ⟨_, done, refused⟩
              simp only [refused]
              exact Or.inl rfl
            · refine Or.inr ⟨descriptorOf units, ?_, ?_⟩
              · simp only [replied, Option.map_some]
                exact congrArg some (replyString_of_front gadget done _ front)
              · exact descriptorOf_formed listed search (exact ▸ converted) short

/-- `stringtab` with the end that the search looks for. -/
def endedStrings : UsbGadgetStrings := ⟨0x0409, some (stringtab ++ [⟨0, none⟩])⟩

theorem stringSix_served_in_bounds : ServedInBounds endedStrings stringSix idleGadget bareEnv :=
  strings_served_in_bounds endedStrings stringSix idleGadget bareEnv ⟨rfl, rfl, rfl⟩
    ⟨stringtab, ⟨0, none⟩, rfl, rfl⟩

/-- The request makes `handle_control` search the table. -/
def Searches (table : UsbGadgetStrings) (setup : UsbCtrlrequest) : Prop :=
  setup.stringId ≠ 0 ∧ setup.wIndex = table.language

/-- What a search of exactly these entries answers. -/
def searchAnswer {τ : Type} (entries : List UsbString) (setup : UsbCtrlrequest)
    (gadget : Gadget τ) (env : ControlEnv τ) : Option (ControlRun τ) :=
  match entries.find? (fun entry => entry.id.toNat = setup.stringId) with
  | none => some (stall setup gadget)
  | some entry =>
      entry.s.bind fun s => (stringDescriptor s env.buf).map (replyString setup gadget)

/-- A search ends inside its table, with the first entry that has the id. -/
def SearchStays {τ : Type} [DecidableEq τ] (table : UsbGadgetStrings) (entries : List UsbString)
    (setup : UsbCtrlrequest) (gadget : Gadget τ) (env : ControlEnv τ) : Prop :=
  (∃ run, handleControl setup gadget table env = some run) ∧
    (Searches table setup →
      handleControl setup gadget table env = searchAnswer entries setup gadget env)

/-- Among entries that all have a string the first with the id is found. -/
theorem findString_of_texts (id : Nat) {entries : List UsbString}
    (texts : ∀ entry ∈ entries, entry.s ≠ none) :
    findString id entries = (entries.find? (fun entry => entry.id.toNat = id)).map UsbString.s := by
  induction entries with
  | nil => rfl
  | cons entry rest ih =>
      have later := ih fun other member => texts other (List.mem_cons_of_mem entry member)
      rw [findString]
      cases text : entry.s with
      | none => exact absurd text (texts entry List.mem_cons_self)
      | some s =>
          by_cases same : entry.id.toNat = id
          · rw [List.find?_cons_of_pos (by simpa using same), Option.map_some, text]
            exact if_pos same
          · rw [List.find?_cons_of_neg (by simpa using same), ← later]
            exact if_neg same

section
variable {τ : Type} [DecidableEq τ] {table : UsbGadgetStrings} {entries : List UsbString}
  {setup : UsbCtrlrequest} (gadget : Gadget τ) (env : ControlEnv τ) (asks : setup.AsksString)
include asks

/-- Without a search every request returns. -/
theorem handleControl_unsearched (unsearched : ¬ Searches table setup) :
    ∃ run, handleControl setup gadget table env = some run := by
  rw [handleControl_string gadget asks table env]
  by_cases zero : setup.stringId = 0
  · rcases usbGadgetGetString_languages table env.buf with ⟨done, languages, _⟩
    rw [if_neg (fun other => other.1 zero), zero, languages]
    exact ⟨_, rfl⟩
  · rw [if_pos ⟨zero, fun same => unsearched ⟨zero, same⟩⟩]
    exact ⟨_, rfl⟩

/-- A search in entries that all have a string finds the first with the id, and
does not end if there is none. -/
theorem handleControl_searches (searches : Searches table setup)
    (listed : table.strings = some entries) (texts : ∀ entry ∈ entries, entry.s ≠ none) :
    handleControl setup gadget table env =
      (entries.find? (fun entry => entry.id.toNat = setup.stringId)).bind fun _ =>
        searchAnswer entries setup gadget env := by
  have search := findString_of_texts setup.stringId texts
  rw [handleControl_string gadget asks table env, if_neg (fun other => other.2 searches.2),
    usbGadgetGetString, if_neg searches.1, listed, searchAnswer]
  simp only [search]
  cases found : entries.find? (fun entry => entry.id.toNat = setup.stringId) with
  | none => rfl
  | some entry =>
      cases text : entry.s with
      | none => exact absurd text (texts entry (List.mem_of_find?_eq_some found))
      | some s => simp only [Option.map_some, Option.bind_some, text]

end

/-- Without a null string the search needs an id that is there. -/
theorem search_stays_iff {τ : Type} [DecidableEq τ] (table : UsbGadgetStrings)
    (entries : List UsbString) (setup : UsbCtrlrequest) (gadget : Gadget τ) (env : ControlEnv τ)
    (asks : setup.AsksString) (listed : table.strings = some entries)
    (texts : ∀ entry ∈ entries, entry.s ≠ none) :
    SearchStays table entries setup gadget env ↔
      (Searches table setup → ∃ entry ∈ entries, entry.id.toNat = setup.stringId) := by
  by_cases searches : Searches table setup
  · have served := handleControl_searches gadget env asks searches listed texts
    rw [SearchStays, served]
    cases found : entries.find? (fun entry => entry.id.toNat = setup.stringId) with
    | none =>
        have absent := List.find?_eq_none.mp found
        apply iff_of_false
        · rintro ⟨⟨run, ran⟩, _⟩
          cases ran
        · intro present
          rcases present searches with ⟨entry, member, same⟩
          exact absent entry member (decide_eq_true same)
    | some entry =>
        have member := List.mem_of_find?_eq_some found
        have same : entry.id.toNat = setup.stringId := by simpa using List.find?_some found
        apply iff_of_true _ (fun _ => ⟨entry, member, same⟩)
        refine ⟨?_, fun _ => rfl⟩
        cases text : entry.s with
        | none => exact absurd text (texts entry member)
        | some s =>
            rcases stringDescriptor_returns s env.buf with ⟨status, done, returns, _⟩
            simp only [Option.bind_some, searchAnswer, found, text, returns]
            exact ⟨_, rfl⟩
  · apply iff_of_true _ (fun now => absurd now searches)
    exact ⟨handleControl_unsearched gadget env asks searches, fun now => absurd now searches⟩

/-- The host asks for string 2. -/
def stringTwo : UsbCtrlrequest := ⟨usbDirIn, usbReqGetDescriptor, 0x0302, 0x0409, 255⟩

theorem stringTwo_search_stays :
    SearchStays strings stringtab stringTwo idleGadget bareEnv ↔
      (Searches strings stringTwo → ∃ entry ∈ stringtab, entry.id.toNat = stringTwo.stringId) :=
  search_stays_iff strings stringtab stringTwo idleGadget bareEnv ⟨rfl, rfl, rfl⟩ rfl
    (by simp [stringtab])

/-- Nothing stops the search for string 6 at the end of `stringtab`. -/
theorem stringSix_search_leaves :
    handleControl stringSix idleGadget strings bareEnv = none ∧
      ¬ SearchStays strings stringtab stringSix idleGadget bareEnv := by
  have past : AsksPastTable strings stringSix :=
    ⟨rfl, rfl, rfl, rfl, by decide, stringtab, rfl, by simp [stringtab, stringSix]⟩
  have leaves := (handleControl_eq_none idleGadget bareEnv).mpr past
  refine ⟨leaves, ?_⟩
  intro stays
  rcases stays.1 with ⟨run, ran⟩
  rw [leaves] at ran
  cases ran

end ScpiVxiTmc
