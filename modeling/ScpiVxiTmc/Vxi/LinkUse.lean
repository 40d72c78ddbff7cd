import ScpiVxiTmc.Vxi.Links

set_option autoImplicit false

/- The four procedures that make and use links, over whole histories of calls. -/
namespace ScpiVxiTmc

/-- A call of any client of the instrument server. -/
inductive VxiCall
  | link (call : LinkCall)
  | write (argp : DeviceWriteParms) (accepted : Bool)
  | read (argp : DeviceReadParms)

/-- What a client gets for a call. -/
inductive VxiExchange
  | link (exchange : LinkExchange)
  | written (resp : DeviceWriteResp)
  | read (resp : DeviceReadResp)

/-- The server with its statics as they are loaded. -/
def VxiServer.boot (a : Adapter) : VxiServer where
  adapter := a
  error := 0
  reason := 0
  dataLen := 0
  tmpBuf := Vector.replicate vxi11Bufsize 0

/-- The dispatcher runs one procedure to its end before the next. -/
def vxiStep (server : VxiServer) : VxiCall → Option (VxiExchange × VxiServer)
  | .link call => some (.link (linkExchange call), server)
  | .write argp accepted =>
      (deviceWrite server.adapter argp accepted).map fun done =>
        (.written done.1, { server with adapter := done.2 })
  | .read argp => some (.read (deviceRead server argp).1, (deviceRead server argp).2)

/-- The link id with which a call turns to the instrument. -/
def VxiCall.usedLid? : VxiCall → Option Int
  | .link _ => none
  | .write argp _ => some argp.lid
  | .read argp => some argp.lid

/-- The error in the reply to such a call. -/
def VxiExchange.useError? : VxiExchange → Option Int
  | .link _ => none
  | .written resp => some resp.error
  | .read resp => some resp.error

def VxiCall.linkCall? : VxiCall → Option LinkCall
  | .link call => some call
  | .write _ _ => none
  | .read _ => none

def VxiExchange.linkExchange? : VxiExchange → Option LinkExchange
  | .link exchange => some exchange
  | .written _ => none
  | .read _ => none

/-- The lids that are active after these exchanges. -/
def lidsInUse (exchanges : List VxiExchange) : List Int :=
  activeLids (exchanges.filterMap VxiExchange.linkExchange?)

/-- Whether the instrument has a link after these calls. -/
def instrumentLinked (calls : List VxiCall) : Bool :=
  linked (calls.filterMap VxiCall.linkCall?)

/-- The call comes back, and unless it is on an active link it is refused with
error 4, invalid link identifier, and leaves the adapter as it was. -/
def OnlyLiveLinks (_before : List VxiCall) (exchanges : List VxiExchange) (server : VxiServer)
    (call : VxiCall) (result : Option (VxiExchange × VxiServer)) : Prop :=
  ∃ exchange after, result = some (exchange, after) ∧
    ∀ lid, call.usedLid? = some lid → lid ∈ lidsInUse exchanges ∨
      exchange.useError? = some 4 ∧ after.adapter = server.adapter

/-- A write fits the buffer on the stack, and is on the instrument's lid only while
the instrument has a link. A read is on that lid, while it has one. -/
def UsesOwnLink (before : List VxiCall) : VxiCall → Prop
  | .link _ => True
  | .write argp _ =>
      argp.data.length ≤ 100 ∧ (argp.lid = upo3000Lid → instrumentLinked before = true)
  | .read argp => argp.lid = upo3000Lid ∧ instrumentLinked before = true

/-- The reply that `device_read` keeps reports no error, and no lid but that of
the instrument is ever active. -/
structure LinkState (before : List VxiCall) (exchanges : List VxiExchange)
    (server : VxiServer) : Prop where
  noError : server.error = 0
  active : ∀ lid, lid ∈ lidsInUse exchanges ↔
    lid = upo3000Lid ∧ instrumentLinked before = true

theorem lidsInUse_link (exchanges : List VxiExchange) (exchange : LinkExchange) :
    lidsInUse (exchanges ++ [.link exchange]) =
      Ledger.live (lidsInUse exchanges) exchange.entries := by
  rw [lidsInUse, List.filterMap_append, lidsInUse, ← activeLids_concat]
  rfl

theorem instrumentLinked_link (calls : List VxiCall) (call : LinkCall) :
    instrumentLinked (calls ++ [.link call]) = linkedAfter (instrumentLinked calls) call := by
  rw [instrumentLinked, List.filterMap_append, instrumentLinked, ← linked_concat]
  rfl

/-- Reads and writes do not touch links. -/
theorem LinkState.use {before : List VxiCall} {exchanges : List VxiExchange}
    {server after : VxiServer} {call : VxiCall} {exchange : VxiExchange}
    (state : LinkState before exchanges server) (noLink : call.linkCall? = none)
    (noChange : exchange.linkExchange? = none) (noError : after.error = 0) :
    LinkState (before ++ [call]) (exchanges ++ [exchange]) after := by
  refine ⟨noError, ?_⟩
  intro lid
  have sameLids : lidsInUse (exchanges ++ [exchange]) = lidsInUse exchanges := by
    simp [lidsInUse, noChange]
  have sameLinked : instrumentLinked (before ++ [call]) = instrumentLinked before := by
    simp [instrumentLinked, noLink]
  rw [sameLids, sameLinked]
  exact state.active lid

theorem LinkState.link {before : List VxiCall} {exchanges : List VxiExchange}
    {server : VxiServer} (state : LinkState before exchanges server) (call : LinkCall) :
    LinkState (before ++ [.link call]) (exchanges ++ [.link (linkExchange call)]) server := by
  refine ⟨state.noError, ?_⟩
  intro lid
  rw [lidsInUse_link, instrumentLinked_link]
  cases call with
  | destroy argp =>
      show lid ∈ (lidsInUse exchanges).filter _ ↔ _
      rw [List.mem_filter, state.active]
      by_cases same : lid = upo3000Lid
      · simp [linkedAfter, same, ne_comm]
      · simp [same]
  | create argp =>
      rw [create_entries]
      by_cases instrument : argp.IsInstrument
      · rw [if_pos instrument]
        show lid ∈ lidsInUse exchanges ++ [upo3000Lid] ↔ _
        rw [List.mem_append, List.mem_singleton, state.active, linkedAfter,
          decide_eq_true instrument, Bool.or_true]
        constructor
        · intro member
          exact ⟨member.elim And.left id, rfl⟩
        · intro new
          exact Or.inr new.1
      · simp [linkedAfter, instrument, state.active]

theorem deviceRead_error {server : VxiServer} (noError : server.error = 0)
    (argp : DeviceReadParms) :
    (deviceRead server argp).1.error = 0 ∧ (deviceRead server argp).2.error = 0 := by
  by_cases link : argp.lid = upo3000Lid
  · simp only [deviceRead, link, ↓reduceIte, and_self]
  · simp only [deviceRead, link, ↓reduceIte, noError, and_self]

/-- A write that fits is refused exactly when its lid is not the instrument's. -/
theorem write_onlyLiveLinks_iff {before : List VxiCall} {exchanges : List VxiExchange}
    {server : VxiServer} (state : LinkState before exchanges server) (argp : DeviceWriteParms)
    (accepted : Bool) :
    OnlyLiveLinks before exchanges server (.write argp accepted)
        (vxiStep server (.write argp accepted)) ↔
      UsesOwnLink before (.write argp accepted) := by
  rw [vxiStep, deviceWrite_eq, UsesOwnLink]
  by_cases fits : argp.data.length ≤ 100
  · by_cases link : argp.lid = upo3000Lid
    · simp [OnlyLiveLinks, VxiCall.usedLid?, VxiExchange.useError?, fits, link, state.active]
    · simp [OnlyLiveLinks, VxiCall.usedLid?, VxiExchange.useError?, fits, link, state.active]
  · simp [OnlyLiveLinks, fits]

/-- A read is never refused. -/
theorem read_onlyLiveLinks_iff {before : List VxiCall} {exchanges : List VxiExchange}
    {server : VxiServer} (state : LinkState before exchanges server) (argp : DeviceReadParms) :
    OnlyLiveLinks before exchanges server (.read argp) (vxiStep server (.read argp)) ↔
      UsesOwnLink before (.read argp) := by
  have error := (deviceRead_error state.noError argp).1
  rw [UsesOwnLink, ← state.active]
  apply Machine.returns_iff.trans
  constructor
  · intro only
    cases only argp.lid rfl with
    | inl live => exact live
    | inr refused =>
        have four : (deviceRead server argp).1.error = 4 := Option.some.inj refused.1
        omega
  · intro live lid used
    obtain rfl := Option.some.inj used
    exact Or.inl live

theorem LinkState.step {before : List VxiCall} {exchanges : List VxiExchange}
    {server : VxiServer} (state : LinkState before exchanges server) (call : VxiCall)
    (own : UsesOwnLink before call) :
    ∃ exchange after, vxiStep server call = some (exchange, after) ∧
      LinkState (before ++ [call]) (exchanges ++ [exchange]) after := by
  cases call with
  | link call => exact ⟨_, _, rfl, state.link call⟩
  | write argp accepted =>
      rw [vxiStep, deviceWrite_eq, if_pos own.1]
      exact ⟨_, _, rfl, state.use rfl rfl state.noError⟩
  | read argp =>
      exact ⟨_, _, rfl, state.use rfl rfl (deviceRead_error state.noError argp).2⟩

/-- Nothing but the lid of the instrument is checked, and a read not even refused:
only live links reach the instrument in exactly the histories whose clients keep
to them. -/
theorem live_links_only_iff (adapter : Adapter) (calls : List VxiCall) :
    Machine.Throughout vxiStep OnlyLiveLinks (.boot adapter) calls ↔
      Machine.Guarded UsesOwnLink calls := by
  apply Machine.throughout_iff (J := LinkState)
  · refine ⟨rfl, ?_⟩
    intro lid
    simp [lidsInUse, instrumentLinked, activeLids, linked]
  · intro before exchanges server call state
    cases call with
    | link call =>
        refine iff_of_true (Machine.returns_iff.mpr ?_) trivial
        intro lid used
        cases used
    | write argp accepted => exact write_onlyLiveLinks_iff state argp accepted
    | read argp => exact read_onlyLiveLinks_iff state argp
  · intro before exchanges server call state own
    exact state.step call own

/-- A client reads on a link id that was never given out and is told that it went well. -/
theorem unknown_link_not_refused :
    ¬ Machine.Throughout vxiStep OnlyLiveLinks (.boot .init) [.read ⟨7, 64⟩] := by
  intro through
  have only := Machine.returns_iff.mp
    (through [] (.read ⟨7, 64⟩) (List.prefix_refl _) [] _ rfl)
  cases only 7 rfl with
  | inl live => exact List.not_mem_nil live
  | inr refused => exact absurd (Option.some.inj refused.1) (by decide)

end ScpiVxiTmc
