import ScpiVxiTmc.Lib.History
import ScpiVxiTmc.Lib.Ledger
import ScpiVxiTmc.Vxi.DeviceCore
import Mathlib.Data.List.Nodup

set_option autoImplicit false

/- Links of the network instrument server. In a trace a link id is opened by the
`create_link` that returns it and closed by a `destroy_link`. -/
namespace ScpiVxiTmc

/-- The device name that the server knows: inst0 -/
def inst0 : List UInt8 := [105, 110, 115, 116, 48]

/-- What the server uses of `Create_LinkParms`. -/
structure CreateLinkParms where
  device : List UInt8

/-- `Create_LinkResp` -/
structure CreateLinkResp where
  error : Int
  lid : Int
  abortPort : Nat
  maxRecvSize : Nat
  deriving DecidableEq

/-- `strcmp` finds the name to be that of the instrument. -/
def CreateLinkParms.IsInstrument (argp : CreateLinkParms) : Prop :=
  argp.device.takeWhile (· ≠ 0) = inst0

instance (argp : CreateLinkParms) : Decidable argp.IsInstrument :=
  inferInstanceAs (Decidable (_ = _))

/-- `create_link_1_svc` -/
def createLink (argp : CreateLinkParms) : CreateLinkResp :=
  if argp.IsInstrument then ⟨0, upo3000Lid, 666, 1024⟩ else ⟨3, 0, 666, 1024⟩

/-- `destroy_link_1_svc`: the error of its static result, which nothing sets. -/
def destroyLink (_argp : Int) : Int := 0

/-- A call of any client; the server does not tell them apart. -/
inductive LinkCall
  | create (argp : CreateLinkParms)
  | destroy (argp : Int)

/-- A call with the reply to it. -/
inductive LinkExchange
  | created (argp : CreateLinkParms) (resp : CreateLinkResp)
  | destroyed (argp : Int) (error : Int)

def linkExchange : LinkCall → LinkExchange
  | .create argp => .created argp (createLink argp)
  | .destroy argp => .destroyed argp (destroyLink argp)

/-- Neither procedure keeps anything for a later call. -/
def linkStep (_server : Unit) (call : LinkCall) : Option (LinkExchange × Unit) :=
  some (linkExchange call, ())

/-- A link begins with a successful reply and ends with a call. -/
def LinkExchange.entries : LinkExchange → List (Ledger.Entry Int)
  | .created _ resp => if resp.error = 0 then [.opened resp.lid] else []
  | .destroyed argp _ => [.closed argp]

/-- The lids of the links created and not destroyed since. -/
def activeLids (exchanges : List LinkExchange) : List Int :=
  Ledger.live [] (exchanges.flatMap LinkExchange.entries)

/-- Whether the instrument has a link after a call. -/
def linkedAfter (linked : Bool) : LinkCall → Bool
  | .create argp => linked || decide argp.IsInstrument
  | .destroy argp => linked && decide (argp ≠ upo3000Lid)

/-- Whether a link to the instrument was created and not destroyed since. -/
def linked (calls : List LinkCall) : Bool := calls.foldl linkedAfter false

/-- After the call no two active links have the same lid. -/
def UniqueAfter (_before : List LinkCall) (exchanges : List LinkExchange) (_server : Unit)
    (_call : LinkCall) (result : Option (LinkExchange × Unit)) : Prop :=
  ∃ exchange after, result = some (exchange, after) ∧ (activeLids (exchanges ++ [exchange])).Nodup

/-- No link to the instrument is created while there is one. -/
def CreatesAlone (before : List LinkCall) : LinkCall → Prop
  | .create argp => argp.IsInstrument → linked before = false
  | .destroy _ => True

theorem activeLids_concat (exchanges : List LinkExchange) (exchange : LinkExchange) :
    activeLids (exchanges ++ [exchange]) =
      Ledger.live (activeLids exchanges) exchange.entries := by
  rw [activeLids, List.flatMap_append, Ledger.live_append, List.flatMap_singleton]
  rfl

theorem linked_concat (calls : List LinkCall) (call : LinkCall) :
    linked (calls ++ [call]) = linkedAfter (linked calls) call := by
  rw [linked, List.foldl_append]
  rfl

theorem create_entries (argp : CreateLinkParms) :
    (linkExchange (.create argp)).entries =
      if argp.IsInstrument then [.opened upo3000Lid] else [] := by
  by_cases instrument : argp.IsInstrument
  · simp [linkExchange, LinkExchange.entries, createLink, instrument]
  · simp [linkExchange, LinkExchange.entries, createLink, instrument]

/-- The lid of the instrument, once, if it has a link. -/
def soleLid (linked : Bool) : List Int := if linked then [upo3000Lid] else []

theorem soleLid_nodup (linked : Bool) : (soleLid linked).Nodup := by
  cases linked with
  | false => exact List.nodup_nil
  | true => exact List.nodup_singleton upo3000Lid

/-- A link created beside another one gets the lid of that. -/
theorem nodup_after_iff (before : List LinkCall) (call : LinkCall) :
    (Ledger.live (soleLid (linked before)) (linkExchange call).entries).Nodup ↔
      CreatesAlone before call := by
  cases call with
  | destroy argp =>
      refine iff_of_true ?_ trivial
      show ((soleLid (linked before)).filter _).Nodup
      exact (soleLid_nodup (linked before)).filter _
  | create argp =>
      rw [create_entries, CreatesAlone]
      by_cases instrument : argp.IsInstrument
      · cases linked before with
        | false => simp [instrument, soleLid, Ledger.hold]
        | true => simp [instrument, soleLid, Ledger.hold]
      · cases linked before with
        | false => simp [instrument, soleLid]
        | true => simp [instrument, soleLid]

theorem live_soleLid {before : List LinkCall} {call : LinkCall}
    (alone : CreatesAlone before call) :
    Ledger.live (soleLid (linked before)) (linkExchange call).entries =
      soleLid (linked (before ++ [call])) := by
  rw [linked_concat]
  cases call with
  | destroy argp =>
      show (soleLid (linked before)).filter _ = _
      by_cases same : argp = upo3000Lid
      · cases linked before with
        | false => rfl
        | true => simp [soleLid, linkedAfter, same]
      · cases linked before with
        | false => rfl
        | true => simp [soleLid, linkedAfter, same, Ne.symm same]
  | create argp =>
      rw [create_entries]
      by_cases instrument : argp.IsInstrument
      · rw [alone instrument]
        simp [soleLid, linkedAfter, instrument, Ledger.hold]
      · simp [linkedAfter, instrument]

/-- Lids are unique among active links in exactly the histories in which the
instrument never has two. -/
theorem lids_unique_iff (calls : List LinkCall) :
    Machine.Throughout linkStep UniqueAfter () calls ↔ Machine.Guarded CreatesAlone calls := by
  apply Machine.throughout_iff
    (J := fun before exchanges _ => activeLids exchanges = soleLid (linked before))
  · rfl
  · intro before exchanges server call active
    rw [← nodup_after_iff, ← active, ← activeLids_concat]
    exact Machine.returns_iff
  · intro before exchanges server call active alone
    refine ⟨_, _, rfl, ?_⟩
    rw [activeLids_concat, active, live_soleLid alone]

/-- Two clients create a link to the instrument. -/
theorem two_clients_share_lid :
    ¬ Machine.Throughout linkStep UniqueAfter () [.create ⟨inst0⟩, .create ⟨inst0⟩] := by
  intro through
  have unique := Machine.returns_iff.mp
    (through [.create ⟨inst0⟩] (.create ⟨inst0⟩) (List.prefix_refl _) _ () rfl)
  exact absurd unique (by decide)

end ScpiVxiTmc
