import ScpiVxiTmc.Vxi.LinkUse

set_option autoImplicit false

/- What a `device_read` on a foreign link id is answered, by the integrated server
and by the standalone one of `vxi11_server`, which has no adapter behind it. -/
namespace ScpiVxiTmc

namespace StandaloneVxi

/-- `device_info` -/
def deviceInfo : List UInt8 :=
  [85, 78, 73, 95, 84, 44, 85, 80, 79, 51, 48, 48, 48, 44, 85, 80, 79, 51, 48, 48, 48, 67, 83,
    44, 48, 46, 49]

/-- `device_write_1_svc`, which copies the data and then only prints it; none
when the copy leaves `w_cmd`. -/
def deviceWrite (argp : DeviceWriteParms) : Option DeviceWriteResp :=
  (Buffer.store? (Vector.replicate 100 (0 : UInt8)) 0 argp.data).map fun _ =>
    if argp.lid ≠ upo3000Lid then ⟨4, argp.data.length⟩ else ⟨0, argp.data.length⟩

/-- `device_read_1_svc`. The first argument is its static result. -/
def deviceRead (result : DeviceReadResp) (argp : DeviceReadParms) : DeviceReadResp :=
  if argp.lid = upo3000Lid then ⟨0, reasonEnd, deviceInfo⟩ else result

/-- The static result as it is loaded, with a null pointer and no data. -/
def boot : DeviceReadResp := ⟨0, 0, []⟩

/-- The procedures for links are the same text as in the integrated server. -/
def vxiStep (result : DeviceReadResp) : VxiCall → Option (VxiExchange × DeviceReadResp)
  | .link call => some (.link (linkExchange call), result)
  | .write argp _ => (deviceWrite argp).map fun resp => (.written resp, result)
  | .read argp => some (.read (deviceRead result argp), deviceRead result argp)

/-- The reply to a `device_read` after a history of calls, if that comes back. -/
def replyAfter (calls : List VxiCall) (argp : DeviceReadParms) : Option DeviceReadResp :=
  (Machine.exec vxiStep boot calls).map fun done => deviceRead done.2 argp

end StandaloneVxi

/-- The same for the integrated server. -/
def replyAfter (a : Adapter) (calls : List VxiCall) (argp : DeviceReadParms) :
    Option DeviceReadResp :=
  (Machine.exec vxiStep (.boot a) calls).map fun done => (deviceRead done.2 argp).1

def VxiCall.IsServedRead : VxiCall → Prop
  | .link _ => False
  | .write _ _ => False
  | .read argp => argp.lid = upo3000Lid

instance : DecidablePred VxiCall.IsServedRead := fun
  | .link _ => inferInstanceAs (Decidable False)
  | .write _ _ => inferInstanceAs (Decidable False)
  | .read argp => inferInstanceAs (Decidable (argp.lid = upo3000Lid))

/-- Whether anyone was served a read. -/
def servedRead (calls : List VxiCall) : Bool := calls.any (·.IsServedRead)

/-- What the static result holds after a history, if a served read puts `data` there. -/
def lastReply (data : List UInt8) (calls : List VxiCall) : DeviceReadResp :=
  if servedRead calls then ⟨0, reasonEnd, data⟩ else ⟨0, 0, []⟩

/-- Two replies to a refused read are one, error 4 and no data. -/
def RefusesSilently (one other : Option DeviceReadResp) : Prop :=
  one = other ∧ ∃ reply, one = some reply ∧ reply.error = 4 ∧ reply.data = []

/-- A refused read is no refusal, and the reply tells whether someone was served
a read before. -/
structure RefusalTells (reply : List VxiCall → Option DeviceReadResp)
    (history other : List VxiCall) : Prop where
  loud : ¬ RefusesSilently (reply history) (reply other)
  tells : ∀ one two, reply history = some one → reply other = some two →
    (one = two ↔ servedRead history = servedRead other)

theorem servedRead_concat (calls : List VxiCall) (call : VxiCall) :
    servedRead (calls ++ [call]) = (servedRead calls || decide call.IsServedRead) := by
  simp [servedRead]

theorem lastReply_concat_of_served (data : List UInt8) (calls : List VxiCall)
    {call : VxiCall} (served : call.IsServedRead) :
    lastReply data (calls ++ [call]) = ⟨0, reasonEnd, data⟩ := by
  rw [lastReply, servedRead_concat, decide_eq_true served, Bool.or_true, if_pos rfl]

theorem lastReply_concat_of_other (data : List UInt8) (calls : List VxiCall)
    {call : VxiCall} (other : ¬ call.IsServedRead) :
    lastReply data (calls ++ [call]) = lastReply data calls := by
  rw [lastReply, servedRead_concat, decide_eq_false other, Bool.or_false, lastReply]

theorem lastReply_error (data : List UInt8) (calls : List VxiCall) :
    (lastReply data calls).error = 0 := by
  unfold lastReply
  split
  · rfl
  · rfl

theorem lastReply_eq_iff (data : List UInt8) (calls other : List VxiCall) :
    lastReply data calls = lastReply data other ↔ servedRead calls = servedRead other := by
  unfold lastReply
  cases servedRead calls with
  | false =>
      cases servedRead other with
      | false => simp
      | true => simp
  | true =>
      cases servedRead other with
      | false => simp
      | true => simp

/-- A server that answers from its static result tells. -/
theorem refusalTells_of_lastReply {reply : List VxiCall → Option DeviceReadResp}
    {data : List UInt8}
    (last : ∀ calls one, reply calls = some one → one = lastReply data calls)
    (history other : List VxiCall) : RefusalTells reply history other := by
  constructor
  · intro ⟨_, one, replied, refused, _⟩
    rw [last history one replied, lastReply_error] at refused
    exact absurd refused (by decide)
  · intro one two replied repliedToo
    rw [last history one replied, last other two repliedToo]
    exact lastReply_eq_iff data history other

/-- The static result of the integrated server: a served read returns no data. -/
structure KeepsReply (calls : List VxiCall) (server : VxiServer) : Prop where
  noData : server.dataLen = 0
  reply : (⟨server.error, server.reason, []⟩ : DeviceReadResp) = lastReply [] calls

theorem vxiStep_keepsReply {calls : List VxiCall} {server after : VxiServer} {call : VxiCall}
    {exchange : VxiExchange} (keeps : KeepsReply calls server)
    (moved : vxiStep server call = some (exchange, after)) :
    KeepsReply (calls ++ [call]) after := by
  cases call with
  | link call =>
      obtain ⟨_, rfl⟩ := Prod.mk.inj (Option.some.inj moved)
      exact ⟨keeps.noData, keeps.reply.trans (lastReply_concat_of_other [] calls id).symm⟩
  | write argp accepted =>
      obtain ⟨done, _, same⟩ := Option.map_eq_some_iff.mp moved
      obtain ⟨_, rfl⟩ := Prod.mk.inj same
      exact ⟨keeps.noData, keeps.reply.trans (lastReply_concat_of_other [] calls id).symm⟩
  | read argp =>
      obtain ⟨_, rfl⟩ := Prod.mk.inj (Option.some.inj moved)
      by_cases served : (VxiCall.read argp).IsServedRead
      · have link : argp.lid = upo3000Lid := served
        rw [deviceRead, if_pos link]
        exact ⟨rfl, (lastReply_concat_of_served [] calls served).symm⟩
      · have foreign : argp.lid ≠ upo3000Lid := served
        rw [deviceRead, if_neg foreign]
        exact ⟨keeps.noData, keeps.reply.trans (lastReply_concat_of_other [] calls served).symm⟩

theorem exec_keepsReply {a : Adapter} {calls : List VxiCall} {exchanges : List VxiExchange}
    {server : VxiServer}
    (ran : Machine.exec vxiStep (.boot a) calls = some (exchanges, server)) :
    KeepsReply calls server := by
  refine Machine.exec_history (J := fun calls _ server => KeepsReply calls server) ⟨rfl, rfl⟩ ?_ ran
  intro before exchanges server call exchange after keeps moved
  exact vxiStep_keepsReply keeps moved

theorem replyAfter_eq_lastReply {a : Adapter} {argp : DeviceReadParms}
    (foreign : argp.lid ≠ upo3000Lid) (calls : List VxiCall) (one : DeviceReadResp)
    (replied : replyAfter a calls argp = some one) : one = lastReply [] calls := by
  obtain ⟨⟨exchanges, server⟩, ran, rfl⟩ := Option.map_eq_some_iff.mp replied
  have keeps := exec_keepsReply ran
  rw [← keeps.reply]
  simp only [deviceRead, foreign, ↓reduceIte, keeps.noData, List.take_zero]

namespace StandaloneVxi

theorem vxiStep_keepsReply {calls : List VxiCall} {result after : DeviceReadResp}
    {call : VxiCall} {exchange : VxiExchange} (keeps : result = lastReply deviceInfo calls)
    (moved : vxiStep result call = some (exchange, after)) :
    after = lastReply deviceInfo (calls ++ [call]) := by
  cases call with
  | link call =>
      obtain ⟨_, rfl⟩ := Prod.mk.inj (Option.some.inj moved)
      exact keeps.trans (lastReply_concat_of_other deviceInfo calls id).symm
  | write argp accepted =>
      obtain ⟨resp, _, same⟩ := Option.map_eq_some_iff.mp moved
      obtain ⟨_, rfl⟩ := Prod.mk.inj same
      exact keeps.trans (lastReply_concat_of_other deviceInfo calls id).symm
  | read argp =>
      obtain ⟨_, rfl⟩ := Prod.mk.inj (Option.some.inj moved)
      by_cases served : (VxiCall.read argp).IsServedRead
      · have link : argp.lid = upo3000Lid := served
        rw [deviceRead, if_pos link]
        exact (lastReply_concat_of_served deviceInfo calls served).symm
      · have foreign : argp.lid ≠ upo3000Lid := served
        rw [deviceRead, if_neg foreign]
        exact keeps.trans (lastReply_concat_of_other deviceInfo calls served).symm

theorem replyAfter_eq_lastReply {argp : DeviceReadParms} (foreign : argp.lid ≠ upo3000Lid)
    (calls : List VxiCall) (one : DeviceReadResp)
    (replied : replyAfter calls argp = some one) : one = lastReply deviceInfo calls := by
  obtain ⟨⟨exchanges, result⟩, ran, rfl⟩ := Option.map_eq_some_iff.mp replied
  rw [deviceRead, if_neg foreign]
  refine Machine.exec_history (J := fun calls _ result => result = lastReply deviceInfo calls)
    rfl ?_ ran
  intro before exchanges result call exchange after keeps moved
  exact vxiStep_keepsReply keeps moved

end StandaloneVxi

/-- Neither server ever refuses a read. What it answers instead is the last reply
that it made to anyone. -/
theorem refused_reads_tell (a : Adapter) (argp : DeviceReadParms)
    (foreign : argp.lid ≠ upo3000Lid) (history other : List VxiCall) :
    RefusalTells (replyAfter a · argp) history other ∧
      RefusalTells (StandaloneVxi.replyAfter · argp) history other :=
  ⟨refusalTells_of_lastReply (replyAfter_eq_lastReply foreign) history other,
    refusalTells_of_lastReply (StandaloneVxi.replyAfter_eq_lastReply foreign) history other⟩

theorem refused_reads_tell_seven :
    RefusalTells (replyAfter .init · ⟨7, 64⟩) [] [.read ⟨upo3000Lid, 64⟩] ∧
      RefusalTells (StandaloneVxi.replyAfter · ⟨7, 64⟩) [] [.read ⟨upo3000Lid, 64⟩] :=
  refused_reads_tell .init ⟨7, 64⟩ (by decide) [] [.read ⟨upo3000Lid, 64⟩]

/-- A read on link 7 gets what a client before it has read. -/
theorem foreign_read_tells :
    StandaloneVxi.replyAfter [] ⟨7, 64⟩ = some ⟨0, 0, []⟩ ∧
      StandaloneVxi.replyAfter [.read ⟨upo3000Lid, 64⟩] ⟨7, 64⟩ =
        some ⟨0, reasonEnd, StandaloneVxi.deviceInfo⟩ ∧
      ¬ RefusesSilently (StandaloneVxi.replyAfter [] ⟨7, 64⟩)
        (StandaloneVxi.replyAfter [.read ⟨upo3000Lid, 64⟩] ⟨7, 64⟩) ∧
      ¬ RefusesSilently (replyAfter .init [] ⟨7, 64⟩)
        (replyAfter .init [.read ⟨upo3000Lid, 64⟩] ⟨7, 64⟩) := by
  refine ⟨rfl, rfl, ?_, ?_⟩
  · intro ⟨_, one, replied, refused, _⟩
    rw [StandaloneVxi.replyAfter_eq_lastReply (by decide) [] one replied] at refused
    exact absurd refused (by decide)
  · intro ⟨_, one, replied, refused, _⟩
    rw [replyAfter_eq_lastReply (by decide) [] one replied] at refused
    exact absurd refused (by decide)

end ScpiVxiTmc
