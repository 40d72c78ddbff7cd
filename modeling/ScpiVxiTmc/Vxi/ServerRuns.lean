import ScpiVxiTmc.Lib.Simulation
import ScpiVxiTmc.Vxi.RemoteCalls

set_option autoImplicit false

/- Whole runs of the servers on raw requests, as runs of the four procedures that
make and use links on the arguments those requests decode to. -/
namespace ScpiVxiTmc.Vxi11

open Xdr

variable {σ : Type}

/-- The call that a request makes of one of the four procedures, if it makes one. -/
def SvcReq.call? (req : SvcReq) : Option VxiCall :=
  match req.program, req.rqProc with
  | .core, 10 => ((xdrCreateLinkParms req.host).decode req.args).map fun got =>
      .link (.create got.1.used)
  | .core, 11 => ((xdrDeviceWriteParms req.host).decode req.args).map fun got =>
      .write got.1.used req.accepted
  | .core, 12 => ((xdrDeviceReadParms req.host).decode req.args).map fun got => .read got.1.used
  | .core, 23 => (xdrDeviceLink.decode req.args).map fun got => .link (.destroy got.1.toInt)
  | _, _ => none

/-- The reply that carries what a call was answered. -/
def SvcReq.replyTo (req : SvcReq) : VxiExchange → Reply
  | .link (.created _ resp) => svcSendreply req.host .createLinkResp (.of resp)
  | .link (.destroyed _ error) => svcSendreply req.host .deviceError ⟨.ofInt error⟩
  | .written resp => svcSendreply req.host .deviceWriteResp (.of resp)
  | .read resp => svcSendreply req.host .deviceReadResp (.of resp)

/-- A dispatcher's run, without the memory it used. -/
def replies (run : σ → SvcReq → Option (Answer × σ)) (server : σ) (req : SvcReq) :
    Option (Reply × σ) :=
  (run server req).map fun done => (done.1.reply, done.2)

/-- The reply to a request that calls none of the four: that of dispatchers whose
procedures keep nothing. -/
def SvcReq.ownReply (req : SvcReq) : Reply :=
  let switch : Nat → Option (Service Unit) :=
    req.program.switchOf (unwritten ⟨0, 0⟩) (unwritten ⟨0, 0, []⟩)
  ((replies (dispatch switch) () req).map Prod.fst).getD .systemerr

/-- The reply of a procedure that is left to write. -/
def SvcReq.unwrittenReply (req : SvcReq) (argument result : Message) (value : result.Value) :
    Reply :=
  ((argument.xdr req.host).decode req.args).elim .decode fun _ =>
    svcSendreply req.host result value

/-- The numbers of the four procedures. -/
def IsLinkProc (program : Program) (rqProc : Nat) : Prop :=
  program = .core ∧ (rqProc = 10 ∨ rqProc = 11 ∨ rqProc = 12 ∨ rqProc = 23)

theorem switchOf_unwritten {τ : Type} (write : Procedure σ DeviceWriteParms DeviceWriteResp)
    (read : Procedure σ DeviceReadParms DeviceReadResp)
    (write' : Procedure τ DeviceWriteParms DeviceWriteResp)
    (read' : Procedure τ DeviceReadParms DeviceReadResp) {program : Program} {rqProc : Nat}
    (other : ¬ IsLinkProc program rqProc) :
    (program.switchOf write read rqProc = none ∧ program.switchOf write' read' rqProc = none) ∨
      ∃ argument result value,
        program.switchOf write read rqProc = some ⟨argument, result, unwritten value⟩ ∧
          program.switchOf write' read' rqProc = some ⟨argument, result, unwritten value⟩ := by
  cases program with
  | async =>
      simp only [Program.switchOf, asyncSwitch]
      split
      · exact Or.inr ⟨_, _, _, rfl, rfl⟩
      · exact Or.inl ⟨rfl, rfl⟩
  | intr =>
      simp only [Program.switchOf, intrSwitch]
      split
      · exact Or.inr ⟨_, _, _, rfl, rfl⟩
      · exact Or.inl ⟨rfl, rfl⟩
  | core =>
      simp only [Program.switchOf, coreSwitch]
      split
      case h_1 => exact absurd ⟨rfl, Or.inl rfl⟩ other
      case h_2 => exact absurd ⟨rfl, Or.inr (Or.inl rfl)⟩ other
      case h_3 => exact absurd ⟨rfl, Or.inr (Or.inr (Or.inl rfl))⟩ other
      case h_13 => exact absurd ⟨rfl, Or.inr (Or.inr (Or.inr rfl))⟩ other
      case h_16 => exact Or.inl ⟨rfl, rfl⟩
      all_goals exact Or.inr ⟨_, _, _, rfl, rfl⟩

theorem replies_unwritten {switch : Nat → Option (Service σ)} {req : SvcReq}
    {argument result : Message} {value : result.Value} (real : req.rqProc ≠ 0)
    (chosen : switch req.rqProc = some ⟨argument, result, unwritten value⟩) (server : σ) :
    replies (dispatch switch) server req =
      some (req.unwrittenReply argument result value, server) := by
  rw [replies, dispatch_of_chosen ⟨real, chosen⟩, SvcReq.unwrittenReply]
  cases read : (argument.xdr req.host).decode req.args with
  | none => simp only [Service.serve, read, Option.map_some, Option.elim_none]
  | some got =>
      rw [serve_of_decode read]
      rfl

/-- A procedure does for a request what a step on the call does. -/
def Serves (step : σ → VxiCall → Option (VxiExchange × σ)) (req : SvcReq) (service : Service σ)
    (call : service.argument.Value → VxiCall) : Prop :=
  ∀ server v, ((service.procedure req.accepted server v).map fun done =>
      (svcSendreply req.host service.result done.1, done.2)) =
    (step server (call v)).map fun done => (req.replyTo done.1, done.2)

/-- A server's steps on the calls of clients are what the four procedures do. -/
structure LinkServer (write : Procedure σ DeviceWriteParms DeviceWriteResp)
    (read : Procedure σ DeviceReadParms DeviceReadResp)
    (step : σ → VxiCall → Option (VxiExchange × σ)) : Prop where
  create : ∀ req, Serves step req ⟨.createLinkParms, .createLinkResp, createLink1Svc⟩
    fun argp => .link (.create argp.used)
  write : ∀ req, Serves step req ⟨.deviceWriteParms, .deviceWriteResp, write⟩
    fun argp => .write argp.used req.accepted
  read : ∀ req, Serves step req ⟨.deviceReadParms, .deviceReadResp, read⟩
    fun argp => .read argp.used
  destroy : ∀ req, Serves step req ⟨.deviceLink, .deviceError, destroyLink1Svc⟩
    fun argp => .link (.destroy argp.toInt)

theorem Serves.replies_eq {step : σ → VxiCall → Option (VxiExchange × σ)} {req : SvcReq}
    {service : Service σ} {call : service.argument.Value → VxiCall}
    (serves : Serves step req service call) {switch : Nat → Option (Service σ)}
    (chosen : Chooses switch req.rqProc service) {through : VxiCall}
    (decodes : (((service.argument.xdr req.host).decode req.args).map fun got => call got.1) =
      some through) (server : σ) :
    replies (dispatch switch) server req =
      (step server through).map fun done => (req.replyTo done.1, done.2) := by
  rcases Option.map_eq_some_iff.mp decodes with ⟨got, read, rfl⟩
  rw [replies, dispatch_of_chosen chosen, serve_of_decode read, ← serves server got.1,
    Option.map_map]
  rfl

/-- A request that calls none of the four, to their numbers, is cut short. -/
theorem replies_of_refused {switch : Nat → Option (Service σ)} {req : SvcReq}
    {service : Service σ} {call : service.argument.Value → VxiCall}
    (chosen : Chooses switch req.rqProc service)
    (refused : (((service.argument.xdr req.host).decode req.args).map fun got => call got.1) =
      none) (server : σ) :
    replies (dispatch switch) server req = some (.decode, server) := by
  rw [Option.map_eq_none_iff] at refused
  rw [replies, dispatch_of_chosen chosen]
  simp only [Service.serve, refused, Option.map_some]

theorem replies_of_null {switch : Nat → Option (Service σ)} {req : SvcReq}
    (null : req.rqProc = 0) (server : σ) :
    replies (dispatch switch) server req = some (.results [], server) := by
  rw [replies, dispatch, if_pos null, Option.map_some]

/-- The four procedures that make and use links, with their numbers. -/
theorem isLinkProc_cases {write : Procedure σ DeviceWriteParms DeviceWriteResp}
    {read : Procedure σ DeviceReadParms DeviceReadResp}
    {step : σ → VxiCall → Option (VxiExchange × σ)} (linkServer : LinkServer write read step)
    {req : SvcReq} (link : IsLinkProc req.program req.rqProc) :
    ∃ (service : Service σ) (call : service.argument.Value → VxiCall),
      Chooses (req.program.switchOf write read) req.rqProc service ∧
        Serves step req service call ∧
        req.call? = ((service.argument.xdr req.host).decode req.args).map fun got =>
          call got.1 := by
  rcases link with ⟨core, ten | eleven | twelve | last⟩
  · refine ⟨_, _, ⟨by omega, by rw [core, ten]; rfl⟩, linkServer.create req, ?_⟩
    simp only [SvcReq.call?, core, ten]
    rfl
  · refine ⟨_, _, ⟨by omega, by rw [core, eleven]; rfl⟩, linkServer.write req, ?_⟩
    simp only [SvcReq.call?, core, eleven]
    rfl
  · refine ⟨_, _, ⟨by omega, by rw [core, twelve]; rfl⟩, linkServer.read req, ?_⟩
    simp only [SvcReq.call?, core, twelve]
    rfl
  · refine ⟨_, _, ⟨by omega, by rw [core, last]; rfl⟩, linkServer.destroy req, ?_⟩
    simp only [SvcReq.call?, core, last]
    rfl

theorem call_of_not_isLinkProc {req : SvcReq} (other : ¬ IsLinkProc req.program req.rqProc) :
    req.call? = none := by
  unfold SvcReq.call?
  split
  case h_1 core ten => exact absurd ⟨core, Or.inl ten⟩ other
  case h_2 core eleven => exact absurd ⟨core, Or.inr (Or.inl eleven)⟩ other
  case h_3 core twelve => exact absurd ⟨core, Or.inr (Or.inr (Or.inl twelve))⟩ other
  case h_4 core last => exact absurd ⟨core, Or.inr (Or.inr (Or.inr last))⟩ other
  case h_5 => rfl

/-- Procedures that keep nothing serve every call alike. -/
def keepsNothing (_server : Unit) : VxiCall → Option (VxiExchange × Unit)
  | .link call => some (.link (linkExchange call), ())
  | .write _ _ => some (.written ⟨0, 0⟩, ())
  | .read _ => some (.read ⟨0, 0, []⟩, ())

theorem keepsNothing_linkServer :
    LinkServer (unwritten ⟨0, 0⟩) (unwritten ⟨0, 0, []⟩) keepsNothing where
  create _ _ _ := rfl
  write _ _ _ := rfl
  read _ _ _ := rfl
  destroy _ _ _ := rfl

/-- The dispatchers stand in front of the four procedures. -/
theorem LinkServer.fronts {write : Procedure σ DeviceWriteParms DeviceWriteResp}
    {read : Procedure σ DeviceReadParms DeviceReadResp}
    {step : σ → VxiCall → Option (VxiExchange × σ)} (linkServer : LinkServer write read step) :
    Machine.Fronts (replies fun server req => dispatch (req.program.switchOf write read) server req)
      step SvcReq.call? SvcReq.ownReply SvcReq.replyTo := by
  constructor
  · intro server req through routed
    have link : IsLinkProc req.program req.rqProc := by
      by_contra other
      rw [call_of_not_isLinkProc other] at routed
      cases routed
    rcases isLinkProc_cases linkServer link with ⟨service, call, chosen, serves, decodes⟩
    exact serves.replies_eq chosen (decodes ▸ routed) server
  · intro server req routed
    show replies (dispatch (req.program.switchOf write read)) server req = _
    by_cases link : IsLinkProc req.program req.rqProc
    · rcases isLinkProc_cases linkServer link with ⟨service, call, chosen, _, decodes⟩
      rcases isLinkProc_cases keepsNothing_linkServer link with ⟨_, _, other, _, same⟩
      rw [replies_of_refused chosen (decodes ▸ routed), SvcReq.ownReply,
        replies_of_refused other (same ▸ routed)]
      rfl
    · by_cases null : req.rqProc = 0
      · rw [replies_of_null null, SvcReq.ownReply, replies_of_null null]
        rfl
      · let silentWrite : Procedure Unit DeviceWriteParms DeviceWriteResp := unwritten ⟨0, 0⟩
        rcases switchOf_unwritten write read silentWrite (unwritten ⟨0, 0, []⟩) link with
          both | both
        · rw [replies, dispatch, if_neg null, both.1, SvcReq.ownReply, replies, dispatch,
            if_neg null, both.2]
          rfl
        · rcases both with ⟨argument, result, value, here, there⟩
          rw [replies_unwritten null here, SvcReq.ownReply, replies_unwritten null there]
          rfl

theorem vxiStep_linkServer : LinkServer deviceWrite1Svc deviceRead1Svc vxiStep where
  create _ _ _ := rfl
  write req server argp := by
    show ((deviceWrite1Svc req.accepted server argp).map _) = _
    rw [deviceWrite1Svc, vxiStep, Option.map_map, Option.map_map]
    rfl
  read _ _ _ := rfl
  destroy _ _ _ := rfl

theorem svcRun_fronts :
    Machine.Fronts (replies svcRun) vxiStep SvcReq.call? SvcReq.ownReply SvcReq.replyTo := by
  have same : svcRun = fun server req => dispatch req.program.switch server req :=
    funext fun server => funext (svcRun_eq server)
  rw [same]
  exact vxiStep_linkServer.fronts

namespace Standalone

theorem vxiStep_linkServer :
    LinkServer Standalone.deviceWrite1Svc Standalone.deviceRead1Svc StandaloneVxi.vxiStep where
  create _ _ _ := rfl
  write req result argp := by
    show ((Standalone.deviceWrite1Svc req.accepted result argp).map _) = _
    rw [Standalone.deviceWrite1Svc, StandaloneVxi.vxiStep, Option.map_map, Option.map_map]
    rfl
  read _ _ _ := rfl
  destroy _ _ _ := rfl

theorem svcRun_fronts :
    Machine.Fronts (replies Standalone.svcRun) StandaloneVxi.vxiStep SvcReq.call?
      SvcReq.ownReply SvcReq.replyTo := by
  have same : Standalone.svcRun = fun result req =>
      dispatch (req.program.switchOf Standalone.deviceWrite1Svc Standalone.deviceRead1Svc)
        result req := by
    funext result req
    unfold Standalone.svcRun Program.switchOf
    cases req.program with
    | async => rfl
    | core => rfl
    | intr => rfl
  rw [same]
  exact vxiStep_linkServer.fronts

end Standalone

/-- A run of the integrated server on requests of any bytes is the run of the four
procedures on the calls that they decode to. -/
theorem server_runs_calls (server : VxiServer) (reqs : List SvcReq) :
    Machine.exec (replies svcRun) server reqs =
      (Machine.exec vxiStep server (reqs.filterMap SvcReq.call?)).map fun done =>
        (Machine.weave SvcReq.call? SvcReq.ownReply SvcReq.replyTo reqs done.1, done.2) :=
  svcRun_fronts.exec_eq server reqs

/-- So is a run of the standalone one. -/
theorem standalone_runs_calls (result : ScpiVxiTmc.DeviceReadResp) (reqs : List SvcReq) :
    Machine.exec (replies Standalone.svcRun) result reqs =
      (Machine.exec StandaloneVxi.vxiStep result (reqs.filterMap SvcReq.call?)).map fun done =>
        (Machine.weave SvcReq.call? SvcReq.ownReply SvcReq.replyTo reqs done.1, done.2) :=
  Standalone.svcRun_fronts.exec_eq result reqs

/-- Requests to the procedures that are left to write, to the null procedure and to
none, and those whose arguments do not decode, leave no trace: without them a run
ends in the same state, and the others get the same replies. -/
theorem other_requests_leave_no_trace (server : VxiServer) (reqs : List SvcReq) :
    Machine.exec (replies svcRun) server (reqs.filter fun req => req.call?.isSome) =
      (Machine.exec (replies svcRun) server reqs).map fun done =>
        (((reqs.zip done.1).filter fun pair => pair.1.call?.isSome).map Prod.snd, done.2) :=
  svcRun_fronts.exec_filter server reqs

/-- Exchanges that differ at most in the data that was read. -/
def SameButData : VxiExchange → VxiExchange → Prop
  | .read resp, .read resp' => resp.error = resp'.error ∧ resp.reason = resp'.reason
  | one, other => one = other

/-- The same for replies. -/
def RepliesButData (one other : Reply) : Prop :=
  one = other ∨ ∃ (host : Host) (resp resp' : ScpiVxiTmc.DeviceReadResp),
    one = svcSendreply host .deviceReadResp (.of resp) ∧
      other = svcSendreply host .deviceReadResp (.of resp') ∧
      resp.error = resp'.error ∧ resp.reason = resp'.reason

theorem replyTo_sameButData {req : SvcReq} {exchange exchange' : VxiExchange}
    (same : SameButData exchange exchange') :
    RepliesButData (req.replyTo exchange) (req.replyTo exchange') := by
  cases exchange with
  | link made => exact Or.inl (congrArg req.replyTo same)
  | written resp => exact Or.inl (congrArg req.replyTo same)
  | read resp =>
      cases exchange' with
      | link made => cases same
      | written resp' => cases same
      | read resp' => exact Or.inr ⟨req.host, resp, resp', rfl, rfl, same⟩

/-- The static results of the two servers agree, up to the data. -/
def ResultsAgree (server : VxiServer) (result : ScpiVxiTmc.DeviceReadResp) : Prop :=
  server.error = result.error ∧ server.reason = result.reason

theorem standalone_deviceWrite_eq (argp : ScpiVxiTmc.DeviceWriteParms) :
    StandaloneVxi.deviceWrite argp =
      if argp.data.length ≤ 100 then
        some (if argp.lid = upo3000Lid then ⟨0, argp.data.length⟩ else ⟨4, argp.data.length⟩)
      else none := by
  by_cases short : argp.data.length ≤ 100
  · have fits : 0 + argp.data.length ≤ 100 := by omega
    rw [StandaloneVxi.deviceWrite, Buffer.store?_of_fits _ _ _ fits, Option.map_some,
      if_pos short]
    by_cases link : argp.lid = upo3000Lid <;> simp only [link, ne_eq, not_true_eq_false,
      not_false_eq_true, ↓reduceIte]
  · have leaves : ¬ 0 + argp.data.length ≤ 100 := by omega
    simp only [StandaloneVxi.deviceWrite, Buffer.store?, leaves, ↓reduceDIte, Option.map_none,
      short, ↓reduceIte]

theorem vxiStep_together (server : VxiServer) (result : ScpiVxiTmc.DeviceReadResp)
    (call : VxiCall) (agree : ResultsAgree server result) :
    Machine.Together ResultsAgree SameButData (vxiStep server call)
      (StandaloneVxi.vxiStep result call) := by
  cases call with
  | link call => exact .some ⟨rfl, agree⟩
  | write argp accepted =>
      rw [vxiStep, deviceWrite_eq, StandaloneVxi.vxiStep, standalone_deviceWrite_eq]
      by_cases short : argp.data.length ≤ 100
      · rw [if_pos short, if_pos short]
        refine .some ⟨?_, agree⟩
        split <;> rfl
      · rw [if_neg short, if_neg short]
        exact .none
  | read argp =>
      by_cases link : argp.lid = upo3000Lid
      · simp only [vxiStep, StandaloneVxi.vxiStep, deviceRead, StandaloneVxi.deviceRead, link,
          ↓reduceIte]
        exact .some ⟨⟨rfl, rfl⟩, rfl, rfl⟩
      · simp only [vxiStep, StandaloneVxi.vxiStep, deviceRead, StandaloneVxi.deviceRead, link,
          ↓reduceIte]
        exact .some ⟨agree, agree⟩

/-- A client cannot tell the servers apart but by the data it reads: from their
start they come back from the same requests, with the same replies otherwise. -/
theorem servers_agree (a : Adapter) (reqs : List SvcReq) :
    Machine.Together ResultsAgree (List.Forall₂ RepliesButData)
      (Machine.exec (replies svcRun) (.boot a) reqs)
      (Machine.exec (replies Standalone.svcRun) StandaloneVxi.boot reqs) := by
  have started : ResultsAgree (.boot a) StandaloneVxi.boot := ⟨rfl, rfl⟩
  apply Machine.exec_together _ started
  apply svcRun_fronts.together Standalone.svcRun_fronts (fun _ => Or.inl rfl) _ vxiStep_together
  intro req exchange exchange' same
  exact replyTo_sameButData same

end ScpiVxiTmc.Vxi11
