import ScpiVxiTmc.Vxi.Dispatch

set_option autoImplicit false

/- What comes of a request to the integrated server, whatever its bytes are. -/
namespace ScpiVxiTmc.Vxi11

open Xdr

variable {σ : Type}

/-- The switch that a request of a program meets. -/
def Program.switchOf (write : Procedure σ DeviceWriteParms DeviceWriteResp)
    (read : Procedure σ DeviceReadParms DeviceReadResp) : Program → Nat → Option (Service σ)
  | .async => asyncSwitch
  | .core => coreSwitch write read
  | .intr => intrSwitch

abbrev Program.switch : Program → Nat → Option (Service VxiServer) :=
  Program.switchOf deviceWrite1Svc deviceRead1Svc

/-- The number is not that of the null procedure, and the switch has a case for it. -/
def Chooses (switch : Nat → Option (Service σ)) (rqProc : Nat) (service : Service σ) : Prop :=
  rqProc ≠ 0 ∧ switch rqProc = some service

/-- Whatever the procedure returns can be sent, and arrives as it is. -/
structure Service.Answers (service : Service σ) : Prop where
  sendable : ∀ accepted server v result after,
    service.procedure accepted server v = some (result, after) → service.result.Sendable result
  received : ∀ sender receiver result, service.result.received sender receiver result = result

/-- A call over the wire: the argument encoded by the client, the server's run, and
the results decoded by the client. -/
def remoteCall (client : Host) (service : Service VxiServer) (program : Program) (rqProc : Nat)
    (host : Host) (accepted : Bool) (server : VxiServer) (v : service.argument.Value) :
    Option (Option service.result.Value × VxiServer) :=
  ((service.argument.xdr client).encode v).bind fun bytes =>
    (svcRun server ⟨program, rqProc, bytes, host, accepted⟩).map fun done =>
      (match done.1.reply with
        | .results reply => ((service.result.xdr client).decode reply).map Prod.fst
        | _ => none, done.2)

theorem svcRun_eq (server : VxiServer) (req : SvcReq) :
    svcRun server req = dispatch req.program.switch server req := by
  unfold svcRun Program.switch Program.switchOf
  cases req.program with
  | async => rfl
  | core => rfl
  | intr => rfl

theorem dispatch_of_chosen {switch : Nat → Option (Service σ)} {req : SvcReq}
    {service : Service σ} (chosen : Chooses switch req.rqProc service) (server : σ) :
    dispatch switch server req = service.serve server req := by
  rw [dispatch, if_neg chosen.1, chosen.2]

theorem serve_of_decode {service : Service σ} {req : SvcReq} {v : service.argument.Value}
    {rest : List UInt8} (read : (service.argument.xdr req.host).decode req.args = some (v, rest))
    (server : σ) :
    service.serve server req = (service.procedure req.accepted server v).map fun done =>
      (⟨svcSendreply req.host service.result done.1,
        (service.argument.xdr req.host).free v⟩, done.2) := by
  simp only [Service.serve, read]

theorem unwritten_answers {argument result : Message} {value : result.Value}
    (sendable : result.Sendable value)
    (received : ∀ sender receiver v, result.received sender receiver v = v) :
    (⟨argument, result, unwritten value⟩ : Service σ).Answers := by
  refine ⟨?_, received⟩
  intro accepted server v given after returned
  simp only [unwritten, Option.some.injEq, Prod.mk.injEq] at returned
  exact returned.1 ▸ sendable

theorem asyncSwitch_answers {rqProc : Nat} {service : Service σ}
    (chosen : asyncSwitch rqProc = some service) : service.Answers := by
  unfold asyncSwitch at chosen
  split at chosen
  · cases chosen
    exact unwritten_answers trivial fun _ _ _ => rfl
  · cases chosen

theorem intrSwitch_answers {rqProc : Nat} {service : Service σ}
    (chosen : intrSwitch rqProc = some service) : service.Answers := by
  unfold intrSwitch at chosen
  split at chosen
  · cases chosen
    exact unwritten_answers trivial fun _ _ _ => rfl
  · cases chosen

theorem coreSwitch_answers {write : Procedure σ DeviceWriteParms DeviceWriteResp}
    {read : Procedure σ DeviceReadParms DeviceReadResp}
    (short : ∀ accepted server argp resp after,
      read accepted server argp = some (resp, after) → resp.data.length ≤ 4294967295)
    {rqProc : Nat} {service : Service σ} (chosen : coreSwitch write read rqProc = some service) :
    service.Answers := by
  have plain {argument : Message} :
      ∀ result : DeviceError, (⟨argument, .deviceError, unwritten result⟩ : Service σ).Answers :=
    fun _ => unwritten_answers trivial fun _ _ _ => rfl
  unfold coreSwitch at chosen
  split at chosen
  all_goals cases chosen
  · exact ⟨fun _ _ _ _ _ _ => trivial, fun _ _ _ => rfl⟩
  · exact ⟨fun _ _ _ _ _ _ => trivial, fun _ _ _ => rfl⟩
  · exact ⟨short, fun _ _ _ => rfl⟩
  · exact unwritten_answers trivial fun _ _ _ => rfl
  · exact plain ⟨0⟩
  · exact plain ⟨0⟩
  · exact plain ⟨0⟩
  · exact plain ⟨0⟩
  · exact plain ⟨0⟩
  · exact plain ⟨0⟩
  · exact plain ⟨0⟩
  · exact unwritten_answers (Nat.zero_le _) fun _ _ _ => rfl
  · exact ⟨fun _ _ _ _ _ _ => trivial, fun _ _ _ => rfl⟩
  · exact plain ⟨0⟩
  · exact plain ⟨0⟩

theorem deviceRead1Svc_short (accepted : Bool) (server : VxiServer) (argp : DeviceReadParms)
    (resp : DeviceReadResp) (after : VxiServer)
    (read : deviceRead1Svc accepted server argp = some (resp, after)) :
    resp.data.length ≤ 4294967295 := by
  rw [deviceRead1Svc, Option.some.injEq, Prod.mk.injEq] at read
  have bufsize : (deviceRead server argp.used).2.tmpBuf.toList.length = 2048 :=
    Vector.length_toList
  rw [← read.1]
  show ((deviceRead server argp.used).2.tmpBuf.toList.take _).length ≤ _
  rw [List.length_take]
  omega

theorem switch_answers {program : Program} {rqProc : Nat} {service : Service VxiServer}
    (chosen : program.switch rqProc = some service) : service.Answers := by
  cases program with
  | async => exact asyncSwitch_answers chosen
  | core => exact coreSwitch_answers deviceRead1Svc_short chosen
  | intr => exact intrSwitch_answers chosen

theorem svcSendreply_of_answers {service : Service σ} (answers : service.Answers) (host : Host)
    {accepted : Bool} {server after : σ} {v : service.argument.Value}
    {result : service.result.Value}
    (returned : service.procedure accepted server v = some (result, after)) :
    ∃ bytes, svcSendreply host service.result result = .results bytes ∧
      (service.result.xdr host).encode result = some bytes := by
  have sendable := answers.sendable accepted server v result after returned
  rcases Option.isSome_iff_exists.mp
    ((message_encode_isSome host service.result result).mpr sendable) with ⟨bytes, put⟩
  exact ⟨bytes, by rw [svcSendreply, put]; rfl, put⟩

/-- A call over the wire is the call of the procedure on what arrives of the
argument, for every procedure of the three programs. -/
theorem remote_call_is_local (client host : Host) (clientRoom : ∀ size, client.alloc size = true)
    (hostRoom : ∀ size, host.alloc size = true) (program : Program) (rqProc : Nat)
    (service : Service VxiServer) (chosen : Chooses program.switch rqProc service)
    (v : service.argument.Value) (sendable : service.argument.Sendable v) (accepted : Bool)
    (server : VxiServer) :
    remoteCall client service program rqProc host accepted server v =
      (service.procedure accepted server (service.argument.received client host v)).map
        fun done => (some done.1, done.2) := by
  rcases Option.isSome_iff_exists.mp
    ((message_encode_isSome client service.argument v).mpr sendable) with ⟨bytes, put⟩
  have read := message_conveys client host service.argument v bytes put
    (fun size _ => hostRoom size) []
  rw [List.append_nil] at read
  rw [remoteCall, put, Option.bind_some, svcRun_eq, dispatch_of_chosen chosen,
    serve_of_decode read]
  have answers := switch_answers chosen.2
  cases returned : service.procedure accepted server
      (service.argument.received client host v) with
  | none => rfl
  | some done =>
      rcases svcSendreply_of_answers answers host returned with ⟨reply, sent, putReply⟩
      have back := message_conveys host client service.result done.1 reply putReply
        (fun size _ => clientRoom size) []
      rw [List.append_nil, answers.received] at back
      simp only [Option.map_some, sent, back]

/-- The call of `create_link` by a client, from the adapter after its initialisation. -/
theorem remote_create_link_is_local :
    remoteCall ⟨true, fun _ => true⟩ ⟨.createLinkParms, .createLinkResp, createLink1Svc⟩ .core 10
        ⟨false, fun _ => true⟩ true (.boot .init) ⟨1, 0, 0, [105, 110, 115, 116, 48]⟩ =
      (createLink1Svc true (.boot .init) (Message.createLinkParms.received ⟨true, fun _ => true⟩
        ⟨false, fun _ => true⟩ ⟨1, 0, 0, [105, 110, 115, 116, 48]⟩)).map
          fun done => (some done.1, done.2) :=
  remote_call_is_local ⟨true, fun _ => true⟩ ⟨false, fun _ => true⟩ (fun _ => rfl) (fun _ => rfl)
    .core 10 ⟨.createLinkParms, .createLinkResp, createLink1Svc⟩ ⟨by decide, rfl⟩
    ⟨1, 0, 0, [105, 110, 115, 116, 48]⟩ (show 5 < 4294967295 by decide) true (.boot .init)

theorem Chooses.unique {switch : Nat → Option (Service σ)} {rqProc : Nat}
    {service other : Service σ} (chosen : Chooses switch rqProc service)
    (also : Chooses switch rqProc other) : service = other := by
  have same := chosen.2
  rwa [also.2, Option.some.injEq, eq_comm] at same

/-- A request with more data to write than the procedure has room for. -/
def SvcReq.Overruns (req : SvcReq) : Prop :=
  req.program = .core ∧ req.rqProc = 11 ∧ ∃ argp rest,
    (xdrDeviceWriteParms req.host).decode req.args = some (argp, rest) ∧ 100 < argp.data.length

/-- What a procedure other than `device_write` is asked, it comes back. -/
theorem switch_returns {program : Program} {rqProc : Nat} {service : Service VxiServer}
    (chosen : program.switch rqProc = some service) (other : ¬ (program = .core ∧ rqProc = 11))
    (accepted : Bool) (server : VxiServer) (v : service.argument.Value) :
    service.procedure accepted server v ≠ none := by
  cases program with
  | async =>
      simp only [Program.switch, Program.switchOf, asyncSwitch] at chosen
      split at chosen
      all_goals cases chosen
      exact Option.some_ne_none _
  | intr =>
      simp only [Program.switch, Program.switchOf, intrSwitch] at chosen
      split at chosen
      all_goals cases chosen
      exact Option.some_ne_none _
  | core =>
      simp only [Program.switch, Program.switchOf, coreSwitch] at chosen
      split at chosen
      case h_2 => exact absurd ⟨rfl, rfl⟩ other
      all_goals cases chosen
      all_goals exact Option.some_ne_none _

theorem deviceWrite1Svc_eq_none {accepted : Bool} {server : VxiServer} {argp : DeviceWriteParms} :
    deviceWrite1Svc accepted server argp = none ↔ 100 < argp.data.length := by
  rw [deviceWrite1Svc, Option.map_eq_none_iff, deviceWrite_eq]
  show (if argp.data.length ≤ 100 then _ else none) = none ↔ _
  by_cases short : argp.data.length ≤ 100
  · rw [if_pos short]
    exact iff_of_false (Option.some_ne_none _) (Nat.not_lt.mpr short)
  · rw [if_neg short]
    exact iff_of_true rfl (Nat.lt_of_not_le short)

theorem serve_eq_none_iff {service : Service σ} {server : σ} {req : SvcReq} :
    service.serve server req = none ↔ ∃ v rest,
      (service.argument.xdr req.host).decode req.args = some (v, rest) ∧
        service.procedure req.accepted server v = none := by
  cases read : (service.argument.xdr req.host).decode req.args with
  | none => simp [Service.serve, read]
  | some got =>
      rw [serve_of_decode read, Option.map_eq_none_iff]
      constructor
      · intro stuck
        exact ⟨got.1, got.2, rfl, stuck⟩
      · rintro ⟨v, rest, same, stuck⟩
        rw [Option.some.injEq] at same
        rwa [same]

theorem svcRun_eq_none_iff (server : VxiServer) (req : SvcReq) :
    svcRun server req = none ↔ req.Overruns := by
  rw [svcRun_eq]
  by_cases null : req.rqProc = 0
  · rw [dispatch, if_pos null]
    refine iff_of_false (Option.some_ne_none _) ?_
    rintro ⟨_, eleven, _⟩
    omega
  · cases chosen : req.program.switch req.rqProc with
    | none =>
        rw [dispatch, if_neg null, chosen]
        refine iff_of_false (Option.some_ne_none _) ?_
        rintro ⟨core, eleven, _⟩
        rw [core, eleven] at chosen
        cases chosen
    | some service =>
        rw [dispatch_of_chosen ⟨null, chosen⟩, serve_eq_none_iff]
        by_cases writes : req.program = .core ∧ req.rqProc = 11
        · rw [writes.1, writes.2] at chosen
          cases chosen
          constructor
          · rintro ⟨argp, rest, read, stuck⟩
            exact ⟨writes.1, writes.2, argp, rest, read, deviceWrite1Svc_eq_none.mp stuck⟩
          · rintro ⟨_, _, argp, rest, read, long⟩
            exact ⟨argp, rest, read, deviceWrite1Svc_eq_none.mpr long⟩
        · constructor
          · rintro ⟨v, rest, _, stuck⟩
            exact absurd stuck (switch_returns chosen writes req.accepted server v)
          · rintro ⟨core, eleven, _⟩
            exact absurd ⟨core, eleven⟩ writes

/-- The server comes back from every sequence of requests, whatever their bytes,
that has no write of more than 100 bytes in it, and from no other. -/
theorem server_stuck_iff (server : VxiServer) (reqs : List SvcReq) :
    Machine.exec svcRun server reqs = none ↔ ∃ req ∈ reqs, req.Overruns :=
  Machine.exec_eq_none_iff svcRun_eq_none_iff server reqs

end ScpiVxiTmc.Vxi11
