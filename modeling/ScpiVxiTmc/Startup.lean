import ScpiVxiTmc.Usb.Descriptors
import ScpiVxiTmc.Usb.Endpoints
import ScpiVxiTmc.Vxi.Dispatch

set_option autoImplicit false

/- The start of the program, up to the point where its threads run. -/
namespace ScpiVxiTmc

open Vxi11 (Program)

/-- `mountGadgetfs`: whether the directory is there, and what `mkdir` returns if it
is not. The result of the mount is only printed. -/
def mountGadgetfs (there : Bool) (mkdir : Int) : Int := if ¬ there ∧ mkdir ≠ 0 then -1 else 0

/-- How it goes with the file of the device: it cannot be opened, the write fails,
or it takes so many bytes. -/
inductive DeviceFile
  | openFails (errno : Errno)
  | writeFails (fd : Nat)
  | wrote (fd : Nat) (status : Nat)

/-- What `usb_tmc_init` meets. -/
structure UsbEnv where
  there : Bool
  mkdir : Int
  found : Bool
  stack : ImageBuf
  file : DeviceFile
  /-- `pthread_create` for the control thread succeeds. -/
  creates : Bool

/-- `init_device`: its result, the descriptors it opened and closed, and the tables
as `autoconfig` left them; none if it leaves its buffer. -/
def initDevice (t : Descriptors) (env : UsbEnv) :
    Option ((Int × List (Ledger.Entry Int)) × Descriptors) :=
  let configured := t.autoconfig env.found
  if configured.1 < 0 then some ((configured.1, []), configured.2)
  else
    match env.file with
    | .openFails errno => some ((-errno.value, []), configured.2)
    | .writeFails fd => (deviceImage configured.2 env.stack).map fun _ =>
        ((-1, [.opened fd, .closed fd]), configured.2)
    | .wrote fd status => (deviceImage configured.2 env.stack).map fun image =>
        if status ≠ image.2 then ((-5, [.opened fd, .closed fd]), configured.2)
        else ((fd, [.opened fd]), configured.2)

/-- What is left of a start: a return value, the descriptors opened and closed, and
the one that the control thread is given. -/
structure UsbStart where
  retValue : Int
  files : List (Ledger.Entry Int)
  ep0 : Option Int

/-- `usb_tmc_init` -/
def usbTmcInit (t : Descriptors) (env : UsbEnv) : Option UsbStart :=
  if mountGadgetfs env.there env.mkdir < 0 then some ⟨-1, [], none⟩
  else (initDevice t env).map fun device =>
    if device.1.1 < 0 then ⟨-1, device.1.2, none⟩
    else if env.creates then ⟨0, device.1.2, some device.1.1⟩
    else ⟨-1, device.1.2, none⟩

/-- The transports of the network server. -/
inductive Protocol
  | udp
  | tcp
  deriving DecidableEq

/-- A call of `vxi11_init` whose failure ends it. -/
inductive SvcCall
  | create (protocol : Protocol)
  | register (program : Program) (protocol : Protocol)
  deriving DecidableEq

/-- The calls of `vxi11_init` in their order, after the programs have been removed
from the port mapper. -/
def vxi11Calls : List SvcCall :=
  [.create .udp, .register .async .udp, .register .core .udp, .register .intr .udp,
    .create .tcp, .register .async .tcp, .register .core .tcp, .register .intr .tcp]

/-- One call after the other, up to the first that fails. -/
def svcCalls (succeeds : SvcCall → Bool) : List SvcCall → Int × List SvcCall
  | [] => (0, [])
  | call :: rest =>
      if succeeds call then
        let later := svcCalls succeeds rest
        (later.1, call :: later.2)
      else (-1, [])

/-- `vxi11_init`: its result, and the calls that succeeded. -/
def vxi11Init (succeeds : SvcCall → Bool) : Int × List SvcCall := svcCalls succeeds vxi11Calls

/-- What `scpi_adpt_init` meets: whether the message queue is there or else can be
created, and what its parts meet. -/
structure AdptEnv where
  queueThere : Bool
  queueCreated : Bool
  usb : UsbEnv
  succeeds : SvcCall → Bool

/-- What has been started. -/
structure Started where
  retValue : Int
  usb : UsbStart
  calls : List SvcCall

/-- `scpi_adpt_init`. A part that fails is reported and otherwise passed over. -/
def scpiAdptInit (t : Descriptors) (env : AdptEnv) : Option Started :=
  if ¬ env.queueThere ∧ ¬ env.queueCreated then some ⟨-1, ⟨-1, [], none⟩, []⟩
  else (usbTmcInit t env.usb).map fun usb => ⟨0, usb, (vxi11Init env.succeeds).2⟩

/-- The controller is there, and the kernel took all that `init_device` wrote to its
file. -/
def UsbEnv.Taken (t : Descriptors) (env : UsbEnv) : Prop :=
  env.found = true ∧ ∃ fd image, deviceImage (t.autoconfig true).2 env.stack = some image ∧
    env.file = .wrote fd image.2

/-- The device is open, and there is no control thread to take it. -/
def AdptEnv.Orphans (t : Descriptors) (env : AdptEnv) : Prop :=
  (env.queueThere = true ∨ env.queueCreated = true) ∧
    0 ≤ mountGadgetfs env.usb.there env.usb.mkdir ∧ env.usb.Taken t ∧ env.usb.creates = false

theorem autoconfig_wellFormed {t : Descriptors} (wellFormed : t.WellFormed) (found : Bool) :
    (t.autoconfig found).2.WellFormed := by
  cases found with
  | false => exact wellFormed
  | true =>
      refine ⟨wellFormed.device, wellFormed.config, wellFormed.interface, ?_, ?_, wellFormed.few⟩
      · have seven := wellFormed.fs
        simp only [Descriptors.fsEps, List.forall_mem_cons] at seven ⊢
        exact seven
      · have seven := wellFormed.hs
        simp only [Descriptors.hsEps, List.forall_mem_cons] at seven ⊢
        exact seven

theorem initDevice_wrote {t : Descriptors} {env : UsbEnv} {fd : Nat} {image : ImageBuf × Nat}
    (found : env.found = true) (built : deviceImage (t.autoconfig true).2 env.stack = some image)
    (wrote : env.file = .wrote fd image.2) :
    initDevice t env = some (((fd : Int), [.opened (fd : Int)]), (t.autoconfig true).2) := by
  have configured : (t.autoconfig true).1 = 0 := rfl
  simp only [initDevice, found, configured, wrote, built, Int.lt_irrefl, ↓reduceIte,
    Option.map_some, ne_eq, not_true_eq_false]

/-- Where `init_device` fails, whatever it opened is closed again. -/
theorem initDevice_not_taken {t : Descriptors} (wellFormed : t.WellFormed) {env : UsbEnv}
    (refused : ¬ env.Taken t) :
    ∃ retValue files after, initDevice t env = some ((retValue, files), after) ∧ retValue < 0 ∧
      Ledger.Safe [] files ∧ Ledger.live [] files = [] := by
  have closed (fd : Nat) : Ledger.Safe [] [.opened (fd : Int), .closed (fd : Int)] ∧
      Ledger.live [] [.opened (fd : Int), .closed (fd : Int)] = [] := by
    simp [Ledger.Safe, Ledger.Along, Ledger.UsesHeld, Ledger.live, Ledger.hold]
  cases found : env.found with
  | false =>
      refine ⟨-19, [], t, ?_, by decide, trivial, rfl⟩
      simp only [initDevice, found]
      rfl
  | true =>
      have configured : (t.autoconfig true).1 = 0 := rfl
      obtain ⟨filled, count, built, _⟩ :=
        deviceImage_eq (autoconfig_wellFormed wellFormed true) env.stack
      cases wrote : env.file with
      | openFails errno =>
          refine ⟨-errno.value, [], (t.autoconfig true).2, ?_, errno.neg_lt_zero, trivial, rfl⟩
          simp only [initDevice, found, configured, wrote, Int.lt_irrefl, ↓reduceIte]
      | writeFails fd =>
          refine ⟨-1, _, (t.autoconfig true).2, ?_, by decide, closed fd⟩
          simp only [initDevice, found, configured, wrote, built, Int.lt_irrefl, ↓reduceIte,
            Option.map_some]
      | wrote fd status =>
          have short : status ≠ count := by
            rintro rfl
            exact refused ⟨found, fd, _, built, wrote⟩
          refine ⟨-5, _, (t.autoconfig true).2, ?_, by decide, closed fd⟩
          simp only [initDevice, found, configured, wrote, built, Int.lt_irrefl, ↓reduceIte,
            Option.map_some, ne_eq, short, not_false_eq_true]

/-- What a start of the gadget leaves open is the descriptor of its control thread,
unless the device was configured and the thread not created. -/
theorem usbTmcInit_files {t : Descriptors} (wellFormed : t.WellFormed) (env : UsbEnv) :
    ∃ start, usbTmcInit t env = some start ∧ Ledger.Safe [] start.files ∧
      (start.retValue = 0 ↔ start.ep0.isSome) ∧
      (Ledger.live [] start.files = start.ep0.toList ↔
        ¬ (0 ≤ mountGadgetfs env.there env.mkdir ∧ env.Taken t ∧ env.creates = false)) := by
  by_cases mounted : mountGadgetfs env.there env.mkdir < 0
  · refine ⟨⟨-1, [], none⟩, if_pos mounted, trivial, ?_, ?_⟩
    · exact iff_of_false (by decide) Bool.false_ne_true
    · exact iff_of_true rfl fun all => absurd all.1 (Int.not_le.mpr mounted)
  · have kept := Int.not_lt.mp mounted
    by_cases taken : env.Taken t
    · obtain ⟨found, fd, image, built, wrote⟩ := taken
      have device := initDevice_wrote found built wrote
      have isOpen : ¬ (fd : Int) < 0 := by omega
      cases creates : env.creates with
      | true =>
          refine ⟨⟨0, [.opened (fd : Int)], some fd⟩, ?_, ⟨trivial, trivial⟩, ?_, ?_⟩
          · simp only [usbTmcInit, mounted, ↓reduceIte, device, Option.map_some, isOpen, creates]
          · exact iff_of_true rfl rfl
          · exact iff_of_true rfl fun all => Bool.noConfusion all.2.2
      | false =>
          refine ⟨⟨-1, [.opened (fd : Int)], none⟩, ?_, ⟨trivial, trivial⟩, ?_, ?_⟩
          · simp only [usbTmcInit, mounted, ↓reduceIte, device, Option.map_some, isOpen, creates,
              Bool.false_eq_true]
          · exact iff_of_false (show (-1 : Int) ≠ 0 by decide) Bool.false_ne_true
          · apply iff_of_false (List.cons_ne_nil _ _)
            exact fun fine => fine ⟨kept, ⟨found, fd, image, built, wrote⟩, rfl⟩
    · obtain ⟨retValue, files, after, device, failed, safe, closed⟩ :=
        initDevice_not_taken wellFormed taken
      refine ⟨⟨-1, files, none⟩, ?_, safe, ?_, ?_⟩
      · simp only [usbTmcInit, mounted, ↓reduceIte, device, Option.map_some, failed]
      · exact iff_of_false (show (-1 : Int) ≠ 0 by decide) Bool.false_ne_true
      · exact iff_of_true closed fun all => taken all.2.1

theorem svcCalls_front (succeeds : SvcCall → Bool) (calls : List SvcCall) :
    (svcCalls succeeds calls).2 <+: calls := by
  induction calls with
  | nil => exact List.prefix_refl _
  | cons call rest ih =>
      cases done : succeeds call with
      | true =>
          simp only [svcCalls, done, ↓reduceIte]
          exact List.cons_prefix_cons.mpr ⟨rfl, ih⟩
      | false =>
          simp only [svcCalls, done, Bool.false_eq_true, ↓reduceIte]
          exact List.nil_prefix

/-- The programs are served over UDP, all of them, before one is over TCP. -/
theorem udp_before_tcp {succeeds : SvcCall → Bool} {program : Program}
    (registered : .register program .tcp ∈ (vxi11Init succeeds).2) (other : Program) :
    .register other .udp ∈ (vxi11Init succeeds).2 := by
  let front : List SvcCall :=
    [.create .udp, .register .async .udp, .register .core .udp, .register .intr .udp]
  have early : front <+: vxi11Calls := ⟨_, rfl⟩
  have among : SvcCall.register other .udp ∈ front := by
    cases other <;> decide
  have behind : SvcCall.register program .tcp ∉ front := by
    cases program <;> decide
  rcases List.prefix_or_prefix_of_prefix (svcCalls_front succeeds vxi11Calls) early with
    before | all
  · exact absurd (before.subset registered) behind
  · exact all.subset among

theorem initial_wellFormed : Descriptors.initial.WellFormed where
  device := rfl
  config := rfl
  interface := rfl
  fs := by decide
  hs := by decide
  few := by decide

/-- However a start goes, the descriptor that is left open is that of the control
thread, unless the device was configured and the thread not created; and the network
is served over TCP only where all programs are served over UDP. -/
theorem startup_accounts (env : AdptEnv) :
    ∃ started, scpiAdptInit .initial env = some started ∧
      Ledger.Safe [] started.usb.files ∧
      (Ledger.live [] started.usb.files = started.usb.ep0.toList ↔ ¬ env.Orphans .initial) ∧
      ∀ program other, .register program .tcp ∈ started.calls →
        .register other .udp ∈ started.calls := by
  by_cases queue : ¬ env.queueThere = true ∧ ¬ env.queueCreated = true
  · refine ⟨_, if_pos queue, trivial, iff_of_true rfl ?_, ?_⟩
    · exact fun orphans => orphans.1.elim queue.1 queue.2
    · exact fun _ _ registered => absurd registered List.not_mem_nil
  · obtain ⟨start, ran, safe, _, files⟩ := usbTmcInit_files initial_wellFormed env.usb
    have ready : env.queueThere = true ∨ env.queueCreated = true := by
      rw [not_and_or, not_not, not_not] at queue
      exact queue
    refine ⟨⟨0, start, (vxi11Init env.succeeds).2⟩, ?_, safe, ?_, ?_⟩
    · rw [scpiAdptInit, if_neg queue, ran]
      rfl
    · rw [files, AdptEnv.Orphans, and_iff_right ready]
    · exact fun _ other registered => udp_before_tcp registered other

/-- `main`: whether the application's thread is created decides if the process goes
on to serve the network. -/
def mainStart (t : Descriptors) (env : AdptEnv) (creates : Bool) : Option (Option Started) :=
  (scpiAdptInit t env).map fun started => if creates then some started else none

end ScpiVxiTmc
