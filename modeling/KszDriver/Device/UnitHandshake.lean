import KszDriver.Core.Simulation
import KszDriver.Device.System

/-
  How the unit process is started and ended: `InitUnitProcess`
  and `ExpungeUnit` in the task that opens or closes the unit,
  and the two ends of `DevProcEntry` in the process, with the
  steps of both in any order.

  The opener allocates the unit, creates the process, sends it
  the startup message and waits for the reply.  The closer
  enters itself as `eu_Proc`, signals the process and waits to
  be signalled back, then frees the unit.  Both sides wait for
  the same signal, `SIGBREAKF_CTRL_F`, which others may send
  too.  One task opens or closes at a time.

  Main declarations:
    * `Handshake`, `CallerPlace`, `ProcessPlace`
    * `callerStep`, `processStep`
    * `handshakeMachine`, `Handshake.Calm`
-/

------------------------------------------------------------
-- The Two Tasks
------------------------------------------------------------

namespace KszDriver

inductive UnitTask where
| caller
| process
deriving DecidableEq, Repr

/- Where the task is that opens or closes the unit; `unittask`
   is what `ExpungeUnit` found in `eu_Proc`. -/
inductive CallerPlace where
| outside
| sendingStartup
| awaitingReply
| gotReply
| signalling (unittask : Option UnitTask)
| awaitingEnd
| freeing
deriving DecidableEq, Repr

/- Where the process is, if there is one. -/
inductive ProcessPlace where
| absent
| awaitingStartup
| settingUp
| readingConfig
| replying
| serving
| leaving
deriving DecidableEq, Repr

/- Where `ed_Startup` is. -/
inductive StartupMessage where
| unused
| sent
| taken
| replied
deriving DecidableEq, Repr

/-
  The memory of the unit: `eu_Proc`, whether `eu_Tx` has been
  created, and the fields that the driver sees once the unit
  is entered into `ed_Units`.
-/
structure EtherUnit where
  euProc : Option UnitTask
  euTx : Bool
  fields : DeviceDriverUnit

/-
  The driver and the two tasks.  `etherUnit` is the memory of
  the unit while it is allocated, `replyPort` says whether the
  reply port exists, and the breaks are pending CTRL_F signals
  of the two tasks.

  `fault` notes that memory was used that is not allocated,
  or a task signalled that has ended.
-/
structure Handshake where
  driver : Driver
  env : OpenEnv
  caller : CallerPlace
  process : ProcessPlace
  startup : StartupMessage
  replyPort : Bool
  etherUnit : Option EtherUnit
  callerBreak : Bool
  processBreak : Bool
  fault : Bool

namespace Handshake

/- Read or write the unit structure. -/
def access
    (f : EtherUnit → EtherUnit)
    (p : Handshake) : Handshake :=
  match p.etherUnit with
  | some etherUnit => { p with etherUnit := some (f etherUnit) }
  | none => { p with fault := true }

/- `Signal(task, SIGBREAKF_CTRL_F)` -/
def signal :
    Option UnitTask → Handshake → Handshake
| some .caller, p => { p with callerBreak := true }
| some .process, p =>
    if p.process = .absent then { p with fault := true }
    else { p with processBreak := true }
| none, p => { p with fault := true }

/- `eu_Proc`, which is read. -/
def euProc (p : Handshake) : Option UnitTask :=
  p.etherUnit.bind EtherUnit.euProc

/- What `CreateNewProc` and the allocations before it need. -/
def Starts (env : OpenEnv) : Prop :=
  env.unitMem ∧ env.replyPort ∧ env.process

instance (env : OpenEnv) : Decidable (Starts env) := by
  unfold Starts
  infer_instance

------------------------------------------------------------
-- The Task That Opens or Closes
------------------------------------------------------------

/-
  `InitUnitProcess` up to `CreateNewProc`.  The structure is
  cleared; what could not be allocated is freed again.
-/
def enterInitUnitProcess
    (env : OpenEnv)
    (p : Handshake) : Handshake :=
  if p.driver.base.unit0 then p
  else if Starts env then
    { p with
      env := env
      caller := .sendingStartup
      process := .awaitingStartup
      replyPort := true
      etherUnit := some
        { euProc := some .process
          euTx := false
          fields := { newUnit with stAddr := fun _ => 0#8 } }
      processBreak := false }
  else p

/- `ExpungeUnit` up to the signal. -/
def enterExpungeUnit (p : Handshake) : Handshake :=
  if p.driver.base.unit0 then
    { p.access (fun u => { u with euProc := some .caller }) with
      caller := .signalling p.euProc }
  else p

/- The unit is entered into `ed_Units`. -/
def publish (p : Handshake) : Handshake :=
  match p.etherUnit with
  | some etherUnit =>
      { p with
        driver :=
          { p.driver with
            lists := newLists p.driver.lists
            unit := etherUnit.fields }.setBase
              (fun b => { b with unit0 := true })
        caller := .outside }
  | none => { p with fault := true }

/- `FreeMem` of the unit. -/
def freeUnit (p : Handshake) : Handshake :=
  { p.access id with etherUnit := none }

/- The caller is not blocked. -/
def CallerRuns (p : Handshake) : Prop :=
  match p.caller with
  | .outside => False
  | .awaitingReply => p.startup = .replied
  | .awaitingEnd => p.callerBreak = true
  | _ => True

instance (p : Handshake) : Decidable p.CallerRuns := by
  unfold CallerRuns
  cases p.caller <;> dsimp only <;> infer_instance

/- The next step of the caller. -/
def callerStep (p : Handshake) : Handshake :=
  match p.caller with
  | .outside => p
  | .sendingStartup =>
      { p with startup := .sent, caller := .awaitingReply }
  | .awaitingReply =>
      { p with
        startup := .unused
        replyPort := false
        caller := .gotReply }
  | .gotReply =>
      if p.euProc = none then
        { p.freeUnit with caller := .outside }
      else p.publish
  | .signalling unittask =>
      { p.signal unittask with caller := .awaitingEnd }
  | .awaitingEnd =>
      { p with callerBreak := false, caller := .freeing }
  | .freeing =>
      { p.freeUnit with
        driver := p.driver.setBase
          (fun b => { b with unit0 := false })
        caller := .outside }

------------------------------------------------------------
-- The Unit Process
------------------------------------------------------------

/- `ETHERUF_ONLINE` is cleared and the low level driver shut
   down. -/
def shutDown (s : Driver) : Driver :=
  (s.setUnit (fun u =>
    { u with state := u.state &&& ~~~etherufOnline })).runNic
      ksz8851Deinit

/- The process is not blocked, and does not serve the unit
   as it does between its two ends. -/
def ProcessRuns (p : Handshake) : Prop :=
  match p.process with
  | .absent => False
  | .awaitingStartup => p.startup = .sent
  | .serving => p.processBreak = true
  | _ => True

instance (p : Handshake) : Decidable p.ProcessRuns := by
  unfold ProcessRuns
  cases p.process <;> dsimp only <;> infer_instance

/- The next step of the process. -/
def processStep (p : Handshake) : Handshake :=
  match p.process with
  | .absent => p
  | .awaitingStartup =>
      { p with startup := .taken, process := .settingUp }
  | .settingUp =>
      { p.access (fun u =>
          { euProc := some .process
            euTx := true
            fields :=
              { u.fields with
                stAddr := ksz8851GetStationAddress } }) with
        process := .readingConfig }
  | .readingConfig =>
      { p.access (fun u =>
          { u with
            fields :=
              { u.fields with stAddr := p.env.configAddr } })
          with
        process := .replying }
  | .replying =>
      { p with
        startup := .replied
        fault := p.fault || !p.replyPort
        process := .serving }
  | .serving =>
      { p.access id with
        driver := shutDown p.driver
        processBreak := false
        process := .leaving }
  | .leaving =>
      { (p.access id).signal p.euProc with process := .absent }

/- The configuration is read again before the unit is
   entered. -/
def rereadConfig (p : Handshake) : Handshake :=
  p.access (fun u =>
    { u with
      fields := { u.fields with stAddr := p.env.configAddr } })

end Handshake

------------------------------------------------------------
-- Runs
------------------------------------------------------------

/-
  A step of the handshake.  `work` is what the process does
  in its loop, `other` what everybody else does to the driver,
  `fileWritten` a change of the configuration file, and the
  breaks are signals that come from elsewhere.
-/
inductive HandshakeInput where
| initUnitProcess (env : OpenEnv)
| expungeUnit
| caller
| process
| work (s : Driver)
| rereadConfig
| other (s : Driver)
| fileWritten (addr : MacAddr)
| breakCaller
| breakProcess

namespace Handshake

def next (p : Handshake) : HandshakeInput → Handshake
| .initUnitProcess env => p.enterInitUnitProcess env
| .expungeUnit => p.enterExpungeUnit
| .caller => p.callerStep
| .process => p.processStep
| .work s => { p.access id with driver := s }
| .rereadConfig => p.rereadConfig
| .other s => { p with driver := s }
| .fileWritten addr =>
    { p with env := { p.env with configAddr := addr } }
| .breakCaller => { p with callerBreak := true }
| .breakProcess => { p with processBreak := true }

/- Only the two functions change `ed_Units`. -/
def Allowed (p : Handshake) : HandshakeInput → Prop
| .initUnitProcess _ | .expungeUnit => p.caller = .outside
| .caller => p.CallerRuns
| .process => p.ProcessRuns
| .work s =>
    p.process = .serving ∧ p.driver.base.unit0 = true ∧
      s.base.unit0 = true
| .rereadConfig =>
    p.process = .serving ∧ p.driver.base.unit0 = false
| .other s => s.base.unit0 = p.driver.base.unit0
| .fileWritten _ | .breakCaller => True
| .breakProcess => p.process ≠ .absent

instance (p : Handshake) :
    (i : HandshakeInput) → Decidable (p.Allowed i)
| .initUnitProcess _ | .expungeUnit =>
    inferInstanceAs (Decidable (p.caller = .outside))
| .caller => inferInstanceAs (Decidable p.CallerRuns)
| .process => inferInstanceAs (Decidable p.ProcessRuns)
| .work s =>
    inferInstanceAs (Decidable (p.process = .serving ∧
      p.driver.base.unit0 = true ∧ s.base.unit0 = true))
| .rereadConfig =>
    inferInstanceAs (Decidable (p.process = .serving ∧
      p.driver.base.unit0 = false))
| .other s =>
    inferInstanceAs
      (Decidable (s.base.unit0 = p.driver.base.unit0))
| .fileWritten _ | .breakCaller => isTrue trivial
| .breakProcess =>
    inferInstanceAs (Decidable (p.process ≠ .absent))

/- The unit is closed and nothing is pending. -/
def Start (p : Handshake) : Prop :=
  p.driver.base.unit0 = false ∧ p.caller = .outside ∧
    p.process = .absent ∧ p.startup = .unused ∧
    p.replyPort = false ∧ p.etherUnit.isNone ∧
    p.callerBreak = false ∧ p.processBreak = false ∧
    p.fault = false

/- No CTRL_F comes from elsewhere. -/
def Calm (_ : Handshake) : HandshakeInput → Prop
| .breakCaller | .breakProcess => False
| _ => True

instance (p : Handshake) :
    (i : HandshakeInput) → Decidable (p.Calm i)
| .breakCaller | .breakProcess => isFalse id
| .initUnitProcess _ | .expungeUnit | .caller | .process
| .work _ | .rereadConfig | .other _ | .fileWritten _ =>
    isTrue trivial

end Handshake

/- All runs of the two tasks. -/
def handshakeMachine : Machine Handshake HandshakeInput where
  Start := Handshake.Start
  Allowed := Handshake.Allowed
  next := Handshake.next

end KszDriver
