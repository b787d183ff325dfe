import KszDriver.Device.Calls
import KszDriver.Device.UnitLife

/-
  The device on a chip that changes while nobody looks, and
  notes about the calls of the low level driver.

  Besides the steps of the device the unit process handles
  the events of the chip, and everything but the footing of
  the low level driver may change at any time.

  Main declarations:
    * `Notes`
    * `stationMachine`
    * `treads_program`, `treads_callsProgram`
    * `runOn_callsProgram`
-/

------------------------------------------------------------
-- Notes
------------------------------------------------------------

namespace KszDriver

/- The words of the station address registers. -/
def Chip.stationWords (c : Chip) : List UWORD :=
  [c.reg regMarh, c.reg regMarm, c.reg regMarl]

/-
  What the latest `ksz8851Init` returned, what the latest
  `ksz8851SetNetworkAddress` left in the chip, and the
  addresses in the requests that configured the unit.
-/
structure Notes where
  lastInit : Option ErrorT
  programmed : Option (List UWORD)
  configured : List MacAddr

/- Note what a call is about to do. -/
def Notes.call (notes : Notes) (n : NicState) :
    LowLevelCall → Notes
| .init =>
    { notes with lastInit := some (ksz8851Init.runOn n).1 }
| .setNetworkAddress addr =>
    { notes with
      programmed := some
        ((LowLevelCall.setNetworkAddress addr).run
          n).chip.stationWords }
| _ => notes

/- Note what several calls do. -/
def Notes.calls :
    Notes → List LowLevelCall → NicState → Notes
| notes, [], _ => notes
| notes, c :: cs, n =>
    (notes.call n c).calls cs (c.run n)

/- The address that an event configures the unit with. -/
def Event.configures : Event → Option MacAddr
| .terminated _ req =>
    if req.Configures then some req.srcAddr else none
| _ => none

/- Note how the unit was configured since it is there. -/
def Notes.configuring
    (notes : Notes) (s s' : Driver) : Notes :=
  { notes with
    configured :=
      if s'.base.unit0 then
        (s.since s').filterMap Event.configures ++
          notes.configured
      else [] }

------------------------------------------------------------
-- The Machine
------------------------------------------------------------

structure Station where
  driver : Driver
  notes : Notes

/-
  The unit process handles events of the chip, or something
  else runs: the interrupt server, the chip itself, or what
  allocates and frees signals and memory.
-/
inductive StationInput where
| device (op : Op)
| processEvents
| interfere (n : NicState)

/- Whoever interferes keeps the footing: the fields of it are
   written by the unit process alone. -/
def Interferes (n n' : NicState) : Prop :=
  n'.footing = n.footing

/- Something else has run. -/
def Driver.setNic (s : Driver) (n : NicState) : Driver :=
  { s with nic := n }

/- The programs that follow each other in a step. -/
def callsProgram : List LowLevelCall → NicM Unit
| [] => pure ()
| c :: cs => do
    c.program
    callsProgram cs

namespace Station

def next (st : Station) : StationInput → Station
| .device op =>
    { driver := st.driver.next op
      notes :=
        (st.notes.calls (st.driver.calls op)
          st.driver.nic).configuring st.driver
            (st.driver.next op) }
| .processEvents =>
    { st with
      driver := st.driver.runNic ksz8851EventHandler }
| .interfere n => { st with driver := st.driver.setNic n }

def Allowed (st : Station) : StationInput → Prop
| .device op => op.Allowed st.driver
| .processEvents => st.driver.base.unit0 = true
| .interfere n => Interferes st.driver.nic n

/- What a step does to the chip. -/
def program (st : Station) : StationInput → NicM Unit
| .device op => callsProgram (st.driver.calls op)
| .processEvents => do
    let _ ← ksz8851EventHandler
| .interfere _ => pure ()

/- The driver is loaded, with its data as initialised. -/
def Start (st : Station) : Prop :=
  st.driver.Start ∧
    st.driver.nic.footing =
      { nest := 0
        servers := 0
        signalTask := false
        sigNumber := -1
        rxBuffer := false } ∧
    st.notes =
      { lastInit := none
        programmed := none
        configured := [] }

end Station

/- All runs of the device on the changing chip. -/
def stationMachine : Machine Station StationInput where
  Start := Station.Start
  Allowed := Station.Allowed
  next := Station.next

instance decidableStationAllowed
    (st : Station) (i : StationInput) :
    Decidable (st.Allowed i) := by
  cases i <;> unfold Station.Allowed
  · infer_instance
  · infer_instance
  · unfold Interferes
    infer_instance

instance decidableStationRuns
    (C : Station → StationInput → Prop)
    [hGuard : ∀ st i, Decidable (C st i)]
    (inputs : List StationInput)
    (st : Station) :
    Decidable (stationMachine.Runs C inputs st) :=
  Machine.decidableRuns stationMachine C
    (fun st i => inferInstanceAs (Decidable (st.Allowed i)))
    hGuard inputs st

instance decidableStationFree
    (st : Station) (i : StationInput) :
    Decidable (Machine.Free st i) :=
  isTrue trivial

/- A station just loaded. -/
def loadedStation (regs : UBYTE → UWORD) : Station where
  driver := loadedDriver regs
  notes :=
    { lastInit := none, programmed := none, configured := [] }

theorem start_loadedStation (regs : UBYTE → UWORD) :
    (loadedStation regs).Start :=
  ⟨start_loadedDriver regs, rfl, rfl⟩

------------------------------------------------------------
-- The Footing after a Call
------------------------------------------------------------

section Footings

variable {w w' : Footing}

theorem Footing.Grounded.unlinked
    (hGrounded : w.Grounded) :
    w.unlinked.servers = 0 ∧
      w.unlinked.signalTask = false := by
  unfold Footing.Grounded at hGrounded
  unfold Footing.unlinked
  cases hTask : w.signalTask with
  | true =>
      rw [hTask, if_pos rfl] at hGrounded
      simp [hGrounded]
  | false =>
      rw [hTask] at hGrounded
      simpa [hTask] using hGrounded

theorem Footing.nest_unlinked (w : Footing) :
    w.unlinked.nest = w.nest := by
  unfold Footing.unlinked
  split <;> rfl

theorem Installs.grounded
    (hInstalls : Installs w w')
    (hGrounded : w.Grounded) :
    w'.Grounded := by
  unfold Footing.Grounded at hGrounded ⊢
  cases hInstalls with
  | already hTask => exact hGrounded
  | noSignal hTask => exact hGrounded
  | links hTask sigNumber hSignal =>
      rw [hTask] at hGrounded
      simpa [Footing.linked] using hGrounded

theorem Installs.nest
    (hInstalls : Installs w w') :
    w'.nest = w.nest := by
  cases hInstalls <;> rfl

theorem goes_dumpRegisters
    (hQuiet : w.Quiet)
    (count : Nat)
    (i : UBYTE) :
    Goes w w (dumpRegisters count i) := by
  induction count generalizing i with
  | zero => exact goes_pure ()
  | succ count ih =>
      exact (goes_readReg hQuiet i).bind (fun _ => ih _)

/- The registers are read when the server is unlinked. -/
theorem goes_deinit (hGrounded : w.Grounded) :
    Goes w w.unlinked ksz8851Deinit :=
  goes_offline.bind (fun _ =>
    goes_dumpRegisters (Or.inr hGrounded.unlinked.1) 128 0#8)

/- What every call keeps: the driver knows whether its server
   is linked, and enables as often as it disables. -/
def Footing.Settles (w w' : Footing) : Prop :=
  w'.Grounded ∧ w'.nest = w.nest

theorem Footing.Grounded.settles_unlinked
    (hGrounded : w.Grounded) :
    w.Settles w.unlinked := by
  refine ⟨?_, w.nest_unlinked⟩
  unfold Footing.Grounded
  rw [hGrounded.unlinked.1, hGrounded.unlinked.2]
  rfl

/- A program that is followed by nothing but its result. -/
theorem treads_discard
    {α : Type}
    {p : NicM α}
    {Q : Footing → Prop}
    (hTreads : Treads w p (fun _ => Q)) :
    Treads w (do let _ ← p) (fun _ => Q) :=
  hTreads.bind (fun _ _ hGoal => treads_pure hGoal)

theorem Goes.settles
    {α : Type}
    {p : NicM α}
    (hGoes : Goes w w' p)
    (hSettles : w.Settles w') :
    Treads w p (fun _ => w.Settles) := by
  apply Program.Walks.mono hGoes
  intro _ v hEnd
  rw [hEnd]
  exact hSettles

/- Only the probe does not disable interrupts itself. -/
theorem treads_program
    (c : LowLevelCall)
    (hGrounded : w.Grounded)
    (hProbe : c = .probe → w.Quiet) :
    Treads w c.program (fun _ => w.Settles) := by
  have hSame : w.Settles w := ⟨hGrounded, rfl⟩
  cases c with
  | setReceiver =>
      exact (goes_setInterface (fun _ => rfl) (fun _ => rfl)
        (fun _ => rfl)).settles hSame
  | probe =>
      exact treads_discard
        ((goes_detectNICEndiness (hProbe rfl)).settles hSame)
  | init =>
      apply treads_discard
      apply Program.Walks.mono (treads_init (w := w))
      rintro result w' ⟨rxBuffer, rfl, -⟩
      exact ⟨hGrounded, rfl⟩
  | online =>
      apply Program.Walks.mono (treads_online (w := w))
      intro _ w' hInstalls
      exact ⟨hInstalls.grounded hGrounded, hInstalls.nest⟩
  | offline =>
      exact goes_offline.settles hGrounded.settles_unlinked
  | deinit =>
      exact (goes_deinit hGrounded).settles
        hGrounded.settles_unlinked
  | setNetworkAddress addr =>
      exact (goes_setNetworkAddress addr).settles hSame
  | sendPacket buffer length =>
      exact treads_discard
        ((goes_sendPacket buffer length).settles hSame)
  | sendPacketCooked dst src packetType payload length =>
      exact treads_discard
        ((goes_sendPacketCooked dst src packetType payload
          length).settles hSame)

/- Calls one after the other. -/
theorem treads_callsProgram
    {cs : List LowLevelCall}
    (hGrounded : w.Grounded)
    (hProbe : .probe ∉ cs) :
    Treads w (callsProgram cs) (fun _ => w.Settles) := by
  induction cs generalizing w with
  | nil => exact treads_pure ⟨hGrounded, rfl⟩
  | cons c cs ih =>
      have hHead : c = .probe → w.Quiet := by
        rintro rfl
        exact absurd List.mem_cons_self hProbe
      apply (treads_program c hGrounded hHead).bind
      intro _ v hSettles
      have hTail : .probe ∉ cs :=
        fun hIn => hProbe (List.mem_cons_of_mem c hIn)
      apply Program.Walks.mono (ih hSettles.1 hTail)
      intro _ v' hSettles'
      exact ⟨hSettles'.1, hSettles'.2.trans hSettles.2⟩

theorem treads_probe
    (hGrounded : w.Grounded)
    (hQuiet : w.Quiet) :
    Treads w (callsProgram [.probe]) (fun _ => w.Settles) :=
  (treads_program .probe hGrounded (fun _ => hQuiet)).bind
    (fun _ _ hSettles => treads_pure hSettles)

end Footings

/- The programs of the calls run as the calls do. -/
theorem runOn_callsProgram
    (cs : List LowLevelCall) (n : NicState) :
    ((callsProgram cs).runOn n).2 = runCalls cs n := by
  induction cs generalizing n with
  | nil => rfl
  | cons c cs ih =>
      have hRun :
          (callsProgram (c :: cs)).runOn n =
            (callsProgram cs).runOn (c.run n) :=
        Program.run_bind c.program
          (fun _ => callsProgram cs) n
      rw [hRun]
      exact ih (c.run n)

------------------------------------------------------------
-- Calls That Send
------------------------------------------------------------

section Calls

variable {c : LowLevelCall}
variable {o : Outcome} {ios2 : APTR} {s : Driver}

theorem sends_of_mem_sendCalls
    (hMem : c ∈ sendCalls o ios2 s) :
    c.Sends := by
  unfold sendCalls rawCalls cookedCalls copiedCalls at hMem
  dsimp only at hMem
  split at hMem
  · split at hMem
    · rw [List.mem_singleton.mp hMem]
      trivial
    · exact absurd hMem List.not_mem_nil
  · split at hMem
    · split at hMem
      · rw [List.mem_singleton.mp hMem]
        trivial
      · split at hMem
        · rw [List.mem_singleton.mp hMem]
          trivial
        · exact absurd hMem List.not_mem_nil
    · exact absurd hMem List.not_mem_nil

theorem sends_of_mem_sendLoopCalls
    {rs : List APTR}
    (hMem : c ∈ sendLoopCalls o rs s) :
    c.Sends := by
  induction rs generalizing s with
  | nil => exact absurd hMem List.not_mem_nil
  | cons ios2 rs ih =>
      rcases List.mem_append.mp hMem with hFirst | hLater
      · exact sends_of_mem_sendCalls hFirst
      · exact ih hLater

theorem sends_of_mem_writeCalls
    (hMem : c ∈ writeCalls o ios2 s) :
    c.Sends := by
  unfold writeCalls sendAllCalls at hMem
  split at hMem
  · exact sends_of_mem_sendLoopCalls hMem
  · exact absurd hMem List.not_mem_nil

/- Other commands than those that switch the unit only send
   packets. -/
theorem sends_of_mem_dispatchCalls
    {command : UWORD}
    (hSteady : ¬ Switches command)
    (hMem : c ∈ dispatchCalls o command ios2 s) :
    c.Sends := by
  unfold Switches at hSteady
  rw [not_or, not_or] at hSteady
  unfold dispatchCalls at hMem
  rw [if_neg hSteady.1, if_neg hSteady.2.1,
    if_neg hSteady.2.2] at hMem
  split at hMem
  · exact sends_of_mem_writeCalls hMem
  split at hMem
  · exact sends_of_mem_writeCalls hMem
  split at hMem
  · exact sends_of_mem_writeCalls hMem
  · exact absurd hMem List.not_mem_nil

theorem sends_of_mem_beginCalls
    (hMem : c ∈ s.calls (.beginIo ios2 o)) :
    c.Sends := by
  unfold Driver.calls at hMem
  dsimp only at hMem
  split at hMem
  · rename_i hNow
    exact sends_of_mem_dispatchCalls
      (Driver.not_switches_of_performedNow hNow) hMem
  · exact absurd hMem List.not_mem_nil

/- The calls of the commands that switch the unit. -/
theorem dispatchCalls_s2Online :
    dispatchCalls o s2Online ios2 s = onlineCalls s := rfl

theorem dispatchCalls_s2Offline :
    dispatchCalls o s2Offline ios2 s =
      if s.Online then [.offline] else [] := rfl

theorem dispatchCalls_s2ConfigInterface :
    dispatchCalls o s2ConfigInterface ios2 s =
      configCalls ios2 s := rfl

/- No command probes the chip. -/
theorem probe_not_mem_dispatchCalls (command : UWORD) :
    .probe ∉ dispatchCalls o command ios2 s := by
  intro hMem
  by_cases hSwitches : Switches command
  · rcases hSwitches with rfl | rfl | rfl
    · rw [dispatchCalls_s2Online, onlineCalls] at hMem
      split at hMem <;> simp [goOnlineCalls] at hMem
    · rw [dispatchCalls_s2Offline] at hMem
      split at hMem <;> simp at hMem
    · rw [dispatchCalls_s2ConfigInterface, configCalls] at hMem
      split at hMem
      · simp at hMem
      · split at hMem <;> simp [goOnlineCalls] at hMem
  · exact sends_of_mem_dispatchCalls hSwitches hMem

/- Only an open does. -/
theorem probes_of_mem_calls
    {op : Op}
    (hMem : .probe ∈ s.calls op) :
    ∃ ios2 s2unit s2flags env,
      op = .openDevice ios2 s2unit s2flags env ∧
        Probes s2unit s2flags env s := by
  cases op with
  | openDevice ios2 s2unit s2flags env =>
      unfold Driver.calls at hMem
      dsimp only at hMem
      split at hMem
      · rename_i hProbes
        exact ⟨ios2, s2unit, s2flags, env, rfl, hProbes⟩
      · exact absurd hMem List.not_mem_nil
  | close ios2 =>
      unfold Driver.calls at hMem
      dsimp only at hMem
      split at hMem <;> simp at hMem
  | beginIo ios2 o =>
      exact (sends_of_mem_beginCalls hMem).elim
  | serviceMsgPort o =>
      unfold Driver.calls at hMem
      dsimp only at hMem
      split at hMem
      · exact absurd hMem List.not_mem_nil
      · exact absurd hMem (probe_not_mem_dispatchCalls _)
  | expunge => exact absurd hMem List.not_mem_nil
  | abortIo ios2 => exact absurd hMem List.not_mem_nil
  | pktReceived buffer size o =>
      exact absurd hMem List.not_mem_nil
  | doEvent events => exact absurd hMem List.not_mem_nil
  | configChanged addr => exact absurd hMem List.not_mem_nil
  | clientWrite ios2 req => exact absurd hMem List.not_mem_nil
  | hardware regs => exact absurd hMem List.not_mem_nil

end Calls

/- The first request in the port of the unit. -/
theorem next_serviceMsgPort
    {s : Driver}
    {ios2 : APTR}
    {others : List APTR}
    (hFirst : s.lists .unitMsgPort = ios2 :: others)
    (o : Outcome) :
    s.next (.serviceMsgPort o) =
        performIo o ios2 (s.remove ios2) ∧
      s.calls (.serviceMsgPort o) =
        performCalls o ios2 (s.remove ios2) := by
  unfold Driver.next Driver.calls serviceMsgPort
  dsimp only
  rw [hFirst]
  exact ⟨rfl, rfl⟩

------------------------------------------------------------
-- The Configuration Bit
------------------------------------------------------------

namespace Driver

variable (ios2 : APTR) {s s' : Driver}

/- The state bits say whether the unit is configured. -/
theorem Steady.configured
    (hSteady : Steady s s') :
    s'.Configured ↔ s.Configured := by
  rw [Configured, Configured, hSteady.state]

/- Going online sets another bit. -/
theorem configured_goOnline :
    (goOnline s).Configured ↔ s.Configured := by
  have hState :
      s.started.unit.state =
        s.unit.state ||| etherufOnline := by
    unfold started
    rfl
  have hApart : etherufOnline &&& etherufConfig = 0#32 := by
    decide
  rw [goOnline_eq,
    (Steady.refl.doEvent s2eventOnline).configured,
    Configured, hState, BitVec.and_or_distrib_right, hApart,
    BitVec.or_zero, Configured]

theorem configured_devCmdOnline :
    (devCmdOnline ios2 s).Configured ↔ s.Configured := by
  unfold devCmdOnline
  split
  · split
    · exact (Steady.refl.termIo ios2).configured
    · exact (Steady.refl.termIo ios2).configured.trans
        configured_goOnline
  · exact (Steady.refl.termWithError ios2 _ _).configured

theorem configured_goOffline :
    (goOffline s).Configured ↔ s.Configured := by
  have hApart :
      ~~~etherufOnline &&& etherufConfig = etherufConfig := by
    decide
  rw [(steady_goOffline s).configured, Configured, setUnit,
    BitVec.and_assoc, hApart, Configured]

theorem configured_devCmdOffline :
    (devCmdOffline (some ios2) s).Configured ↔
      s.Configured := by
  unfold devCmdOffline
  dsimp only
  rw [(Steady.refl.termIo ios2).configured]
  split
  · exact configured_goOffline
  · exact Iff.rfl

/- A unit is configured by one command only, and for good. -/
theorem configured_performIo
    (o : Outcome)
    (hKeeps : (s.reqs ios2).ioCommand = s2ConfigInterface →
      s.Configured) :
    (performIo o ios2 s).Configured ↔ s.Configured := by
  by_cases hSwitches : Switches (s.reqs ios2).ioCommand
  · unfold performIo
    rcases hSwitches with hCommand | hCommand | hCommand
    · rw [hCommand, dispatch_s2Online]
      exact configured_devCmdOnline ios2
    · rw [hCommand, dispatch_s2Offline]
      exact configured_devCmdOffline ios2
    · have hDone : (s.resetError ios2).Configured :=
        hKeeps hCommand
      rw [hCommand, dispatch_s2ConfigInterface]
      unfold devCmdConfigInterface
      exact (congrArg Configured (if_pos hDone)).to_iff.trans
        (Steady.refl.termWithError ios2 _ _).configured
  · exact (steady_performIo o ios2 s hSwitches).configured

/- Requests do not wait for the chip. -/
theorem Waits.setNic
    (hWaits : s.Waits)
    (n : NicState) :
    (s.setNic n).Waits where
  conserved := hWaits.conserved.congr rfl rfl (fun _ => rfl)
  orderly := hWaits.orderly.thins (Thins.of_same rfl rfl rfl)

end Driver

end KszDriver
