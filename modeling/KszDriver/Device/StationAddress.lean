import KszDriver.Device.Station
import KszDriver.Nic.TxStream

/-
  The station address of the driver and that of the chip.

  A request configures the unit with an address, which the
  driver stores and programs into the chip.  A change of the
  configuration file only stores one.

  Main declarations:
    * `Station.Agrees`
    * `FileKeepsAddress`
    * `agrees_iff`
-/

------------------------------------------------------------
-- Agreement
------------------------------------------------------------

namespace KszDriver

/- An address as the registers of the chip hold it. -/
def MacAddr.words (addr : MacAddr) : List UWORD :=
  [addr.memory.wordAt 0, addr.memory.wordAt 2,
    addr.memory.wordAt 4]

/- A configured unit has the address that the chip was given
   last, and that one request configured it with. -/
def Station.Agrees (st : Station) : Prop :=
  st.driver.base.unit0 = true → st.driver.Configured →
    st.notes.programmed =
        some (MacAddr.words st.driver.unit.stAddr) ∧
      st.notes.configured = [st.driver.unit.stAddr]

/- The unit agrees after the step. -/
def Station.StaysAgreed (st : Station) (i : StationInput) :
    Prop :=
  (st.next i).Agrees

/- The configuration file does not tell a configured unit
   another address. -/
def FileKeepsAddress (st : Station) : StationInput → Prop
| .device (.configChanged addr) =>
    st.driver.Configured → addr = st.driver.unit.stAddr
| _ => True

------------------------------------------------------------
-- Notes of a Step
------------------------------------------------------------

section Notes

variable {s s' mid : Driver} {notes : Notes} {ios2 : APTR}

/- No request was ended that configured the unit. -/
theorem configures_since_of_none
    (hNone : Driver.NoneConfigured s s') :
    (s.since s').filterMap Event.configures = [] := by
  rcases hNone with ⟨newer, hLog, hNone⟩
  rw [since_of_append hLog, List.filterMap_eq_nil_iff]
  intro event hMem
  cases event with
  | terminated r req => exact if_neg (hNone r req hMem)
  | _ => rfl

/- One request was ended that did, and nothing since. -/
theorem configures_since_of_ended
    (hNone : Driver.NoneConfigured s mid)
    (hConfigures : (mid.reqs ios2).Configures) :
    (s.since (mid.termIo ios2)).filterMap
        Event.configures =
      [(mid.reqs ios2).srcAddr] := by
  have hMid := configures_since_of_none hNone
  rcases hNone with ⟨newer, hLog, -⟩
  have hEnded : (mid.termIo ios2).log =
      (.terminated ios2 (mid.reqs ios2) :: newer) ++
        s.log := by
    rw [Driver.log_termIo, hLog]
    rfl
  have hHead :
      Event.configures (.terminated ios2 (mid.reqs ios2)) =
        some (mid.reqs ios2).srcAddr :=
    if_pos hConfigures
  rw [since_of_append hLog] at hMid
  rw [since_of_append hEnded,
    List.filterMap_cons_some hHead, hMid]

/- What is noted when nobody configures the unit. -/
theorem configuring_of_none
    (notes : Notes)
    (hNone : Driver.NoneConfigured s s') :
    (notes.configuring s s').configured =
      if s'.base.unit0 then notes.configured else [] := by
  unfold Notes.configuring
  rw [configures_since_of_none hNone]
  rfl

/- A call that does not set the address. -/
theorem programmed_call
    {c : LowLevelCall}
    (n : NicState)
    (hOther : ∀ addr, c ≠ .setNetworkAddress addr) :
    (notes.call n c).programmed = notes.programmed := by
  cases c with
  | setNetworkAddress addr => exact absurd rfl (hOther addr)
  | _ => rfl

theorem programmed_calls
    {cs : List LowLevelCall}
    (n : NicState)
    (hOther : ∀ addr, .setNetworkAddress addr ∉ cs) :
    (notes.calls cs n).programmed = notes.programmed := by
  induction cs generalizing notes n with
  | nil => rfl
  | cons c cs ih =>
      unfold Notes.calls
      rw [ih _ (fun addr hIn =>
        hOther addr (List.mem_cons_of_mem c hIn))]
      apply programmed_call
      rintro addr rfl
      exact hOther addr List.mem_cons_self

theorem configured_calls
    (cs : List LowLevelCall) (n : NicState) :
    (notes.calls cs n).configured = notes.configured := by
  induction cs generalizing notes n with
  | nil => rfl
  | cons c cs ih =>
      unfold Notes.calls
      rw [ih]
      cases c <;> rfl

end Notes

/- A register other than the interrupt status is written. -/
theorem reg_ksz8851WriteReg
    {offset : UBYTE}
    (hOther : offset ≠ regIsr)
    (value : UWORD)
    (n : NicState) :
    ((ksz8851WriteReg offset value).runOn n).2.chip.reg =
      Function.update n.chip.reg offset value := by
  have hReg := Chip.reg_writeReg offset value
    (n.access offset).chip
  rw [if_neg hOther] at hReg
  rw [runOn_ksz8851WriteReg]
  exact hReg

theorem stationWords_setNetworkAddress
    (addr : MacAddr) (n : NicState) :
    ((LowLevelCall.setNetworkAddress addr).run
      n).chip.stationWords = addr.words := by
  unfold LowLevelCall.run LowLevelCall.program
    ksz8851SetNetworkAddress Chip.stationWords MacAddr.words
  dsimp only
  rw [NicM.runOn_bind, NicM.runOn_bind, NicM.runOn_bind,
    NicM.runOn_bind]
  have hEnable (m : NicState) :
      (enable.runOn m).2.chip = m.chip := rfl
  rw [hEnable, reg_ksz8851WriteReg (by decide),
    reg_ksz8851WriteReg (by decide),
    reg_ksz8851WriteReg (by decide)]
  have hHigh : regMarh ≠ regMarm ∧ regMarh ≠ regMarl ∧
      regMarm ≠ regMarl := by
    decide
  rw [Function.update_of_ne hHigh.2.1,
    Function.update_of_ne hHigh.1, Function.update_self,
    Function.update_of_ne hHigh.2.2, Function.update_self,
    Function.update_self]

------------------------------------------------------------
-- The Invariant
------------------------------------------------------------

namespace Station

/-
  The requests are in order, a configured unit agrees with
  its notes, and nobody has configured another one.
-/
structure Addressed (st : Station) : Prop where
  waits : st.driver.Waits
  agrees : st.Agrees
  fresh :
    ¬ (st.driver.base.unit0 = true ∧ st.driver.Configured) →
      st.notes.configured = []

/-
  From `st` to `st'` nothing has happened to the address.  A
  unit that is there was there before.
-/
structure Holds (st st' : Station) : Prop where
  unit0 : st'.driver.base.unit0 = true →
    st.driver.base.unit0 = true ∧
      st'.driver.unit.stAddr = st.driver.unit.stAddr ∧
      (st'.driver.Configured ↔ st.driver.Configured)
  programmed : st'.notes.programmed = st.notes.programmed
  configured :
    st'.notes.configured =
      if st'.driver.base.unit0 then st.notes.configured
      else []

variable {st st' : Station}

theorem Addressed.holds
    (hAddressed : st.Addressed)
    (hHolds : Holds st st')
    (hWaits : st'.driver.Waits) :
    st'.Addressed where
  waits := hWaits
  agrees := by
    intro hUnit hDone
    rcases hHolds.unit0 hUnit with ⟨hBefore, hSame, hBit⟩
    rw [hHolds.programmed, hHolds.configured, if_pos hUnit,
      hSame]
    exact hAddressed.agrees hBefore (hBit.mp hDone)
  fresh := by
    intro hNot
    rw [hHolds.configured]
    by_cases hUnit : st'.driver.base.unit0 = true
    · rw [if_pos hUnit]
      apply hAddressed.fresh
      rintro ⟨-, hDone⟩
      exact hNot
        ⟨hUnit, (hHolds.unit0 hUnit).2.2.mpr hDone⟩
    · rw [if_neg hUnit]

------------------------------------------------------------
-- Steps That Hold the Address
------------------------------------------------------------

variable {op : Op}

/- The calls set no address and no request is ended that
   configures the unit. -/
theorem holds_device
    (hUnit : (st.driver.next op).base.unit0 = true →
      st.driver.base.unit0 = true ∧
        (st.driver.next op).unit.stAddr =
          st.driver.unit.stAddr ∧
        ((st.driver.next op).Configured ↔
          st.driver.Configured))
    (hCalls : ∀ addr,
      .setNetworkAddress addr ∉ st.driver.calls op)
    (hNone : Driver.NoneConfigured st.driver
      (st.driver.next op)) :
    Holds st (st.next (.device op)) where
  unit0 := hUnit
  programmed := programmed_calls st.driver.nic hCalls
  configured := by
    have hNotes := configuring_of_none
      (st.notes.calls (st.driver.calls op) st.driver.nic)
      hNone
    rw [configured_calls] at hNotes
    exact hNotes

/- Nothing of the unit changes but its openers. -/
theorem holds_of_alone
    (hUnit : (st.driver.next op).base.unit0 = true →
      st.driver.base.unit0 = true ∧
        (st.driver.next op).unit.alone =
          st.driver.unit.alone)
    (hCalls : ∀ addr,
      .setNetworkAddress addr ∉ st.driver.calls op)
    (hNone : Driver.NoneConfigured st.driver
      (st.driver.next op)) :
    Holds st (st.next (.device op)) := by
  apply holds_device _ hCalls hNone
  intro hThere
  rcases hUnit hThere with ⟨hBefore, hAlone⟩
  have hAddress := congrArg DeviceDriverUnit.stAddr hAlone
  change (st.driver.next op).unit.stAddr =
    st.driver.unit.stAddr at hAddress
  exact ⟨hBefore, hAddress,
    Driver.configured_of_alone hAlone⟩

/- The steps that are steady. -/
theorem holds_of_steady
    (hSteady : Driver.Steady st.driver (st.driver.next op))
    (hAddress : (st.driver.next op).unit.stAddr =
      st.driver.unit.stAddr)
    (hCalls : ∀ addr,
      .setNetworkAddress addr ∉ st.driver.calls op)
    (hNone : Driver.NoneConfigured st.driver
      (st.driver.next op)) :
    Holds st (st.next (.device op)) := by
  apply holds_device _ hCalls hNone
  intro hThere
  rw [hSteady.base] at hThere
  exact ⟨hThere, hAddress, hSteady.configured⟩

end Station

------------------------------------------------------------
-- Performing
------------------------------------------------------------

namespace Driver

variable {s s' : Driver} {ios2 : APTR} {o : Outcome}

theorem Performs.noneConfigured
    (hPerforms : Performs ios2 s s')
    (hOther : (s.reqs ios2).ioCommand ≠ s2ConfigInterface) :
    NoneConfigured s s' := by
  cases hPerforms with
  | ends hThins => exact hThins.log
  | waits head hJoins => exact hJoins.log
  | configures mid hThins hOwn hUnit hDone =>
      apply hThins.log.trans
      apply NoneConfigured.of_cons
        (.terminated ios2 (mid.reqs ios2))
      · rw [hDone, log_termIo]
      · intro r req hEvent hConfigures
        have hReq := (Event.terminated.inj hEvent).2
        rw [← hReq, hOwn] at hConfigures
        exact hOther hConfigures.1

/- A command that does not configure the unit. -/
theorem Holding.noneConfigured_performIo
    (hHold : Holding ios2 s)
    (o : Outcome)
    (hPending :
      (s.reqs ios2).ioCommand = s2OnEvent →
        (s.reqs ios2).lnType = ntMessage)
    (hKeeps : (s.reqs ios2).ioCommand = s2ConfigInterface →
      s.Configured) :
    NoneConfigured s (KszDriver.performIo o ios2 s) := by
  have hReset := thins_resetError (s := s) ios2
  apply hReset.log.trans
  by_cases hConfig :
      (s.reqs ios2).ioCommand = s2ConfigInterface
  · have hDone : (s.resetError ios2).Configured :=
      hKeeps hConfig
    have hEnded :
        KszDriver.devCmdConfigInterface ios2
            (s.resetError ios2) =
          (s.resetError ios2).termWithError ios2
            s2errBadState s2werrIsConfigured :=
      if_pos hDone
    unfold KszDriver.performIo
    rw [hConfig, dispatch_s2ConfigInterface]
    have hThins :
        Thins (s.resetError ios2)
          ((s.resetError ios2).termWithError ios2
            s2errBadState s2werrIsConfigured) :=
      thins_termWithError (hReset.free hHold.free)
        (by decide)
    rw [← hEnded] at hThins
    exact hThins.log
  · apply (hHold.performIo o hPending).noneConfigured
    unfold resetError
    rw [reqs_setReq, if_pos rfl]
    exact hConfig

theorem Waits.noneConfigured_beginIo
    (hWaits : s.Waits)
    (hOwned : s.Owned ios2)
    (o : Outcome) :
    NoneConfigured s (KszDriver.deviceBeginIo o ios2 s) := by
  have hTaken := thins_submitted (s := s) ios2
  have hHold := (hWaits.holding hOwned).thins hTaken
  unfold KszDriver.deviceBeginIo
  dsimp only
  split
  · rename_i hNow
    apply hTaken.log.trans
    apply hHold.noneConfigured_performIo
    · intro hEvent
      rw [hEvent] at hNow
      exact absurd hNow (by decide)
    · intro hConfig
      rw [hConfig] at hNow
      exact absurd hNow (by decide)
  · apply hTaken.log.trans
    apply NoneConfigured.of_cons (.queued ios2 .unitMsgPort)
    · rfl
    · intro r req hEvent
      cases hEvent

end Driver

/- Only the command that configures the unit sets its
   address. -/
theorem setNetworkAddress_not_mem
    {o : Outcome}
    {ios2 : APTR}
    {s : Driver}
    {command : UWORD}
    (hKeeps : command = s2ConfigInterface → s.Configured)
    (addr : MacAddr) :
    .setNetworkAddress addr ∉
      dispatchCalls o command ios2 s := by
  intro hMem
  by_cases hSwitches : Switches command
  · rcases hSwitches with rfl | rfl | rfl
    · rw [dispatchCalls_s2Online, onlineCalls] at hMem
      split at hMem <;> simp [goOnlineCalls] at hMem
    · rw [dispatchCalls_s2Offline] at hMem
      split at hMem <;> simp at hMem
    · rw [dispatchCalls_s2ConfigInterface, configCalls,
        if_pos (hKeeps rfl)] at hMem
      exact absurd hMem List.not_mem_nil
  · exact sends_of_mem_dispatchCalls hSwitches hMem

namespace Station

variable {st : Station} {ios2 : APTR} {o : Outcome}

/- A command that does not configure the unit. -/
theorem holds_serviceMsgPort
    {others : List APTR}
    (hWaits : st.driver.Waits)
    (hFirst : st.driver.lists .unitMsgPort = ios2 :: others)
    (hKeeps :
      (st.driver.reqs ios2).ioCommand = s2ConfigInterface →
        st.driver.Configured) :
    Holds st (st.next (.device (.serviceMsgPort o))) := by
  rcases next_serviceMsgPort hFirst o with ⟨hNext, hCalls⟩
  have hMem : ios2 ∈ st.driver.lists .unitMsgPort := by
    rw [hFirst]
    exact List.mem_cons_self
  have hHold := hWaits.orderly.remove ios2
  apply holds_device
  · intro hUnit
    rw [hNext] at hUnit ⊢
    rw [(serves_performIo o ios2 _).base] at hUnit
    have hWire := wire_performIo o ios2
      (st.driver.remove ios2) hKeeps
    exact ⟨hUnit, stAddr_of_wire hWire,
      Driver.configured_performIo ios2 o hKeeps⟩
  · rw [hCalls]
    exact setNetworkAddress_not_mem hKeeps
  · rw [hNext]
    exact (Driver.thins_remove ios2).log.trans
      (hHold.noneConfigured_performIo o
        (fun _ => hWaits.orderly.pending .unitMsgPort ios2
          hMem) hKeeps)

/- The address in the request is programmed, and not changed
   when the unit then goes online. -/
theorem programmed_configCalls
    {notes : Notes}
    {s : Driver}
    (hNot : ¬ s.Configured)
    (n : NicState) :
    (notes.calls (configCalls ios2 s) n).programmed =
      some (s.reqs ios2).srcAddr.words := by
  unfold configCalls
  rw [if_neg hNot]
  unfold Notes.calls
  rw [programmed_calls]
  · exact congrArg some
      (stationWords_setNetworkAddress _ n)
  · intro addr hMem
    split at hMem <;> simp [goOnlineCalls] at hMem

/- The request is ended as one that configured the unit. -/
theorem configures_since_config
    {s t : Driver}
    (hHold : Driver.Holding ios2 t)
    (hNone : Driver.NoneConfigured s t)
    (hNot : ¬ t.Configured)
    (hConfigures : (t.reqs ios2).Configures) :
    (s.since (devCmdConfigInterface ios2 t)).filterMap
        Event.configures =
      [(t.reqs ios2).srcAddr] := by
  rcases hHold.exists_configures hNot with
    ⟨mid, hThins, hOwn, -, hDone⟩
  rw [hDone, ← hOwn]
  apply configures_since_of_ended (hNone.trans hThins.log)
  rw [hOwn]
  exact hConfigures

/- The request that configures the unit. -/
theorem Addressed.configures
    {others : List APTR}
    (hAddressed : st.Addressed)
    (hUnit : st.driver.base.unit0 = true)
    (hFirst : st.driver.lists .unitMsgPort = ios2 :: others)
    (hConfig :
      (st.driver.reqs ios2).ioCommand = s2ConfigInterface)
    (hNot : ¬ st.driver.Configured)
    (hWaits : (st.next (.device
      (.serviceMsgPort o))).driver.Waits) :
    (st.next (.device (.serviceMsgPort o))).Addressed := by
  rcases next_serviceMsgPort hFirst o with ⟨hNext, hCalls⟩
  have hHold := (hAddressed.waits.orderly.remove ios2).thins
    (Driver.thins_resetError ios2)
  have hFresh := hAddressed.fresh
    (fun hBoth => hNot hBoth.2)
  have hNone := ((Driver.thins_remove (s := st.driver)
    ios2).trans (Driver.thins_resetError ios2)).log
  generalize hState :
    (st.driver.remove ios2).resetError ios2 = t
    at hHold hNone
  have hReq : t.reqs ios2 =
      { st.driver.reqs ios2 with ioError := 0 } := by
    rw [← hState, Driver.resetError, Driver.reqs_setReq,
      if_pos rfl, Driver.reqs_remove]
  have hAddress : (t.reqs ios2).srcAddr =
      (st.driver.reqs ios2).srcAddr := by
    rw [hReq]
  have hNotYet : ¬ t.Configured := by
    rw [← hState]
    exact hNot
  have hDone : st.driver.next (.serviceMsgPort o) =
      devCmdConfigInterface ios2 t := by
    rw [hNext, ← hState]
    unfold performIo
    rw [Driver.reqs_remove, hConfig,
      dispatch_s2ConfigInterface]
    rfl
  have hCalled : st.driver.calls (.serviceMsgPort o) =
      configCalls ios2 t := by
    rw [hCalls, ← hState]
    unfold performCalls
    rw [Driver.reqs_remove, hConfig,
      dispatchCalls_s2ConfigInterface]
  have hStAddr :
      (st.driver.next (.serviceMsgPort o)).unit.stAddr =
        (st.driver.reqs ios2).srcAddr := by
    rw [hDone, ← hAddress]
    exact stAddr_of_wire
      (wire_devCmdConfigInterface ios2 t hNotYet)
  have hThere :
      (st.driver.next (.serviceMsgPort o)).base.unit0 =
        true := by
    rw [hNext, (serves_performIo o ios2 _).base]
    exact hUnit
  have hProgrammed :
      (st.next (.device (.serviceMsgPort
        o))).notes.programmed =
          some (st.driver.reqs ios2).srcAddr.words := by
    show (st.notes.calls _ st.driver.nic).programmed = _
    rw [hCalled, ← hAddress]
    exact programmed_configCalls hNotYet st.driver.nic
  have hConfigured :
      (st.next (.device (.serviceMsgPort
        o))).notes.configured =
          [(st.driver.reqs ios2).srcAddr] := by
    have hSince := configures_since_config hHold hNone hNotYet
      ⟨hReq ▸ hConfig, by rw [hReq]⟩
    rw [hAddress, ← hDone] at hSince
    unfold next Notes.configuring
    dsimp only
    rw [if_pos hThere, hSince, configured_calls, hFresh]
    rfl
  have hIsDone :
      (st.driver.next (.serviceMsgPort o)).Configured := by
    rw [hDone, Driver.devCmdConfigInterface_of_not_configured
      hNotYet, Driver.configured_devCmdOnline]
    exact Driver.configured_configured t ios2
  exact
    { waits := hWaits
      agrees := by
        intro _ _
        rw [hProgrammed, hConfigured]
        exact ⟨congrArg (fun addr => some (MacAddr.words addr))
          hStAddr.symm, congrArg (fun addr => [addr])
            hStAddr.symm⟩
      fresh := fun hNone => absurd ⟨hThere, hIsDone⟩ hNone }

theorem Addressed.serviceMsgPort
    (hAddressed : st.Addressed)
    (hUnit : st.driver.base.unit0 = true)
    (hWaits : (st.next (.device
      (.serviceMsgPort o))).driver.Waits) :
    (st.next (.device (.serviceMsgPort o))).Addressed := by
  cases hFirst : st.driver.lists .unitMsgPort with
  | nil =>
      have hNext : st.driver.next (.serviceMsgPort o) =
          st.driver := by
        unfold Driver.next KszDriver.serviceMsgPort
        dsimp only
        rw [hFirst]
      have hCalls : st.driver.calls (.serviceMsgPort o) =
          [] := by
        unfold Driver.calls
        dsimp only
        rw [hFirst]
      apply hAddressed.holds _ hWaits
      apply holds_of_steady
      · rw [hNext]
        exact Driver.Steady.refl
      · rw [hNext]
      · simp [hCalls]
      · exact Driver.NoneConfigured.of_log (by rw [hNext])
  | cons ios2 others =>
      by_cases hKeeps :
          (st.driver.reqs ios2).ioCommand =
            s2ConfigInterface → st.driver.Configured
      · exact hAddressed.holds (holds_serviceMsgPort
          hAddressed.waits hFirst hKeeps) hWaits
      · rw [Classical.not_imp] at hKeeps
        exact hAddressed.configures hUnit hFirst hKeeps.1
          hKeeps.2 hWaits

/- A unit that an open has made is not configured. -/
theorem Addressed.deviceOpen
    {s2unit s2flags : ULONG}
    {env : OpenEnv}
    (hAddressed : st.Addressed)
    (hWaits : (st.next (.device (.openDevice ios2 s2unit
      s2flags env))).driver.Waits) :
    (st.next (.device (.openDevice ios2 s2unit s2flags
      env))).Addressed := by
  have hFound := Driver.found_deviceOpen ios2 s2unit s2flags
    env st.driver
  have hNone : Driver.NoneConfigured st.driver
      (st.driver.next (.openDevice ios2 s2unit s2flags
        env)) :=
    Driver.NoneConfigured.of_log hFound.log
  have hCalls (addr : MacAddr) :
      .setNetworkAddress addr ∉ st.driver.calls
        (.openDevice ios2 s2unit s2flags env) := by
    unfold Driver.calls
    dsimp only
    split <;> simp
  cases hThere : st.driver.base.unit0 with
  | true =>
      apply hAddressed.holds _ hWaits
      apply holds_of_alone _ hCalls hNone
      exact fun _ => ⟨hThere, (hFound.kept hThere).2⟩
  | false =>
      have hBlank : st.notes.configured = [] := by
        apply hAddressed.fresh
        rintro ⟨hUnit, -⟩
        rw [hThere] at hUnit
        cases hUnit
      have hNotes := configuring_of_none
        (st.notes.calls (st.driver.calls
          (.openDevice ios2 s2unit s2flags env))
            st.driver.nic) hNone
      rw [configured_calls, hBlank, ite_self] at hNotes
      have hNotDone
          (hUnit : (st.driver.next (.openDevice ios2 s2unit
            s2flags env)).base.unit0 = true) :
          ¬ (st.driver.next (.openDevice ios2 s2unit s2flags
            env)).Configured := by
        have hState := congrArg DeviceDriverUnit.state
          (hFound.made hThere hUnit).1
        change (KszDriver.deviceOpen ios2 s2unit s2flags env
          st.driver).unit.state = 0#32 at hState
        intro hDone
        exact hDone (by
          show (KszDriver.deviceOpen ios2 s2unit s2flags env
            st.driver).unit.state &&& etherufConfig = 0#32
          rw [hState, BitVec.zero_and])
      exact
        { waits := hWaits
          agrees := fun hUnit hDone =>
            absurd hDone (hNotDone hUnit)
          fresh := fun _ => hNotes }

/- The file may tell a unit that is configured the address
   that it has. -/
theorem addressed_configChanged
    {addr : MacAddr}
    (hAddressed : st.Addressed)
    (hSame : st.driver.Configured →
      addr = st.driver.unit.stAddr)
    (hWaits : (st.next (.device
      (.configChanged addr))).driver.Waits) :
    (st.next (.device (.configChanged addr))).Addressed := by
  have hNone : Driver.NoneConfigured st.driver
      (st.driver.next (.configChanged addr)) :=
    Driver.NoneConfigured.of_log rfl
  have hNotes := configuring_of_none st.notes hNone
  have hUnit0 :
      (st.driver.next (.configChanged addr)).base.unit0 =
        st.driver.base.unit0 := rfl
  rw [hUnit0] at hNotes
  exact
    { waits := hWaits
      agrees := by
        intro hUnit hDone
        change st.driver.base.unit0 = true at hUnit
        have hAgrees := hAddressed.agrees hUnit hDone
        rw [← hSame hDone] at hAgrees
        rw [if_pos hUnit] at hNotes
        exact ⟨hAgrees.1, hNotes.trans hAgrees.2⟩
      fresh := by
        intro hNot
        apply hNotes.trans
        rw [hAddressed.fresh hNot, ite_self] }

/- A step that is steady and submits, ends or delivers. -/
theorem Addressed.of_steady
    {op : Op}
    (hAddressed : st.Addressed)
    (hWaits : (st.driver.next op).Waits)
    (hSteady : Driver.Steady st.driver (st.driver.next op))
    (hAddress : (st.driver.next op).unit.stAddr =
      st.driver.unit.stAddr)
    (hCalls : ∀ c ∈ st.driver.calls op, c.Sends)
    (hNone : Driver.NoneConfigured st.driver
      (st.driver.next op)) :
    (st.next (.device op)).Addressed := by
  apply hAddressed.holds _ hWaits
  apply holds_of_steady hSteady hAddress _ hNone
  intro addr hMem
  exact hCalls _ hMem

/- The chip changes. -/
theorem Addressed.setNic
    (hAddressed : st.Addressed)
    (n : NicState) :
    ({ st with driver := st.driver.setNic n } :
      Station).Addressed where
  waits := hAddressed.waits.setNic n
  agrees := hAddressed.agrees
  fresh := hAddressed.fresh

theorem Addressed.next
    {i : StationInput}
    (hAddressed : st.Addressed)
    (hAllowed : st.Allowed i)
    (hKept : FileKeepsAddress st i) :
    (st.next i).Addressed := by
  cases i with
  | processEvents =>
      exact hAddressed.setNic
        (ksz8851EventHandler.runOn st.driver.nic).2
  | interfere n => exact hAddressed.setNic n
  | device op =>
      have hWaits := hAddressed.waits.next_waits hAllowed
      have hSteady := @Driver.steady_next st.driver op
      have hSilent : st.driver.calls op = [] →
          ∀ c ∈ st.driver.calls op, c.Sends := by
        intro hCalls c hMem
        rw [hCalls] at hMem
        exact absurd hMem List.not_mem_nil
      cases op with
      | openDevice ios2 s2unit s2flags env =>
          exact hAddressed.deviceOpen hWaits
      | close ios2 =>
          have hKept' := Driver.kept_deviceClose ios2 st.driver
          apply hAddressed.holds _ hWaits
          apply holds_of_alone
          · exact fun hUnit =>
              ⟨(hKept' hUnit).1, (hKept' hUnit).2.1⟩
          · intro addr
            unfold Driver.calls
            dsimp only
            split <;> simp
          · exact (hAddressed.waits.holding
              hAllowed.2.1).deviceClose.log
      | expunge =>
          have hKept' := Driver.kept_deviceExpunge st.driver
          apply hAddressed.holds _ hWaits
          apply holds_of_alone
          · exact fun hUnit =>
              ⟨(hKept' hUnit).1, (hKept' hUnit).2.1⟩
          · exact fun _ => List.not_mem_nil
          · exact Driver.thins_deviceExpunge.log
      | beginIo ios2 o =>
          apply hAddressed.of_steady hWaits
          · exact hSteady (by simp) (by simp) (by simp)
              (by simp)
          · exact stAddr_of_wire
              (wire_deviceBeginIo o ios2 st.driver)
          · exact fun _ hMem => sends_of_mem_beginCalls hMem
          · exact hAddressed.waits.noneConfigured_beginIo
              hAllowed.2 o
      | abortIo ios2 =>
          apply hAddressed.of_steady hWaits
          · exact hSteady (by simp) (by simp) (by simp)
              (by simp)
          · exact congrArg Wire.stAddr
              (wire_deviceAbortIo ios2 st.driver)
          · exact hSilent rfl
          · exact (hAddressed.waits.orderly.deviceAbortIo
              ios2).log
      | serviceMsgPort o =>
          exact hAddressed.serviceMsgPort hAllowed hWaits
      | pktReceived buffer size o =>
          apply hAddressed.of_steady hWaits
          · exact hSteady (by simp) (by simp) (by simp)
              (by simp)
          · exact congrArg Wire.stAddr
              (wire_onPktReceived o buffer size st.driver)
          · exact hSilent rfl
          · exact (hAddressed.waits.orderly.onPktReceived o
              buffer size).log
      | doEvent events =>
          apply hAddressed.of_steady hWaits
          · exact hSteady (by simp) (by simp) (by simp)
              (by simp)
          · exact congrArg Wire.stAddr
              (wire_doEvent st.driver events)
          · exact hSilent rfl
          · exact (hAddressed.waits.orderly.doEvent events).log
      | configChanged addr =>
          exact addressed_configChanged hAddressed hKept hWaits
      | clientWrite ios2 req =>
          apply hAddressed.of_steady hWaits
          · exact hSteady (by simp) (by simp) (by simp)
              (by simp)
          · rfl
          · exact hSilent rfl
          · exact Driver.NoneConfigured.of_log rfl
      | hardware regs =>
          apply hAddressed.of_steady hWaits
          · exact hSteady (by simp) (by simp) (by simp)
              (by simp)
          · rfl
          · exact hSilent rfl
          · exact Driver.NoneConfigured.of_log rfl

/- A unit that still agrees has the address of the request
   that configured it. -/
theorem Addressed.fileKeeps
    {i : StationInput}
    (hAddressed : st.Addressed)
    (hAllowed : st.Allowed i)
    (hAgreed : st.StaysAgreed i) :
    FileKeepsAddress st i := by
  unfold FileKeepsAddress
  split
  · rename_i addr
    intro hDone
    have hNone : Driver.NoneConfigured st.driver
        (st.driver.next (.configChanged addr)) :=
      Driver.NoneConfigured.of_log rfl
    have hNotes := configuring_of_none st.notes hNone
    have hUnit : (st.driver.next
        (.configChanged addr)).base.unit0 = true := hAllowed
    rw [if_pos hUnit] at hNotes
    have hBefore := (hAddressed.agrees hAllowed hDone).2
    have hAfter := (hAgreed hAllowed hDone).2
    have hSame := (hNotes.trans hBefore).symm.trans hAfter
    exact (List.cons.inj hSame).1.symm
  · trivial

theorem start_addressed (hStart : st.Start) :
    st.Addressed where
  waits := hStart.1.waits
  agrees := by
    intro hUnit
    rw [hStart.1.2.2.2.1] at hUnit
    cases hUnit
  fresh := fun _ => congrArg Notes.configured hStart.2.2

end Station

------------------------------------------------------------
-- Runs
------------------------------------------------------------

/-
  The unit agrees in every state of a run exactly if no
  change of the configuration file tells another address
  while it is configured.
-/
theorem agrees_iff
    (inputs : List StationInput)
    {st : Station}
    (hStart : st.Start) :
    (st.Agrees ∧
      stationMachine.Runs Station.StaysAgreed inputs st) ↔
        stationMachine.Runs FileKeepsAddress inputs st := by
  have hAddressed := Station.start_addressed hStart
  rw [and_iff_right hAddressed.agrees]
  apply Machine.runs_congr (I := Station.Addressed)
  · intro st i hAddressed hAllowed
    constructor
    · exact hAddressed.fileKeeps hAllowed
    · exact fun hKept =>
        (hAddressed.next hAllowed hKept).agrees
  · intro st i hAddressed hAllowed hKept
    exact hAddressed.next hAllowed hKept
  · exact hAddressed

/- The file changes while the unit is configured. -/
def fileChanges : List StationInput :=
  (onlineSteps ++
    [Op.configChanged ksz8851GetStationAddress]).map .device

theorem agrees_iff_fileChanges :
    ((loadedStation (idleRegisters 0x1800#16)).Agrees ∧
      stationMachine.Runs Station.StaysAgreed fileChanges
        (loadedStation (idleRegisters 0x1800#16))) ↔
      stationMachine.Runs FileKeepsAddress fileChanges
        (loadedStation (idleRegisters 0x1800#16)) :=
  agrees_iff fileChanges (start_loadedStation _)

/- The driver then has another address than the chip and the
   request. -/
theorem not_agrees_fileChanges :
    stationMachine.Runs Machine.Free fileChanges
        (loadedStation (idleRegisters 0x1800#16)) ∧
      ¬ (stationMachine.run fileChanges
        (loadedStation (idleRegisters 0x1800#16))).Agrees := by
  constructor
  · decide +kernel
  · intro hAgrees
    have hNotes := (hAgrees (by decide +kernel)
      (by decide +kernel)).1
    revert hNotes
    decide +kernel

end KszDriver
