import KszDriver.Device.UnitReady

/-
  What holds of the unit process between the turns of its
  service loop: the unit is up, the signal of the low level
  driver is none of the process's own, and every request put
  into the port was performed in its turn or waits there.

  Main declarations:
    * `UnitProcess.Sound`
    * `Sound.interfere`
    * `Sound.work`
    * `Sound.next`
-/

------------------------------------------------------------
-- The Invariant
------------------------------------------------------------

namespace KszDriver

open Driver

namespace UnitProcess

/-
  The unit is up, the signal of the driver is none of the
  process's own, and what was put into the port was performed
  in this order or is still in it.
-/
structure Sound
    (bits : ProcessSignals) (p : UnitProcess) : Prop where
  ready : p.driver.Ready
  spare : p.Linked → bits.Spare p.driver.nic.iface.sigNumber
  allocates : Allocates bits p.driver.nic
  alarms : ¬ p.Linked → p.alarms = 0
  queue : p.put = p.performed ++ p.driver.lists .unitMsgPort

variable {bits : ProcessSignals} {p : UnitProcess}

/- The driver has gone on, and the port has not changed. -/
theorem Sound.goesOn
    {p' : UnitProcess}
    (hSound : p.Sound bits)
    (hReady : p'.driver.Ready)
    (hOn : GoesOn p.driver p'.driver)
    (hAlarms : ¬ p.Linked → p'.alarms = 0)
    (hQueue :
      p'.put = p'.performed ++ p'.driver.lists .unitMsgPort) :
    p'.Sound bits := by
  have hTask : p'.Linked ↔ p.Linked :=
    (congrArg (· = true)
      (congrArg Tuning.linked hOn.tuning)).to_iff
  have hNumber : p'.driver.nic.iface.sigNumber =
      p.driver.nic.iface.sigNumber :=
    congrArg Tuning.sigNumber hOn.tuning
  exact
    { ready := hReady
      spare := by
        rw [hTask, hNumber]
        exact hSound.spare
      allocates := by
        unfold Allocates
        rw [hOn.freeSignal]
        exact hSound.allocates
      alarms := fun hNot => hAlarms (fun h => hNot (hTask.mpr h))
      queue := hQueue }

/- Only signals, place and files have changed. -/
theorem Sound.same
    {p' : UnitProcess}
    (hSound : p.Sound bits)
    (hDriver : p'.driver = p.driver)
    (hAlarms : p'.alarms = p.alarms ∨ p'.alarms = 0)
    (hPut : p'.put = p.put)
    (hPerformed : p'.performed = p.performed) :
    p'.Sound bits := by
  apply hSound.goesOn
  · rw [hDriver]
    exact hSound.ready
  · rw [hDriver]
    exact goesOn_of_wire rfl rfl
  · intro hNot
    rcases hAlarms with hSame | hNone
    · rw [hSame]
      exact hSound.alarms hNot
    · exact hNone
  · rw [hDriver, hPut, hPerformed]
    exact hSound.queue

theorem Sound.client
    {op : Op}
    (hSound : p.Sound bits)
    (hClient : op.ByClient p.driver)
    (hAllowed : op.Allowed p.driver) :
    (p.client bits op).Sound bits := by
  have hReady := hSound.ready.client hClient hAllowed
  have hOn := goesOn_client hSound.ready.unit0 hClient
  have hTaken : p.driver.takes op = [] := by
    cases op with
    | serviceMsgPort o => exact hClient.elim
    | _ => rfl
  have hPort := port_next hSound.ready.waits hSound.ready.unit0
    hAllowed
  rw [hTaken, List.nil_append] at hPort
  have hQueue :
      p.put ++ p.driver.puts op =
        p.performed ++
          (p.driver.next op).lists .unitMsgPort := by
    rw [hSound.queue, List.append_assoc, hPort]
  unfold UnitProcess.client
  dsimp only
  split
  · exact hSound.goesOn hReady hOn hSound.alarms hQueue
  · exact hSound.goesOn hReady hOn hSound.alarms hQueue

/- Only a server that is linked runs. -/
theorem Sound.linked
    (hSound : p.Sound bits)
    (hServers : 0 < p.driver.nic.servers) :
    p.Linked := by
  by_contra hNot
  have hGrounded : p.driver.nic.servers =
      if p.driver.nic.iface.signalTask then 1 else 0 :=
    hSound.ready.grounded
  unfold Linked at hNot
  rw [if_neg hNot] at hGrounded
  omega

theorem Sound.interrupt
    (hSound : p.Sound bits)
    (hServers : 0 < p.driver.nic.servers) :
    p.interrupt.Sound bits := by
  have hOn := goesOn_isr (s := p.driver)
  have hReady := hSound.ready.of_goesOn
    (hSound.ready.waits.setNic (isr.runOn p.driver.nic).2) hOn
  have hLinked := hSound.linked hServers
  unfold UnitProcess.interrupt
  dsimp only
  split
  · exact hSound.goesOn hReady hOn
      (fun hNot => absurd hLinked hNot) hSound.queue
  · exact hSound.goesOn hReady hOn hSound.alarms hSound.queue

theorem Sound.interfere
    {n : NicState}
    (hSound : p.Sound bits)
    (hFooting : n.footing = p.driver.nic.footing)
    (hAllocates : Allocates bits n) :
    ({ p with driver := p.driver.setNic n } :
      UnitProcess).Sound bits := by
  have hTask : n.iface.signalTask =
      p.driver.nic.iface.signalTask :=
    congrArg Footing.signalTask hFooting
  have hNumber : n.iface.sigNumber =
      p.driver.nic.iface.sigNumber :=
    congrArg Footing.sigNumber hFooting
  exact
    { ready :=
        { waits := hSound.ready.waits.setNic n
          unit0 := hSound.ready.unit0
          grounded := by
            show n.footing.Grounded
            rw [hFooting]
            exact hSound.ready.grounded
          tuned := by
            intro hLinked
            change p.driver.unit.lowLevelDriverSignalNumber =
              n.iface.sigNumber
            rw [hNumber]
            exact hSound.ready.tuned (hTask.symm.trans hLinked) }
      spare := by
        intro hLinked
        change bits.Spare n.iface.sigNumber
        rw [hNumber]
        exact hSound.spare (hTask.symm.trans hLinked)
      allocates := hAllocates
      alarms := fun hNot =>
        hSound.alarms (fun h => hNot (hTask.trans h))
      queue := hSound.queue }

theorem Sound.lowLevelWork
    (hSound : p.Sound bits)
    (o : Nat → Outcome)
    (receivedSignals : ULONG) :
    (p.lowLevelWork o receivedSignals).Sound bits := by
  have hEvents := hSound.ready.processEvents o
  unfold UnitProcess.lowLevelWork
  split
  · apply hSound.goesOn hEvents.1 hEvents.2.1 (fun _ => rfl)
    show p.put = p.performed ++
      (processEvents o p.driver).lists .unitMsgPort
    rw [hEvents.2.2]
    exact hSound.queue
  · exact hSound.same rfl (Or.inl rfl) rfl rfl

/- A request is taken from the port and performed. -/
theorem Sound.performs
    {ios2 : APTR}
    {others : List APTR}
    (hSound : p.Sound bits)
    (hFirst : p.driver.lists .unitMsgPort = ios2 :: others)
    (o : Outcome) :
    ({ p.tuned (serviceMsgPort o p.driver) with
        performed := p.performed ++ [ios2] } :
      UnitProcess).Sound bits := by
  have hServed := hSound.ready.serviceMsgPort o
  have hTurns := hServed.2
  have hPort := port_serviceMsgPort (o := o) hSound.ready.waits
  have hTakes :
      p.driver.takes (.serviceMsgPort o) = [ios2] := by
    unfold Driver.takes
    dsimp only
    rw [hFirst]
    rfl
  rw [hTakes] at hPort
  exact
    { ready := hServed.1
      spare := by
        intro hLinked
        change bits.Spare
          (serviceMsgPort o p.driver).tuning.sigNumber
        by_cases hBefore : p.Linked
        · rw [hTurns.stays hBefore hLinked]
          exact hSound.spare hBefore
        · have hLinks := hTurns.links
            (Bool.not_eq_true _ ▸ hBefore) hLinked
          rw [hLinks.1]
          exact hSound.allocates.resolve_left hLinks.2.2
      allocates := by
        have hFree : (serviceMsgPort o p.driver).nic.freeSignal =
            p.driver.nic.freeSignal := hTurns.freeSignal
        show Allocates bits (serviceMsgPort o p.driver).nic
        unfold Allocates
        rw [hFree]
        exact hSound.allocates
      alarms := by
        intro hNot
        exact if_neg hNot
      queue := by
        show p.put = (p.performed ++ [ios2]) ++
          (serviceMsgPort o p.driver).lists .unitMsgPort
        rw [hSound.queue, List.append_assoc, ← hPort] }

theorem Sound.ioRequestWork
    (hSound : p.Sound bits)
    (o : Nat → Outcome)
    (receivedSignals : ULONG) :
    (p.ioRequestWork bits o receivedSignals).Sound bits := by
  unfold UnitProcess.ioRequestWork
  split
  · split
    · exact hSound.same rfl (Or.inl rfl) rfl rfl
    · rename_i hFirst
      exact hSound.performs hFirst (o 0)
  · exact hSound.same rfl (Or.inl rfl) rfl rfl

theorem Sound.configFileWork
    (hSound : p.Sound bits)
    (receivedSignals : ULONG) :
    (p.configFileWork bits receivedSignals).Sound bits := by
  unfold UnitProcess.configFileWork
  split
  · exact hSound.goesOn
      (hSound.ready.readConfig p.configAddr)
      { unit0 := rfl
        footing := rfl
        signalNumber := rfl
        freeSignal := rfl }
      hSound.alarms hSound.queue
  · exact hSound.same rfl (Or.inl rfl) rfl rfl

theorem Sound.work
    (hSound : p.Sound bits)
    (o : Nat → Outcome) :
    (p.work bits o).Sound bits := by
  unfold UnitProcess.work
  split
  · unfold UnitProcess.wait
    split
    · exact hSound
    · exact hSound.same rfl (Or.inl rfl) rfl rfl
  · exact hSound.lowLevelWork o _
  · exact hSound.ioRequestWork o _
  · exact hSound.configFileWork _
  · exact hSound

theorem Sound.next
    {i : ProcessInput}
    (hSound : p.Sound bits)
    (hAllowed : p.Allowed bits i) :
    (p.next bits i).Sound bits := by
  cases i with
  | work o => exact hSound.work o
  | client op => exact hSound.client hAllowed.1 hAllowed.2
  | interrupt => exact hSound.interrupt hAllowed
  | interfere n => exact hSound.interfere hAllowed.1 hAllowed.2
  | signals mask =>
      exact hSound.same rfl (Or.inl rfl) rfl rfl
  | fileWritten addr =>
      exact hSound.same rfl (Or.inl rfl) rfl rfl

/- The unit that was just opened has no server yet. -/
theorem Start.sound
    (hStart : p.Start bits) :
    p.Sound bits := by
  rcases hStart with ⟨⟨st, ios2, s2unit, s2flags, env, hReach,
    hOpen, hNone, hDriver⟩, hUnit, hAllocates, -, hAlarms, -,
    hPut, hPerformed⟩
  have hMoored := moored_of_reach hReach
  have hNext : (st.next (.device (.openDevice ios2 s2unit
      s2flags env))).Moored := hMoored.device hOpen
  have hTask : p.driver.nic.iface.signalTask = false := by
    rw [hDriver]
    exact Station.unlinked_deviceOpen hMoored hNone
  have hNot : ¬ p.Linked := by
    unfold Linked
    rw [hTask]
    exact Bool.false_ne_true
  have hDriver' : p.driver = st.driver.next
      (.openDevice ios2 s2unit s2flags env) := hDriver
  exact
    { ready :=
        { waits := hDriver' ▸ hNext.waits
          unit0 := hUnit
          grounded := hDriver' ▸ hNext.grounded
          tuned := fun hLinked => absurd hLinked hNot }
      spare := fun hLinked => absurd hLinked hNot
      allocates := hAllocates
      alarms := fun _ => hAlarms
      queue := by
        rw [hPut, hPerformed, List.nil_append, hDriver]
        exact (port_of_made hNone (hDriver ▸ hUnit)).symm }

end UnitProcess

end KszDriver
