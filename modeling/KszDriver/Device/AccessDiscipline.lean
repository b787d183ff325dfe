import KszDriver.Device.Station

/-
  When the chip is accessed.  The interrupt server rewrites
  the command register, so no task may access the chip while
  the server is linked and interrupts are enabled.

  The low level driver disables interrupts itself, but for
  the probe, which every `DeviceOpen` makes.

  Main declarations:
    * `Station.Disciplined`
    * `ProbesOffline`
    * `disciplined_iff`
-/

------------------------------------------------------------
-- The Rule
------------------------------------------------------------

namespace KszDriver

namespace Station

/-
  Whatever happens in between, the step accesses the chip
  only while the interrupt server cannot come in, and it
  leaves the nest counter as it was.
-/
def Disciplined (st : Station) (i : StationInput) : Prop :=
  Program.Guarded NicOp.exec Interferes
    (fun op n => op.Touches → n.footing.Quiet)
    (fun _ n => n.nest = st.driver.nic.nest)
    (st.program i) st.driver.nic

/- Between the steps interrupts are enabled, and the driver
   knows whether its server is linked. -/
structure Sound (st : Station) : Prop where
  grounded : st.driver.nic.footing.Grounded
  enabled : st.driver.nic.nest = 0

end Station

/- The chip is probed only while the unit is not online. -/
def ProbesOffline (st : Station) : StationInput → Prop
| .device (.openDevice _ s2unit s2flags env) =>
    Probes s2unit s2flags env st.driver →
      st.driver.nic.servers = 0
| _ => True

------------------------------------------------------------
-- Steps
------------------------------------------------------------

namespace Station

variable {st : Station} {i : StationInput}

theorem start_sound (hStart : st.Start) : st.Sound := by
  have hFooting := hStart.2.1
  exact
    { grounded := by
        rw [hFooting]
        rfl
      enabled := congrArg Footing.nest hFooting }

/- With interrupts enabled it takes an unlinked server. -/
theorem Sound.quiet_iff (hSound : st.Sound) :
    st.driver.nic.footing.Quiet ↔
      st.driver.nic.servers = 0 := by
  have hNest : st.driver.nic.footing.nest = 0 :=
    hSound.enabled
  unfold Footing.Quiet
  rw [hNest]
  exact ⟨fun hQuiet => hQuiet.resolve_left
    (Nat.lt_irrefl 0), Or.inr⟩

/- Every step but a probe of a linked server keeps to the
   rule. -/
theorem Sound.treads
    (hSound : st.Sound)
    (hProbes : ProbesOffline st i) :
    Treads st.driver.nic.footing (st.program i)
      (fun _ => st.driver.nic.footing.Settles) := by
  have hSame :
      st.driver.nic.footing.Settles st.driver.nic.footing :=
    ⟨hSound.grounded, rfl⟩
  cases i with
  | processEvents =>
      exact treads_discard (goes_eventHandler.settles hSame)
  | interfere n => exact treads_pure hSame
  | device op =>
      by_cases hProbe : .probe ∈ st.driver.calls op
      · rcases probes_of_mem_calls hProbe with
          ⟨ios2, s2unit, s2flags, env, rfl, hWill⟩
        have hCalls :
            st.driver.calls
              (.openDevice ios2 s2unit s2flags env) =
                [.probe] := if_pos hWill
        unfold program
        dsimp only
        rw [hCalls]
        exact treads_probe hSound.grounded
          (hSound.quiet_iff.mpr (hProbes hWill))
      · exact treads_callsProgram hSound.grounded hProbe

theorem Sound.disciplined
    (hSound : st.Sound)
    (hProbes : ProbesOffline st i) :
    st.Disciplined i := by
  have hGuarded := (hSound.treads hProbes).guarded
    (fun _ _ hSame => hSame)
  exact hGuarded.mono (fun _ _ hSettles => hSettles.2)

/- The first access of the probe shows who may come in. -/
theorem quiet_of_disciplined
    {ios2 : APTR}
    {s2unit s2flags : ULONG}
    {env : OpenEnv}
    (hDisciplined : st.Disciplined
      (.device (.openDevice ios2 s2unit s2flags env)))
    (hProbes : Probes s2unit s2flags env st.driver) :
    st.driver.nic.footing.Quiet := by
  have hCalls :
      st.driver.calls
        (.openDevice ios2 s2unit s2flags env) = [.probe] :=
    if_pos hProbes
  unfold Disciplined program at hDisciplined
  dsimp only at hDisciplined
  rw [hCalls] at hDisciplined
  -- The interface is read, and then the command written.
  have hRead := hDisciplined st.driver.nic rfl
  have hWritten := hRead.2 st.driver.nic rfl
  exact hWritten.1 trivial

theorem Sound.keepsRule_iff
    (hSound : st.Sound) :
    st.Disciplined i ↔ ProbesOffline st i := by
  constructor
  · intro hDisciplined
    unfold ProbesOffline
    split
    · exact fun hProbes => hSound.quiet_iff.mp
        (quiet_of_disciplined hDisciplined hProbes)
    · trivial
  · exact hSound.disciplined

theorem Sound.next
    (hSound : st.Sound)
    (hAllowed : st.Allowed i)
    (hProbes : ProbesOffline st i) :
    (st.next i).Sound := by
  have hTreads := (hSound.treads hProbes).run
  cases i with
  | processEvents =>
      have hRun := runOn_discard ksz8851EventHandler
        st.driver.nic
      have hSettles : st.driver.nic.footing.Settles
          (ksz8851EventHandler.runOn
            st.driver.nic).2.footing := hRun ▸ hTreads
      exact
        { grounded := hSettles.1
          enabled := hSettles.2.trans hSound.enabled }
  | interfere n =>
      have hSame : n.footing = st.driver.nic.footing :=
        hAllowed
      exact
        { grounded := by
            show n.footing.Grounded
            rw [hSame]
            exact hSound.grounded
          enabled := (congrArg Footing.nest hSame).trans
            hSound.enabled }
  | device op =>
      by_cases hHardware : ∃ regs, op = .hardware regs
      · rcases hHardware with ⟨regs, rfl⟩
        exact
          { grounded := hSound.grounded
            enabled := hSound.enabled }
      · have hNic := nic_next st.driver
          (fun regs hOp => hHardware ⟨regs, hOp⟩)
        rw [← runOn_callsProgram] at hNic
        have hSettles : st.driver.nic.footing.Settles
            (st.driver.next op).nic.footing := hNic ▸ hTreads
        exact
          { grounded := hSettles.1
            enabled := hSettles.2.trans hSound.enabled }

end Station

------------------------------------------------------------
-- Runs
------------------------------------------------------------

/-
  Every step of a run keeps to the rule exactly if the chip
  is never probed while the interrupt server is linked.
-/
theorem disciplined_iff
    (inputs : List StationInput)
    {st : Station}
    (hStart : st.Start) :
    stationMachine.Runs Station.Disciplined inputs st ↔
      stationMachine.Runs ProbesOffline inputs st := by
  apply Machine.runs_congr (I := Station.Sound)
  · intro st i hSound _
    exact hSound.keepsRule_iff
  · intro st i hSound hAllowed hProbes
    exact hSound.next hAllowed hProbes
  · exact Station.start_sound hStart

/- The unit goes online, and is then opened again. -/
def secondOpen : List StationInput :=
  (onlineSteps ++
    [Op.openDevice 9 0#32 0#32 (plainOpen 41)]).map .device

theorem disciplined_iff_secondOpen :
    stationMachine.Runs Station.Disciplined secondOpen
        (loadedStation (idleRegisters 0x1800#16)) ↔
      stationMachine.Runs ProbesOffline secondOpen
        (loadedStation (idleRegisters 0x1800#16)) :=
  disciplined_iff secondOpen (start_loadedStation _)

/- The second open probes the chip with the server linked. -/
theorem not_disciplined_secondOpen :
    stationMachine.Runs Machine.Free secondOpen
        (loadedStation (idleRegisters 0x1800#16)) ∧
      ¬ stationMachine.Runs Station.Disciplined secondOpen
        (loadedStation (idleRegisters 0x1800#16)) := by
  constructor
  · decide +kernel
  · intro hRuns
    have hLast : Station.Disciplined
        (stationMachine.run (onlineSteps.map .device)
          (loadedStation (idleRegisters 0x1800#16)))
        (.device (.openDevice 9 0#32 0#32 (plainOpen 41))) :=
      hRuns.2.2.2.2.1.2
    have hQuiet := Station.quiet_of_disciplined hLast
      (by decide +kernel)
    revert hQuiet
    decide +kernel

end KszDriver
