import KszDriver.Device.ExclusiveAccess
import KszDriver.Nic.ResetPulse

/-
  What a failed open leaves behind.

  The flags are set before the chip is probed, the probe
  changes what the driver believes of the endian mode, and
  the unit is started before the opener has its memory.  The
  exit that all failures share undoes only the open count.

  Main declarations:
    * `probeIn`, `deviceOpenIn`
    * `NoTrace`, `FailsWithoutTrace`
    * `Undisturbed`
    * `failsWithoutTrace_iff`
-/

------------------------------------------------------------
-- Probing a Chip in a Mode
------------------------------------------------------------

namespace KszDriver

/- `probe` of the low level driver, for a chip in an endian
   mode.  The probe does not change the mode. -/
def probeIn (bus : BusLogic) (bigEndian : Bool)
    (n : NicState) : ErrorT × NicState :=
  let result :=
    ksz8851DetectNICEndiness.run (EndianNic.exec bus)
      { nic := n, bigEndian := bigEndian }
  (result.1, result.2.nic)

/- `DeviceOpen` with such a chip. -/
def deviceOpenIn (bus : BusLogic) (bigEndian : Bool)
    (ios2 : APTR) (s2unit s2flags : ULONG) (env : OpenEnv)
    (s : Driver) : Driver :=
  deviceOpenBy (probeIn bus bigEndian) ios2 s2unit s2flags
    env s

/- The driver takes the other mode for that of the chip. -/
def NicState.toggleMode (n : NicState) : NicState :=
  { n with
    iface :=
      { n.iface with
        isInBigEndianMode := !n.iface.isInBigEndianMode } }

section Runs

variable {bus : BusLogic}

/- A read, whatever the mode of the chip. -/
theorem run_ksz8851ReadReg (offset : UBYTE) (e : EndianNic) :
    ((ksz8851ReadReg offset).run (EndianNic.exec bus) e).2 =
      { e with nic := e.nic.access offset } := by
  unfold ksz8851ReadReg getInterface cmdReg readDataReg
  rw [Program.run_bind, Program.run_bind]
  simp only [Program.run_perform, EndianNic.exec, NicOp.exec]
  split
  · split
    · rfl
    · rfl
  · rfl

/- The identity is read from a chip that is there, in the mode
   that the driver believes. -/
theorem run_readReg_cider (e : EndianNic) :
    ((ksz8851ReadReg regCider).run (EndianNic.exec bus)
        e).1 = revA3Id ↔
      e.Agrees ∧ e.Answers := by
  have hLeads := Leads.exec
    (@leads_readReg bus e.setting regCider)
  exact hLeads.2.1 rfl

/- The first read decides on the mode, the second one on the
   result. -/
theorem probeIn_eq (bigEndian : Bool) (n : NicState) :
    probeIn bus bigEndian n =
      if bigEndian = n.iface.isInBigEndianMode ∧
          n.chip.reg regCider = revA3Id then
        (noError, n.access regCider)
      else
        (if n.chip.reg regCider = revA3Id then noError
          else noChipFound,
          (n.access regCider).toggleMode.access regCider) := by
  have hFirst := @run_readReg_cider bus
    { nic := n, bigEndian := bigEndian }
  have hAgain := @run_readReg_cider bus
    { nic := (n.access regCider).toggleMode
      bigEndian := bigEndian }
  have hToggle (e : EndianNic) :
      (setInterface (fun iface =>
          { iface with
            isInBigEndianMode :=
              !iface.isInBigEndianMode })).run
          (EndianNic.exec bus) e =
        ((), { e with nic := e.nic.toggleMode }) := rfl
  unfold EndianNic.Agrees EndianNic.Answers at hFirst hAgain
  unfold probeIn ksz8851DetectNICEndiness
  dsimp only
  rw [Program.run_bind, run_ksz8851ReadReg]
  by_cases hFound : bigEndian = n.iface.isInBigEndianMode ∧
      n.chip.reg regCider = revA3Id
  · rw [if_pos hFound, if_neg (not_not_intro
      (hFirst.mpr hFound))]
    rfl
  · rw [if_neg hFound, if_pos (fun hId =>
      hFound (hFirst.mp hId)), Program.run_bind, hToggle,
      Program.run_bind, run_ksz8851ReadReg]
    by_cases hThere : n.chip.reg regCider = revA3Id
    · have hOther : bigEndian =
          !n.iface.isInBigEndianMode := by
        rw [Bool.eq_not]
        exact fun hSame => hFound ⟨hSame, hThere⟩
      rw [if_pos hThere, if_neg (not_not_intro
        (hAgain.mpr ⟨hOther, hThere⟩))]
      rfl
    · rw [if_neg hThere, if_pos (fun hId =>
        hThere (hAgain.mp hId).2)]
      rfl

theorem finds_probeIn (bigEndian : Bool) :
    Finds (probeIn bus bigEndian) := by
  have hCodes : noChipFound ≠ noError := by decide
  intro n
  rw [probeIn_eq]
  by_cases hThere : n.chip.reg regCider = revA3Id
  · rw [if_pos hThere]
    refine iff_of_true ?_ hThere
    split
    · rfl
    · rfl
  · rw [if_neg (fun hFound => hThere hFound.2), if_neg hThere]
    exact iff_of_false hCodes hThere

/- The probe leaves the context alone only if it finds the
   chip at once. -/
theorem iface_probeIn_iff (bigEndian : Bool) (n : NicState) :
    (probeIn bus bigEndian n).2.iface = n.iface ↔
      bigEndian = n.iface.isInBigEndianMode ∧
        n.chip.reg regCider = revA3Id := by
  rw [probeIn_eq]
  by_cases hFound : bigEndian = n.iface.isInBigEndianMode ∧
      n.chip.reg regCider = revA3Id
  · rw [if_pos hFound]
    exact iff_of_true rfl hFound
  · rw [if_neg hFound]
    refine iff_of_false (fun hSame => ?_) hFound
    have hMode := congrArg NetInterface.isInBigEndianMode hSame
    exact Bool.not_ne_self _ hMode

/- For a chip in the mode that the driver believes, this is
   the probe of the plain chip. -/
theorem probeIn_believed (n : NicState) :
    probeIn bus n.iface.isInBigEndianMode n =
      ksz8851DetectNICEndiness.runOn n := by
  have hSame : (n.access regCider).toggleMode.chip.reg =
      n.chip.reg := rfl
  have hToggle (m : NicState) :
      (setInterface (fun iface =>
          { iface with
            isInBigEndianMode :=
              !iface.isInBigEndianMode })).runOn m =
        ((), m.toggleMode) := rfl
  rw [probeIn_eq]
  unfold ksz8851DetectNICEndiness
  rw [NicM.runOn_bind, runOn_ksz8851ReadReg]
  by_cases hThere : n.chip.reg regCider = revA3Id
  · rw [if_pos ⟨rfl, hThere⟩, if_neg (not_not_intro hThere)]
    rfl
  · rw [if_neg (fun hFound => hThere hFound.2),
      if_neg hThere, if_pos hThere, NicM.runOn_bind, hToggle,
      NicM.runOn_bind, runOn_ksz8851ReadReg, hSame,
      if_pos hThere]
    rfl

end Runs

------------------------------------------------------------
-- What a Failed Open Leaves
------------------------------------------------------------

/- The flags, `ed_Units`, the openers and the context of the
   low level driver are as they were. -/
structure NoTrace (s s' : Driver) : Prop where
  libFlags : s'.base.libFlags = s.base.libFlags
  unit0 : s'.base.unit0 = s.base.unit0
  buffMgmt : s'.unit.buffMgmt = s.unit.buffMgmt
  iface : s'.nic.iface = s.nic.iface

/- If the open fails, it leaves no trace. -/
def FailsWithoutTrace (bus : BusLogic) (bigEndian : Bool)
    (ios2 : APTR) (s2unit s2flags : ULONG) (env : OpenEnv)
    (s : Driver) : Prop :=
  let s' :=
    deviceOpenIn bus bigEndian ios2 s2unit s2flags env s
  (s'.reqs ios2).ioError = ioerrOpenFail → NoTrace s s'

/-
  What the open does before it fails changes nothing: the
  modes asked for are set, the chip is there, in the mode
  that the driver believes, and no unit is started.
-/
structure Undisturbed (bigEndian : Bool) (s2flags : ULONG)
    (env : OpenEnv) (s : Driver) : Prop where
  mine : Mine s2flags → s.HasMode etherufExclusive
  prom : Prom s2flags → s.HasMode etherufPromisc
  agrees : bigEndian = s.nic.iface.isInBigEndianMode
  answers : s.nic.chip.reg regCider = revA3Id
  settled : s.base.unit0 = true ∨ ¬ GetsUnit env s

section Probe

variable {probe : NicState → ErrorT × NicState}
variable {ios2 : APTR} {s2unit s2flags : ULONG}
variable {env : OpenEnv} {s : Driver}

/- Only the probe changes the chip and the context. -/
theorem nic_deviceOpenBy
    (hProbes : Probes s2unit s2flags env s) :
    (deviceOpenBy probe ios2 s2unit s2flags env s).nic =
      (probe s.nic).2 := by
  have hStarted (t : Driver) :
      (initUnitProcess env t).nic = t.nic :=
    nic_initUnitProcess t env
  rw [deviceOpenBy_of_probes probe ios2 hProbes]
  unfold probeAndOpenBy countOpen
  dsimp only
  split
  · split
    · exact hStarted _
    · exact hStarted _
  · rfl

/- An open succeeds, or says that it failed. -/
theorem ioError_deviceOpenBy (hFinds : Finds probe) :
    ((deviceOpenBy probe ios2 s2unit s2flags env s).reqs
        ios2).ioError = ioerrOpenFail ↔
      ¬ Succeeds s2unit s2flags env s := by
  have hOpened :=
    (opened_deviceOpenBy hFinds ios2 s2unit s2flags env
      s).ioError
  have hCodes : ioerrOpenFail ≠ s2errNoError := by decide
  rw [← hOpened]
  refine ⟨fun hFail => hFail ▸ hCodes, fun hError => ?_⟩
  have hFailed (t : Driver) (step : UWORD) :
      ((countOpen step (openFailed ios2 t)).reqs
        ios2).ioError = ioerrOpenFail := by
    simp [countOpen, openFailed, Driver.setBase,
      Driver.setReq]
  by_cases hProbes : Probes s2unit s2flags env s
  · rw [deviceOpenBy_of_probes probe ios2 hProbes]
      at hError ⊢
    unfold probeAndOpenBy at hError ⊢
    dsimp only at hError ⊢
    split at hError
    · rename_i hFound
      rw [if_pos hFound]
      split at hError
      · refine absurd ?_ hError
        simp [countOpen, addOpener, Driver.setBase,
          Driver.setReq, Driver.setUnit]
      · rename_i hNone
        rw [if_neg hNone]
        exact hFailed _ _
    · rename_i hMissed
      rw [if_neg hMissed]
      exact hFailed _ _
  · rw [deviceOpenBy_of_not_probes probe ios2 hProbes]
    exact hFailed _ _

/- A unit that runs, or cannot be started, stays as it is. -/
theorem initUnitProcess_of_settled
    (hSettled : s.base.unit0 = true ∨ ¬ GetsUnit env s) :
    initUnitProcess env s = s := by
  unfold initUnitProcess
  by_cases hThere : s.base.unit0 = true
  · exact if_pos hThere
  · rw [if_neg hThere]
    exact if_neg (fun hStarts =>
      hSettled.resolve_left hThere (Or.inr hStarts))

/- An open depends on what the probe makes of this chip. -/
theorem deviceOpenBy_congr
    {probe' : NicState → ErrorT × NicState}
    (hSame : probe s.nic = probe' s.nic) :
    deviceOpenBy probe ios2 s2unit s2flags env s =
      deviceOpenBy probe' ios2 s2unit s2flags env s := by
  have hProbed {t : Driver} (hNic : t.nic = s.nic) :
      probeAndOpenBy probe ios2 env t =
        probeAndOpenBy probe' ios2 env t := by
    unfold probeAndOpenBy
    rw [hNic, hSame]
  by_cases hProbes : Probes s2unit s2flags env s
  · rw [deviceOpenBy_of_probes probe ios2 hProbes,
      deviceOpenBy_of_probes probe' ios2 hProbes]
    congr 1
    exact hProbed rfl
  · rw [deviceOpenBy_of_not_probes probe ios2 hProbes,
      deviceOpenBy_of_not_probes probe' ios2 hProbes]

/- With a chip in the mode that the driver believes, this is
   the open of the plain chip. -/
theorem deviceOpenIn_believed (bus : BusLogic) :
    deviceOpenIn bus s.nic.iface.isInBigEndianMode ios2 s2unit
        s2flags env s =
      deviceOpen ios2 s2unit s2flags env s := by
  rw [← deviceOpenBy_runOn]
  exact deviceOpenBy_congr (probeIn_believed s.nic)

/- Failing at once leaves no trace, whatever is counted. -/
theorem noTrace_openFailed (ios2 : APTR) (up down : UWORD) :
    NoTrace s
      (countOpen down (openFailed ios2 (countOpen up s))) where
  libFlags := rfl
  unit0 := rfl
  buffMgmt := rfl
  iface := rfl

/- An open that the checks turn down leaves no trace. -/
theorem noTrace_of_not_probes
    (probe : NicState → ErrorT × NicState)
    (ios2 : APTR)
    (hFails : ¬ Probes s2unit s2flags env s) :
    NoTrace s
      (deviceOpenBy probe ios2 s2unit s2flags env s) := by
  rw [deviceOpenBy_of_not_probes probe ios2 hFails]
  exact noTrace_openFailed ios2 _ _

/- The unit that is not started does not lose its openers. -/
theorem unit_probeAndOpenBy_of_settled
    (hSettled : s.base.unit0 = true ∨ ¬ GetsUnit env s)
    (hNone : ¬ (s.base.unit0 = true ∧ env.bm ≠ 0)) :
    (probeAndOpenBy probe ios2 env s).unit = s.unit ∧
      (probeAndOpenBy probe ios2 env s).base.unit0 =
        s.base.unit0 := by
  have hStays :
      initUnitProcess env
          { s with nic := (probe s.nic).2 } =
        { s with nic := (probe s.nic).2 } :=
    initUnitProcess_of_settled hSettled
  unfold probeAndOpenBy
  dsimp only
  rw [hStays, if_neg hNone]
  by_cases hFound : (probe s.nic).1 = noError
  · rw [if_pos hFound]
    exact ⟨rfl, rfl⟩
  · rw [if_neg hFound]
    exact ⟨rfl, rfl⟩

theorem unit_deviceOpenBy_of_settled
    (hProbes : Probes s2unit s2flags env s)
    (hSettled : s.base.unit0 = true ∨ ¬ GetsUnit env s)
    (hNone : ¬ (s.base.unit0 = true ∧ env.bm ≠ 0)) :
    (deviceOpenBy probe ios2 s2unit s2flags env s).unit =
        s.unit ∧
      (deviceOpenBy probe ios2 s2unit s2flags env
        s).base.unit0 = s.base.unit0 := by
  have hCounted (step : UWORD) (t : Driver) :
      (countOpen step t).unit = t.unit ∧
        (countOpen step t).base.unit0 = t.base.unit0 :=
    ⟨rfl, rfl⟩
  rw [deviceOpenBy_of_probes probe ios2 hProbes,
    (hCounted _ _).1, (hCounted _ _).2]
  exact unit_probeAndOpenBy_of_settled hSettled hNone

end Probe

/- Modes that are set already are set for nothing. -/
theorem modeBits_eq_iff (s2flags : ULONG) (s : Driver) :
    modeBits s2flags s.base.libFlags = s.base.libFlags ↔
      (Mine s2flags → s.HasMode etherufExclusive) ∧
        (Prom s2flags → s.HasMode etherufPromisc) := by
  have hSet (mode flags : UBYTE)
      (hOne : mode = 4#8 ∨ mode = 16#8)
      (hHas : flags &&& mode ≠ 0#8) :
      flags ||| mode = flags := by
    rcases hOne with rfl | rfl
    · revert flags
      decide +kernel
    · revert flags
      decide +kernel
  constructor
  · intro hSame
    constructor
    · intro hMine
      have hMode := (@exclusive_modeBits s.base.libFlags
        s2flags).mpr (Or.inl hMine)
      rw [hSame] at hMode
      exact hMode
    · intro hProm
      have hMode := (@promisc_modeBits s.base.libFlags
        s2flags).mpr (Or.inl hProm)
      rw [hSame] at hMode
      exact hMode
  · rintro ⟨hMine, hProm⟩
    have hExclusive :
        (if Mine s2flags then
          s.base.libFlags ||| etherufExclusive.setWidth 8
        else s.base.libFlags) = s.base.libFlags := by
      split
      next hAsks =>
        exact hSet _ _ (Or.inl rfl) (hMine hAsks)
      next => rfl
    have hPromisc :
        (if Prom s2flags then
          s.base.libFlags ||| etherufPromisc.setWidth 8
        else s.base.libFlags) = s.base.libFlags := by
      split
      next hAsks =>
        exact hSet _ _ (Or.inr rfl) (hProm hAsks)
      next => rfl
    unfold Mine at hExclusive
    unfold Prom at hPromisc
    unfold modeBits
    dsimp only
    rw [hExclusive, hPromisc]

section Main

variable {bus : BusLogic} {bigEndian : Bool}
variable {ios2 : APTR} {s2unit s2flags : ULONG}
variable {env : OpenEnv} {s : Driver}

/- A failed open that came to the probe and left no trace. -/
theorem undisturbed_of_noTrace
    (hProbes : Probes s2unit s2flags env s)
    (hFails : ¬ Succeeds s2unit s2flags env s)
    (hNone : NoTrace s (deviceOpenIn bus bigEndian ios2 s2unit
      s2flags env s)) :
    Undisturbed bigEndian s2flags env s := by
  have hOpened := opened_deviceOpenBy
    (@finds_probeIn bus bigEndian) ios2 s2unit s2flags env s
  have hFlags := hNone.libFlags
  unfold deviceOpenIn at hFlags
  rw [hOpened.libFlags, if_pos hProbes, if_neg hFails,
    show (~~~0#8 : UBYTE) = BitVec.allOnes 8 from rfl,
    BitVec.and_allOnes] at hFlags
  have hModes := (modeBits_eq_iff s2flags s).mp hFlags
  have hContext := hNone.iface
  unfold deviceOpenIn at hContext
  rw [nic_deviceOpenBy hProbes] at hContext
  have hFound := (iface_probeIn_iff bigEndian s.nic).mp hContext
  exact
    { mine := hModes.1
      prom := hModes.2
      agrees := hFound.1
      answers := hFound.2
      settled := by
        by_cases hGets : GetsUnit env s
        · left
          rw [← hNone.unit0]
          exact hOpened.unit0.mpr
            (Or.inr ⟨⟨hProbes, hFound.2⟩, hGets⟩)
        · exact Or.inr hGets }

/- Where nothing is disturbed, there is no trace. -/
theorem noTrace_of_undisturbed
    (hProbes : Probes s2unit s2flags env s)
    (hFails : ¬ Succeeds s2unit s2flags env s)
    (hCalm : Undisturbed bigEndian s2flags env s) :
    NoTrace s (deviceOpenIn bus bigEndian ios2 s2unit s2flags
      env s) := by
  have hOpened := opened_deviceOpenBy
    (@finds_probeIn bus bigEndian) ios2 s2unit s2flags env s
  have hNone : ¬ (s.base.unit0 = true ∧ env.bm ≠ 0) :=
    fun hBoth => hFails ⟨⟨hProbes, hCalm.answers⟩,
      Or.inl hBoth.1, hBoth.2⟩
  have hUnit := @unit_deviceOpenBy_of_settled
    (probeIn bus bigEndian) ios2 _ _ _ _ hProbes hCalm.settled
    hNone
  exact
    { libFlags := by
        unfold deviceOpenIn
        rw [hOpened.libFlags, if_pos hProbes, if_neg hFails,
          show (~~~0#8 : UBYTE) = BitVec.allOnes 8 from rfl,
          BitVec.and_allOnes]
        exact (modeBits_eq_iff s2flags s).mpr
          ⟨hCalm.mine, hCalm.prom⟩
      unit0 := hUnit.2
      buffMgmt := congrArg DeviceDriverUnit.buffMgmt hUnit.1
      iface := by
        unfold deviceOpenIn
        rw [nic_deviceOpenBy hProbes]
        exact (iface_probeIn_iff bigEndian s.nic).mpr
          ⟨hCalm.agrees, hCalm.answers⟩ }

end Main

/-
  A failed open leaves no trace exactly if the checks turn it
  down, or nothing is disturbed before it fails.
-/
theorem failsWithoutTrace_iff
    (bus : BusLogic)
    (bigEndian : Bool)
    (ios2 : APTR)
    (s2unit s2flags : ULONG)
    (env : OpenEnv)
    (s : Driver) :
    FailsWithoutTrace bus bigEndian ios2 s2unit s2flags env
        s ↔
      (Probes s2unit s2flags env s →
        Succeeds s2unit s2flags env s ∨
          Undisturbed bigEndian s2flags env s) := by
  have hError := @ioError_deviceOpenBy _ ios2 s2unit s2flags
    env s (@finds_probeIn bus bigEndian)
  unfold FailsWithoutTrace
  dsimp only
  constructor
  · intro hTraceless hProbes
    by_cases hSucceeds : Succeeds s2unit s2flags env s
    · exact Or.inl hSucceeds
    · right
      exact undisturbed_of_noTrace hProbes hSucceeds
        (hTraceless (hError.mpr hSucceeds))
  · intro hHarmless hFailed
    have hFails := hError.mp hFailed
    by_cases hProbes : Probes s2unit s2flags env s
    · exact noTrace_of_undisturbed hProbes hFails
        ((hHarmless hProbes).resolve_left hFails)
    · exact noTrace_of_not_probes _ _ hProbes

/- A device just loaded, in front of a chip that is still in
   the mode that an earlier driver switched it to. -/
def reloadedDriver : Driver :=
  let s := loadedDriver (idleRegisters 0x1800#16)
  { s with
    nic :=
      { s.nic with
        iface :=
          { s.nic.iface with isInBigEndianMode := false } } }

/- The open that finds no memory for the opener leaves the
   promiscuous mode, the unit and the new mode. -/
theorem not_failsWithoutTrace_reloadedDriver :
    deviceMachine.Reach Machine.Free reloadedDriver ∧
      ¬ FailsWithoutTrace plainBus true 7 0#32
        (sana2OpfMine ||| sana2OpfProm) (plainOpen 0)
        reloadedDriver := by
  refine ⟨.start ?_, fun hTraceless => ?_⟩
  · exact ⟨rfl, fun _ => rfl, rfl, rfl, 1, reloadedDriver,
      Nat.one_ne_zero, rfl⟩
  · have hTrace := (hTraceless (by decide +kernel)).iface
    have hMode := congrArg NetInterface.isInBigEndianMode hTrace
    revert hMode
    decide +kernel

end KszDriver
