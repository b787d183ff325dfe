import KszDriver.Device.Calls
import KszDriver.Device.Openers
import KszDriver.Nic.BringUp

/-
  Opening the device: which opens succeed, and what an open
  leaves of the counters, the flags and the openers.

  The open calls the probe of the low level driver by a
  pointer.  What is shown here holds of any probe that finds
  the chip when it is there.

  Main declarations:
    * `deviceOpenBy`
    * `Succeeds`, `Opened`
    * `opened_deviceOpenBy`, `opened_deviceOpen`
-/

------------------------------------------------------------
-- Opening with Any Probe
------------------------------------------------------------

namespace KszDriver

section Probe

variable (probe : NicState → ErrorT × NicState)

/- Probe the chip, start the unit and add the opener. -/
def probeAndOpenBy
    (ios2 : APTR)
    (env : OpenEnv)
    (s : Driver) : Driver :=
  let result := probe s.nic
  let s := { s with nic := result.2 }
  if result.1 = noError then
    let s := initUnitProcess env s
    if s.base.unit0 ∧ env.bm ≠ 0 then addOpener ios2 env s
    else openFailed ios2 s
  else openFailed ios2 s

/- The checks of the open flags. -/
def openWithFlagsBy
    (ios2 : APTR)
    (s2flags : ULONG)
    (env : OpenEnv)
    (s : Driver) : Driver :=
  let mine := s2flags &&& sana2OpfMine ≠ 0#32
  let prom := s2flags &&& sana2OpfProm ≠ 0#32
  if mine ∧ s.base.libOpenCnt > 1#16 then openFailed ios2 s
  else
    let s := setMode mine etherufExclusive s
    if prom ∧ ¬ mine then openFailed ios2 s
    else
      probeAndOpenBy probe ios2 env
        (setMode prom etherufPromisc s)

/- `DeviceOpen` -/
def deviceOpenBy
    (ios2 : APTR)
    (s2unit s2flags : ULONG)
    (env : OpenEnv)
    (s : Driver) : Driver :=
  let s := countOpen 1#16 s
  let s :=
    if ¬ env.stackOk then openFailed ios2 s
    else if s2unit < edMaxUnits then
      openWithFlagsBy probe ios2 s2flags env s
    else openFailed ios2 s
  countOpen (0#16 - 1#16) s

end Probe

/- The device opens with the probe of the plain chip. -/
theorem deviceOpenBy_runOn :
    deviceOpenBy ksz8851DetectNICEndiness.runOn = deviceOpen :=
  rfl

------------------------------------------------------------
-- Opens that Succeed
------------------------------------------------------------

/- The open comes as far as the unit: it passes the checks,
   and the chip answers. -/
def ReachesUnit (s2unit s2flags : ULONG) (env : OpenEnv)
    (s : Driver) : Prop :=
  Probes s2unit s2flags env s ∧ s.nic.chip.reg regCider = revA3Id

/- The unit is there, or it can be started. -/
def GetsUnit (env : OpenEnv) (s : Driver) : Prop :=
  s.base.unit0 = true ∨
    (env.unitMem = true ∧ env.replyPort = true ∧
      env.process = true)

def Succeeds (s2unit s2flags : ULONG) (env : OpenEnv)
    (s : Driver) : Prop :=
  ReachesUnit s2unit s2flags env s ∧ GetsUnit env s ∧
    env.bm ≠ 0

instance (s2unit s2flags : ULONG) (env : OpenEnv)
    (s : Driver) :
    Decidable (ReachesUnit s2unit s2flags env s) := by
  unfold ReachesUnit
  infer_instance

instance (env : OpenEnv) (s : Driver) :
    Decidable (GetsUnit env s) := by
  unfold GetsUnit
  infer_instance

instance (s2unit s2flags : ULONG) (env : OpenEnv)
    (s : Driver) :
    Decidable (Succeeds s2unit s2flags env s) := by
  unfold Succeeds
  infer_instance

/- The flags asked for with an open that comes to the probe. -/
def modeBits (s2flags : ULONG) (flags : UBYTE) : UBYTE :=
  let flags :=
    if s2flags &&& sana2OpfMine ≠ 0#32 then
      flags ||| etherufExclusive.setWidth 8
    else flags
  if s2flags &&& sana2OpfProm ≠ 0#32 then
    flags ||| etherufPromisc.setWidth 8
  else flags

/- The probe succeeds if the chip is there. -/
def Finds (probe : NicState → ErrorT × NicState) : Prop :=
  ∀ n,
    (probe n).1 = noError ↔ n.chip.reg regCider = revA3Id

/- What an open does to the counters, the flags and the
   openers. -/
structure Opened (ios2 : APTR) (s2unit s2flags : ULONG)
    (env : OpenEnv) (s s' : Driver) : Prop where
  ioError :
    (s'.reqs ios2).ioError = s2errNoError ↔
      Succeeds s2unit s2flags env s
  libOpenCnt :
    s'.base.libOpenCnt =
      if Succeeds s2unit s2flags env s then
        s.base.libOpenCnt + 1#16
      else s.base.libOpenCnt
  libFlags :
    s'.base.libFlags =
      (if Probes s2unit s2flags env s then
        modeBits s2flags s.base.libFlags
      else s.base.libFlags) &&&
        (if Succeeds s2unit s2flags env s then ~~~libfDelExp
        else ~~~0#8)
  unit0 :
    s'.base.unit0 = true ↔
      s.base.unit0 = true ∨
        ReachesUnit s2unit s2flags env s ∧ GetsUnit env s
  buffMgmt : ∃ old,
    (old = s.unit.buffMgmt ∨
      s.base.unit0 = false ∧ old = []) ∧
      s'.unit.buffMgmt =
        if Succeeds s2unit s2flags env s then old ++ [env.bm]
        else old

/- An open that fails the checks. -/
theorem deviceOpenBy_of_not_probes
    {s2unit s2flags : ULONG}
    {env : OpenEnv}
    {s : Driver}
    (probe : NicState → ErrorT × NicState)
    (ios2 : APTR)
    (hFails : ¬ Probes s2unit s2flags env s) :
    deviceOpenBy probe ios2 s2unit s2flags env s =
      countOpen (0#16 - 1#16)
        (openFailed ios2 (countOpen 1#16 s)) := by
  unfold deviceOpenBy
  dsimp only
  congr 1
  by_cases hStack : env.stackOk = true
  · rw [if_neg (not_not_intro hStack)]
    by_cases hUnit : s2unit < edMaxUnits
    · rw [if_pos hUnit]
      unfold openWithFlagsBy
      dsimp only
      by_cases hTaken : s2flags &&& sana2OpfMine ≠ 0#32 ∧
          s.base.libOpenCnt + 1#16 > 1#16
      · exact if_pos hTaken
      · refine (if_neg hTaken).trans ?_
        have hProm : s2flags &&& sana2OpfProm ≠ 0#32 ∧
            ¬ s2flags &&& sana2OpfMine ≠ 0#32 :=
          by_contra (fun hProm =>
            hFails ⟨hStack, hUnit, hTaken, hProm⟩)
        rw [if_pos hProm]
        unfold setMode
        simp only [if_neg hProm.2]
        rfl
    · exact if_neg hUnit
  · exact if_pos hStack

/- An open that passes them. -/
theorem deviceOpenBy_of_probes
    {s2unit s2flags : ULONG}
    {env : OpenEnv}
    {s : Driver}
    (probe : NicState → ErrorT × NicState)
    (ios2 : APTR)
    (hProbes : Probes s2unit s2flags env s) :
    deviceOpenBy probe ios2 s2unit s2flags env s =
      countOpen (0#16 - 1#16)
        (probeAndOpenBy probe ios2 env
          (setMode (s2flags &&& sana2OpfProm ≠ 0#32)
            etherufPromisc
            (setMode (s2flags &&& sana2OpfMine ≠ 0#32)
              etherufExclusive (countOpen 1#16 s)))) := by
  rcases hProbes with ⟨hStack, hUnit, hFree, hProm⟩
  unfold deviceOpenBy
  dsimp only
  congr 1
  rw [if_neg (not_not_intro hStack), if_pos hUnit]
  unfold openWithFlagsBy
  dsimp only
  exact (if_neg hFree).trans (if_neg hProm)

/- Starting the unit. -/
theorem base_initUnitProcess (env : OpenEnv) (s : Driver) :
    (initUnitProcess env s).base.libOpenCnt =
        s.base.libOpenCnt ∧
      (initUnitProcess env s).base.libFlags = s.base.libFlags ∧
      ((initUnitProcess env s).base.unit0 = true ↔
        GetsUnit env s) ∧
      ((initUnitProcess env s).unit.buffMgmt =
          s.unit.buffMgmt ∨
        s.base.unit0 = false ∧
          (initUnitProcess env s).unit.buffMgmt = []) := by
  unfold initUnitProcess GetsUnit
  by_cases hThere : s.base.unit0 = true
  · rw [if_pos hThere]
    exact ⟨rfl, rfl, by simp [hThere], Or.inl rfl⟩
  · rw [if_neg hThere]
    by_cases hStarts : env.unitMem = true ∧
        env.replyPort = true ∧ env.process = true
    · rw [if_pos hStarts]
      exact ⟨rfl, rfl, by simp [hStarts, Driver.setBase],
        Or.inr ⟨by simpa using hThere, rfl⟩⟩
    · rw [if_neg hStarts]
      exact ⟨rfl, rfl, by simp [hStarts, hThere], Or.inl rfl⟩

/- What follows the checks, in the terms of an open. -/
structure Reached (ios2 : APTR) (env : OpenEnv)
    (answers : Prop) [Decidable answers] (s s' : Driver) :
    Prop where
  ioError :
    (s'.reqs ios2).ioError = s2errNoError ↔
      answers ∧ GetsUnit env s ∧ env.bm ≠ 0
  libOpenCnt :
    s'.base.libOpenCnt =
      if answers ∧ GetsUnit env s ∧ env.bm ≠ 0 then
        s.base.libOpenCnt + 1#16
      else s.base.libOpenCnt
  libFlags :
    s'.base.libFlags =
      s.base.libFlags &&&
        (if answers ∧ GetsUnit env s ∧ env.bm ≠ 0 then
          ~~~libfDelExp
        else ~~~0#8)
  unit0 :
    s'.base.unit0 = true ↔
      s.base.unit0 = true ∨ answers ∧ GetsUnit env s
  buffMgmt : ∃ old,
    (old = s.unit.buffMgmt ∨
      s.base.unit0 = false ∧ old = []) ∧
      s'.unit.buffMgmt =
        if answers ∧ GetsUnit env s ∧ env.bm ≠ 0 then
          old ++ [env.bm]
        else old

theorem reached_openFailed
    {answers : Prop} [Decidable answers]
    {env : OpenEnv}
    {s s' : Driver}
    (ios2 : APTR)
    (hFails : ¬ (answers ∧ GetsUnit env s ∧ env.bm ≠ 0))
    (hLibOpenCnt : s'.base.libOpenCnt = s.base.libOpenCnt)
    (hLibFlags : s'.base.libFlags = s.base.libFlags)
    (hUnit0 : s'.base.unit0 = true ↔
      s.base.unit0 = true ∨ answers ∧ GetsUnit env s)
    (hBuffMgmt : s'.unit.buffMgmt = s.unit.buffMgmt ∨
      s.base.unit0 = false ∧ s'.unit.buffMgmt = []) :
    Reached ios2 env answers s (openFailed ios2 s') where
  ioError := by
    simp [openFailed, Driver.setReq, ioerrOpenFail,
      s2errNoError, hFails]
  libOpenCnt := by
    rw [if_neg hFails]
    exact hLibOpenCnt
  libFlags := by
    have hAll : (~~~0#8 : UBYTE) = BitVec.allOnes 8 := rfl
    rw [if_neg hFails, hAll, BitVec.and_allOnes]
    exact hLibFlags
  unit0 := hUnit0
  buffMgmt := ⟨_, hBuffMgmt, by
    rw [if_neg hFails]
    rfl⟩

theorem reached_probeAndOpenBy
    {probe : NicState → ErrorT × NicState}
    (hFinds : Finds probe)
    (ios2 : APTR)
    (env : OpenEnv)
    (s : Driver) :
    Reached ios2 env (s.nic.chip.reg regCider = revA3Id) s
      (probeAndOpenBy probe ios2 env s) := by
  unfold probeAndOpenBy
  dsimp only
  by_cases hAnswers : s.nic.chip.reg regCider = revA3Id
  · rw [if_pos ((hFinds s.nic).mpr hAnswers)]
    have hStarted := base_initUnitProcess env
      { s with nic := (probe s.nic).2 }
    rcases hStarted with
      ⟨hLibOpenCnt, hLibFlags, hUnit0, hBuffMgmt⟩
    by_cases hReady : GetsUnit env s ∧ env.bm ≠ 0
    · rw [if_pos ⟨hUnit0.mpr hReady.1, hReady.2⟩]
      have hAll : s.nic.chip.reg regCider = revA3Id ∧
          GetsUnit env s ∧ env.bm ≠ 0 := ⟨hAnswers, hReady⟩
      exact
        { ioError := by
            simp [addOpener, Driver.setReq, hAll]
          libOpenCnt := by
            rw [if_pos hAll]
            exact congrArg (· + 1#16) hLibOpenCnt
          libFlags := by
            rw [if_pos hAll]
            exact congrArg (· &&& ~~~libfDelExp) hLibFlags
          unit0 := by
            refine hUnit0.trans ⟨fun hGets => ?_, fun _ => ?_⟩
            · exact Or.inr ⟨hAnswers, hGets⟩
            · exact hReady.1
          buffMgmt := ⟨_, hBuffMgmt, by
            rw [if_pos hAll]
            rfl⟩ }
    · rw [if_neg (fun hBoth =>
        hReady ⟨hUnit0.mp hBoth.1, hBoth.2⟩)]
      apply reached_openFailed
      · exact fun hAll => hReady hAll.2
      · exact hLibOpenCnt
      · exact hLibFlags
      · refine hUnit0.trans
          ⟨fun hGets => ?_, fun hEither => ?_⟩
        · exact Or.inr ⟨hAnswers, hGets⟩
        · rcases hEither with hThere | hBoth
          · exact Or.inl hThere
          · exact hBoth.2
      · exact hBuffMgmt
  · rw [if_neg (fun hFound =>
      hAnswers ((hFinds s.nic).mp hFound))]
    apply reached_openFailed
    · exact fun hAll => hAnswers hAll.1
    · rfl
    · rfl
    · simp [hAnswers]
    · exact Or.inl rfl

/- The open in progress is counted up and down again. -/
theorem libOpenCnt_countOpen
    {c : Prop} [Decidable c]
    {s : Driver}
    {count : UWORD}
    (hCounted :
      s.base.libOpenCnt = if c then count + 1#16 + 1#16
        else count + 1#16) :
    (countOpen (0#16 - 1#16) s).base.libOpenCnt =
      if c then count + 1#16 else count := by
  have hStep :
      (countOpen (0#16 - 1#16) s).base.libOpenCnt =
        s.base.libOpenCnt + (0#16 - 1#16) := rfl
  have hBack (count : UWORD) :
      count + 1#16 + (0#16 - 1#16) = count := by
    rw [BitVec.add_assoc]
    exact BitVec.add_zero count
  rw [hStep, hCounted]
  by_cases hCond : c
  · rw [if_pos hCond, if_pos hCond, hBack]
  · rw [if_neg hCond, if_neg hCond, hBack]

theorem unit_countOpen (step : UWORD) (s : Driver) :
    (countOpen step s).base.unit0 = s.base.unit0 ∧
      (countOpen step s).unit = s.unit ∧
      (countOpen step s).reqs = s.reqs ∧
      (countOpen step s).base.libFlags = s.base.libFlags :=
  ⟨rfl, rfl, rfl, rfl⟩

theorem base_openFailed (ios2 : APTR) (s : Driver) :
    (openFailed ios2 s).base = s.base := rfl

/- An open that passes the checks, from where they end. -/
theorem Opened.of_reached
    {s t s' : Driver}
    {ios2 : APTR}
    {s2unit s2flags : ULONG}
    {env : OpenEnv}
    (hProbes : Probes s2unit s2flags env s)
    (hNic : t.nic = s.nic)
    (hUnit : t.unit = s.unit)
    (hBase : t.base =
      { s.base with
        libOpenCnt := s.base.libOpenCnt + 1#16
        libFlags := modeBits s2flags s.base.libFlags })
    (hReached :
      Reached ios2 env (t.nic.chip.reg regCider = revA3Id)
        t s') :
    Opened ios2 s2unit s2flags env s
      (countOpen (0#16 - 1#16) s') := by
  have hUnit0 : t.base.unit0 = s.base.unit0 := by rw [hBase]
  have hGets : GetsUnit env t ↔ GetsUnit env s := by
    unfold GetsUnit
    rw [hUnit0]
  have hReaches :
      t.nic.chip.reg regCider = revA3Id ∧ GetsUnit env t ↔
        ReachesUnit s2unit s2flags env s ∧
          GetsUnit env s := by
    rw [hNic, hGets]
    exact and_congr_left'
      ⟨fun hAnswers => ⟨hProbes, hAnswers⟩, And.right⟩
  have hSucceeds :
      t.nic.chip.reg regCider = revA3Id ∧ GetsUnit env t ∧
          env.bm ≠ 0 ↔
        Succeeds s2unit s2flags env s := by
    rw [← and_assoc, hReaches, and_assoc]
    rfl
  exact
    { ioError := by
        rw [(unit_countOpen _ s').2.2.1, hReached.ioError,
          hSucceeds]
      libOpenCnt := by
        apply libOpenCnt_countOpen
        rw [hReached.libOpenCnt, if_congr hSucceeds rfl rfl,
          hBase]
      libFlags := by
        rw [(unit_countOpen _ s').2.2.2, if_pos hProbes,
          hReached.libFlags, if_congr hSucceeds rfl rfl, hBase]
      unit0 := by
        rw [(unit_countOpen _ s').1, hReached.unit0, hReaches,
          hUnit0]
      buffMgmt := by
        rw [(unit_countOpen _ s').2.1, ← hUnit, ← hUnit0]
        simpa only [hSucceeds] using hReached.buffMgmt }

theorem opened_deviceOpenBy
    {probe : NicState → ErrorT × NicState}
    (hFinds : Finds probe)
    (ios2 : APTR)
    (s2unit s2flags : ULONG)
    (env : OpenEnv)
    (s : Driver) :
    Opened ios2 s2unit s2flags env s
      (deviceOpenBy probe ios2 s2unit s2flags env s) := by
  by_cases hProbes : Probes s2unit s2flags env s
  · rw [deviceOpenBy_of_probes probe ios2 hProbes]
    refine Opened.of_reached hProbes ?_ ?_ ?_
      (reached_probeAndOpenBy hFinds ios2 env _)
    · rfl
    · rfl
    · rfl
  · rw [deviceOpenBy_of_not_probes probe ios2 hProbes]
    have hFails : ¬ Succeeds s2unit s2flags env s :=
      fun hAll => hProbes hAll.1.1
    have hAll : (~~~0#8 : UBYTE) = BitVec.allOnes 8 := rfl
    exact
      { ioError := by
          simp [openFailed, Driver.setReq, Driver.setBase,
            countOpen, ioerrOpenFail, s2errNoError, hFails]
        libOpenCnt := by
          apply libOpenCnt_countOpen
          rw [if_neg hFails]
          rfl
        libFlags := by
          rw [if_neg hFails, if_neg hProbes, hAll,
            BitVec.and_allOnes, (unit_countOpen _ _).2.2.2,
            base_openFailed, (unit_countOpen _ s).2.2.2]
        unit0 := by
          rw [(unit_countOpen _ _).1, base_openFailed,
            (unit_countOpen _ s).1]
          exact ⟨Or.inl, fun hEither => hEither.elim id
            (fun hBoth => absurd hBoth.1.1 hProbes)⟩
        buffMgmt := by
          rw [(unit_countOpen _ _).2.1]
          exact ⟨_, Or.inl rfl, by rw [if_neg hFails]; rfl⟩ }

theorem opened_deviceOpen
    (ios2 : APTR)
    (s2unit s2flags : ULONG)
    (env : OpenEnv)
    (s : Driver) :
    Opened ios2 s2unit s2flags env s
      (deviceOpen ios2 s2unit s2flags env s) := by
  rw [← deviceOpenBy_runOn]
  exact opened_deviceOpenBy detect_succeeds_iff ios2 s2unit
    s2flags env s

end KszDriver
