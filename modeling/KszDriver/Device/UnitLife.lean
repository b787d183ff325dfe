import KszDriver.Device.Openers

/-
  The life of the unit: an open finds it or makes a new one,
  and a close leaves it as it is or ends it.

  Main declarations:
    * `DeviceDriverUnit.alone`
    * `Found`, `found_deviceOpen`
    * `Kept`, `kept_deviceClose`
-/

------------------------------------------------------------
-- Opening
------------------------------------------------------------

namespace KszDriver

/- The unit without its openers. -/
def DeviceDriverUnit.alone (u : DeviceDriverUnit) :
    DeviceDriverUnit :=
  { u with unitOpenCnt := 0#16, buffMgmt := [] }

namespace Driver

/- The online bit is one of the bits of a unit alone. -/
theorem online_of_alone
    {s s' : Driver}
    (hAlone : s'.unit.alone = s.unit.alone) :
    s'.Online ↔ s.Online := by
  have hState := congrArg DeviceDriverUnit.state hAlone
  change s'.unit.state = s.unit.state at hState
  rw [Online, Online, hState]

/- So is the configuration bit. -/
theorem configured_of_alone
    {s s' : Driver}
    (hAlone : s'.unit.alone = s.unit.alone) :
    s'.Configured ↔ s.Configured := by
  have hState := congrArg DeviceDriverUnit.state hAlone
  change s'.unit.state = s.unit.state at hState
  rw [Configured, Configured, hState]

/- Where the unit that there is after an open comes from. -/
structure Found
    (configAddr : MacAddr) (s s' : Driver) : Prop where
  kept : s.base.unit0 = true →
    s'.base.unit0 = true ∧ s'.unit.alone = s.unit.alone
  made : s.base.unit0 = false → s'.base.unit0 = true →
    s'.unit.alone =
        { newUnit.alone with stAddr := configAddr } ∧
      s'.lists .euEvents = []
  log : s'.log = s.log

variable {s s' s'' : Driver} {configAddr : MacAddr}
variable {ios2 : APTR}

theorem Found.refl : Found configAddr s s where
  kept := fun hUnit => ⟨hUnit, rfl⟩
  made := by
    intro hNone hUnit
    rw [hNone] at hUnit
    cases hUnit
  log := rfl

/- What concerns neither the unit nor its events. -/
theorem Found.of_same
    (hFound : Found configAddr s s')
    (hUnit0 : s''.base.unit0 = s'.base.unit0)
    (hUnit : s''.unit.alone = s'.unit.alone)
    (hEvents : s''.lists .euEvents = s'.lists .euEvents)
    (hLog : s''.log = s'.log) :
    Found configAddr s s'' where
  kept := by
    rw [hUnit0, hUnit]
    exact hFound.kept
  made := by
    rw [hUnit0, hUnit, hEvents]
    exact hFound.made
  log := hLog.trans hFound.log

theorem Found.initUnitProcess
    {env : OpenEnv}
    (hFound : Found env.configAddr s s') :
    Found env.configAddr s (initUnitProcess env s') := by
  unfold KszDriver.initUnitProcess
  by_cases hUnit : s'.base.unit0 = true
  · rw [if_pos hUnit]
    exact hFound
  · rw [if_neg hUnit]
    split
    · exact
        { kept := fun hThere =>
            absurd (hFound.kept hThere).1 hUnit
          made := fun _ _ => ⟨rfl, rfl⟩
          log := hFound.log }
    · exact hFound

theorem found_deviceOpen
    (ios2 : APTR)
    (s2unit s2flags : ULONG)
    (env : OpenEnv)
    (s : Driver) :
    Found env.configAddr s
      (deviceOpen ios2 s2unit s2flags env s) := by
  apply deviceOpen_rule (I := Found env.configAddr s)
    (J := Found env.configAddr s)
  · intro t flags count hFound
    exact hFound.of_same rfl rfl rfl rfl
  · intro t count hFound
    exact hFound.of_same rfl rfl rfl rfl
  · intro t hFound
    exact hFound.of_same rfl rfl rfl rfl
  · intro t hFound
    exact hFound.initUnitProcess
  · intro t hFound
    exact hFound.of_same rfl rfl rfl rfl
  · intro t _ _ hFound
    apply hFound.of_same
    · rfl
    · rfl
    · unfold addOpener
      simp [setReq, setBase, setUnit]
    · rfl
  · exact Found.refl

------------------------------------------------------------
-- Closing
------------------------------------------------------------

/- A unit that there is after a step was there before. -/
def Kept (s s' : Driver) : Prop :=
  s'.base.unit0 = true →
    s.base.unit0 = true ∧ s'.unit.alone = s.unit.alone ∧
      s'.nic = s.nic

theorem Kept.refl : Kept s s :=
  fun hUnit => ⟨hUnit, rfl, rfl⟩

theorem Kept.trans
    (hFirst : Kept s s')
    (hSecond : Kept s' s'') :
    Kept s s'' := by
  intro hUnit
  rcases hSecond hUnit with ⟨hMid, hAlone, hNic⟩
  rcases hFirst hMid with ⟨hStart, hAlone', hNic'⟩
  exact ⟨hStart, hAlone.trans hAlone', hNic.trans hNic'⟩

theorem Kept.of_same
    (hUnit0 : s'.base.unit0 = s.base.unit0)
    (hUnit : s'.unit.alone = s.unit.alone)
    (hNic : s'.nic = s.nic) :
    Kept s s' := by
  intro hThere
  rw [hUnit0] at hThere
  exact ⟨hThere, hUnit, hNic⟩

/- Whatever concerns requests, lists and history only. -/
theorem Kept.of_rest (hRest : s'.rest = s.rest) :
    Kept s s' := by
  apply Kept.of_same
  · rw [base_of_rest hRest]
  · rw [unit_of_rest hRest]
  · exact nic_of_rest hRest

/- An expunge leaves no unit. -/
theorem kept_expungeUnit (s : Driver) :
    Kept s (expungeUnit s) := by
  unfold expungeUnit
  split
  · intro hUnit
    cases hUnit
  · exact Kept.refl

theorem kept_deviceExpunge (s : Driver) :
    Kept s (deviceExpunge s).2 := by
  apply Kept.of_same (unit0_deviceExpunge s)
  · rw [unit_deviceExpunge]
  · rw [deviceExpunge_setBase]
    rfl

theorem kept_deviceClose (ios2 : APTR) (s : Driver) :
    Kept s (deviceClose ios2 s).2 := by
  have hKept : KeptByClose ios2 (Kept s) :=
    { abortOne := fun s' r hKept =>
        hKept.trans (Kept.of_rest (rest_abortOne s' r))
      erase := fun _ _ hKept =>
        hKept.trans (Kept.of_same rfl rfl rfl)
      setReq := fun s' f _ hKept =>
        hKept.trans (Kept.of_rest (rest_setReq s' ios2 f))
      setBase := fun _ _ _ hKept =>
        hKept.trans (Kept.of_same rfl rfl rfl)
      countDown := fun _ hKept =>
        hKept.trans (Kept.of_same rfl rfl rfl)
      expungeUnit := fun s' hKept =>
        hKept.trans (kept_expungeUnit s') }
  exact hKept.deviceClose Kept.refl

end Driver

end KszDriver
