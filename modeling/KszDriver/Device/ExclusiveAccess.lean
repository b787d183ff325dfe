import KszDriver.Device.Handles

/-
  Exclusive access: who may open the device while a handle
  asked for it alone, and the mode bits that say so.

  The bit for exclusive access is set before the open is
  known to succeed, is a library flag of every device that
  has just been loaded, and no open looks at it.

  Main declarations:
    * `Tally.Exact`
    * `Tally.Exclusive`, `Tally.Grants`
    * `exclusive_iff`
-/

------------------------------------------------------------
-- Mode Bits
------------------------------------------------------------

namespace KszDriver

/- The open asks for exclusive access. -/
def Mine (s2flags : ULONG) : Prop :=
  s2flags &&& sana2OpfMine ≠ 0#32

/- The open asks for promiscuous mode. -/
def Prom (s2flags : ULONG) : Prop :=
  s2flags &&& sana2OpfProm ≠ 0#32

instance (s2flags : ULONG) : Decidable (Mine s2flags) := by
  unfold Mine
  infer_instance

instance (s2flags : ULONG) : Decidable (Prom s2flags) := by
  unfold Prom
  infer_instance

/- A mode is set in the flags of the device. -/
def Driver.HasMode (mode : ULONG) (s : Driver) : Prop :=
  s.base.libFlags &&& mode.setWidth 8 ≠ 0#8

instance (mode : ULONG) (s : Driver) :
    Decidable (s.HasMode mode) := by
  unfold Driver.HasMode
  infer_instance

section Bits

variable {mode : ULONG} {flags : UBYTE}

theorem or_delExp
    (hApart : libfDelExp &&& mode.setWidth 8 = 0#8) :
    (flags ||| libfDelExp) &&& mode.setWidth 8 =
      flags &&& mode.setWidth 8 := by
  rw [BitVec.and_or_distrib_right, hApart, BitVec.or_zero]

theorem and_not_delExp
    (hKeeps : ~~~libfDelExp &&& mode.setWidth 8 =
      mode.setWidth 8) :
    (flags &&& ~~~libfDelExp) &&& mode.setWidth 8 =
      flags &&& mode.setWidth 8 := by
  rw [BitVec.and_assoc, hKeeps]

/- A mode that an open sets or leaves alone. -/
theorem or_mode_iff
    {wanted : Prop} [Decidable wanted]
    {bits : UBYTE}
    (hSets : bits &&& mode.setWidth 8 = mode.setWidth 8)
    (hSome : mode.setWidth 8 ≠ 0#8) :
    (if wanted then flags ||| bits else flags) &&&
        mode.setWidth 8 ≠ 0#8 ↔
      wanted ∨ flags &&& mode.setWidth 8 ≠ 0#8 := by
  by_cases hWanted : wanted
  · rw [if_pos hWanted, BitVec.and_or_distrib_right, hSets]
    refine iff_of_true (fun hNone => hSome ?_)
      (Or.inl hWanted)
    exact (BitVec.or_eq_zero_iff.mp hNone).2
  · rw [if_neg hWanted]
    simp [hWanted]

theorem or_other_mode
    {wanted : Prop} [Decidable wanted]
    {bits : UBYTE}
    (hApart : bits &&& mode.setWidth 8 = 0#8) :
    (if wanted then flags ||| bits else flags) &&&
        mode.setWidth 8 =
      flags &&& mode.setWidth 8 := by
  by_cases hWanted : wanted
  · rw [if_pos hWanted, BitVec.and_or_distrib_right, hApart,
      BitVec.or_zero]
  · rw [if_neg hWanted]

theorem exclusive_modeBits (s2flags : ULONG) :
    modeBits s2flags flags &&& etherufExclusive.setWidth 8 ≠
        0#8 ↔
      Mine s2flags ∨
        flags &&& etherufExclusive.setWidth 8 ≠ 0#8 := by
  unfold modeBits
  dsimp only
  rw [or_other_mode (by decide)]
  exact or_mode_iff (by decide) (by decide)

theorem promisc_modeBits (s2flags : ULONG) :
    modeBits s2flags flags &&& etherufPromisc.setWidth 8 ≠
        0#8 ↔
      Prom s2flags ∨
        flags &&& etherufPromisc.setWidth 8 ≠ 0#8 := by
  unfold modeBits
  dsimp only
  rw [or_mode_iff (by decide) (by decide),
    or_other_mode (by decide)]
  rfl

/- A close leaves none of the modes. -/
theorem resetModes_mode
    (hReset :
      ~~~(etherufExclusive.setWidth 8) &&&
          (~~~(etherufLoopback.setWidth 8) &&&
            (~~~(etherufPromisc.setWidth 8) &&&
              mode.setWidth 8)) = 0#8) :
    resetModes flags &&& mode.setWidth 8 = 0#8 := by
  unfold resetModes
  rw [BitVec.and_assoc, BitVec.and_assoc, BitVec.and_assoc,
    hReset, BitVec.and_zero]

end Bits

------------------------------------------------------------
-- Modes after a Call
------------------------------------------------------------

/- The two modes that an open can set. -/
inductive IsAccess : ULONG → Prop where
| exclusive : IsAccess etherufExclusive
| promisc : IsAccess etherufPromisc

namespace IsAccess

variable {mode : ULONG}

theorem or_delExp (hAccess : IsAccess mode) (flags : UBYTE) :
    (flags ||| libfDelExp) &&& mode.setWidth 8 =
      flags &&& mode.setWidth 8 := by
  cases hAccess with
  | exclusive => exact KszDriver.or_delExp (by decide)
  | promisc => exact KszDriver.or_delExp (by decide)

theorem and_mask (hAccess : IsAccess mode)
    {c : Prop} [Decidable c] (flags : UBYTE) :
    flags &&& (if c then ~~~libfDelExp else ~~~0#8) &&&
        mode.setWidth 8 =
      flags &&& mode.setWidth 8 := by
  by_cases hCond : c
  · rw [if_pos hCond]
    cases hAccess with
    | exclusive => exact and_not_delExp (by decide)
    | promisc => exact and_not_delExp (by decide)
  · have hAll : (~~~0#8 : UBYTE) = BitVec.allOnes 8 := rfl
    rw [if_neg hCond, hAll, BitVec.and_allOnes]

theorem resetModes (hAccess : IsAccess mode) (flags : UBYTE) :
    resetModes flags &&& mode.setWidth 8 = 0#8 := by
  cases hAccess with
  | exclusive => exact resetModes_mode (by decide)
  | promisc => exact resetModes_mode (by decide)

end IsAccess

/- The mode that an open with such flags asks for. -/
def Asks (s2flags mode : ULONG) : Prop :=
  if mode = etherufExclusive then Mine s2flags
  else Prom s2flags

theorem hasMode_open
    {mode s2unit s2flags : ULONG}
    {env : OpenEnv}
    {s : Driver}
    (ios2 : APTR)
    (hAccess : IsAccess mode) :
    (deviceOpen ios2 s2unit s2flags env s).HasMode mode ↔
      Probes s2unit s2flags env s ∧ Asks s2flags mode ∨
        s.HasMode mode := by
  have hFlags :=
    (opened_deviceOpen ios2 s2unit s2flags env s).libFlags
  unfold Driver.HasMode
  rw [hFlags, hAccess.and_mask]
  by_cases hProbes : Probes s2unit s2flags env s
  · rw [if_pos hProbes]
    cases hAccess with
    | exclusive => simp [exclusive_modeBits, hProbes, Asks]
    | promisc =>
        have hOther : etherufPromisc ≠ etherufExclusive := by
          decide
        simp [promisc_modeBits, hProbes, Asks, hOther]
  · rw [if_neg hProbes]
    simp [hProbes]

theorem not_hasMode_close
    {mode : ULONG}
    {ios2 : APTR}
    {s : Driver}
    (hAccess : IsAccess mode)
    (hHandle : s.OpenHandle ios2) :
    ¬ (deviceClose ios2 s).2.HasMode mode := by
  have hFlags :=
    (base_deviceClose ⟨hHandle.1, hHandle.2.1⟩).2
  have hNone := hAccess.resetModes s.base.libFlags
  unfold Driver.HasMode
  rw [not_not, hFlags, hNone]

theorem hasMode_calm
    {mode : ULONG}
    {op : Op}
    (s : Driver)
    (hAccess : IsAccess mode)
    (hCalm : Tally.Calm op) :
    (s.next op).HasMode mode ↔ s.HasMode mode := by
  have hFlags := (Tally.calm_next s hCalm).2.2.1
  unfold Driver.HasMode
  rcases hFlags with hFlags | hFlags
  · rw [hFlags]
  · rw [hFlags, hAccess.or_delExp]

------------------------------------------------------------
-- Exclusive Handles
------------------------------------------------------------

namespace Tally

variable {t : Tally} {op : Op}

/- A handle that was opened for exclusive access is open. -/
def HeldAlone (t : Tally) : Prop :=
  ∃ h ∈ t.handles, Mine h.s2flags

/- A mode bit is set if and only if the handle that is open
   was opened for it. -/
def Exact (t : Tally) : Prop :=
  (t.driver.HasMode etherufExclusive ↔ t.HeldAlone) ∧
    (t.driver.HasMode etherufPromisc ↔
      ∃ h ∈ t.handles, Mine h.s2flags ∧ Prom h.s2flags)

/-
  The mode bits are exact after a step, no open succeeds
  while the device is held alone, and one for exclusive
  access succeeds only if no handle is open.
-/
def Exclusive (t : Tally) (op : Op) : Prop :=
  (t.next op).Exact ∧
    ∀ ios2 s2unit s2flags env,
      op = .openDevice ios2 s2unit s2flags env →
      ((deviceOpen ios2 s2unit s2flags env
        t.driver).reqs ios2).ioError = s2errNoError →
        ¬ t.HeldAlone ∧ (Mine s2flags → t.handles = [])

/- The bit is set, and there is no handle to set it. -/
def Stale (t : Tally) : Prop :=
  t.handles = [] ∧ t.driver.HasMode etherufExclusive

/-
  An open for exclusive access that passes the checks also
  succeeds, and as the first handle.  No open would succeed
  while the device is held alone.  A bit that is stale is
  taken over at once.
-/
def Grants (t : Tally) : Op → Prop
| .openDevice _ s2unit s2flags env =>
    (Probes s2unit s2flags env t.driver ∧ Mine s2flags →
      Succeeds s2unit s2flags env t.driver ∧
        t.handles = []) ∧
    (Succeeds s2unit s2flags env t.driver →
      ¬ t.HeldAlone) ∧
    (t.Stale →
      Probes s2unit s2flags env t.driver ∧ Mine s2flags)
| _ => ¬ t.Stale

instance (t : Tally) : Decidable t.HeldAlone := by
  unfold HeldAlone
  infer_instance

instance (t : Tally) : Decidable t.Exact := by
  unfold Exact
  infer_instance

instance (t : Tally) : Decidable t.Stale := by
  unfold Stale
  infer_instance

instance (t : Tally) (op : Op) : Decidable (t.Grants op) :=
  match op with
  | .openDevice _ s2unit s2flags env =>
      inferInstanceAs (Decidable
        ((Probes s2unit s2flags env t.driver ∧
            Mine s2flags →
          Succeeds s2unit s2flags env t.driver ∧
            t.handles = []) ∧
        (Succeeds s2unit s2flags env t.driver →
          ¬ t.HeldAlone) ∧
        (t.Stale →
          Probes s2unit s2flags env t.driver ∧
            Mine s2flags)))
  | .close _ | .expunge | .beginIo _ _ | .abortIo _
  | .serviceMsgPort _ | .pktReceived _ _ _ | .doEvent _
  | .configChanged _ | .clientWrite _ _ | .hardware _ =>
      inferInstanceAs (Decidable (¬ t.Stale))

/- An open that asks for a mode asks for exclusive access. -/
theorem mine_of_asks
    {mode s2unit s2flags : ULONG}
    {env : OpenEnv}
    {s : Driver}
    (hProbes : Probes s2unit s2flags env s)
    (hAsks : Asks s2flags mode) :
    Mine s2flags := by
  unfold Asks at hAsks
  by_cases hMode : mode = etherufExclusive
  · rw [if_pos hMode] at hAsks
    exact hAsks
  · rw [if_neg hMode] at hAsks
    exact by_contra (fun hNot =>
      hProbes.2.2.2 ⟨hAsks, hNot⟩)

/- Both bits at once. -/
theorem exact_iff :
    t.Exact ↔
      ∀ mode, IsAccess mode →
        (t.driver.HasMode mode ↔
          ∃ h ∈ t.handles,
            Mine h.s2flags ∧ Asks h.s2flags mode) := by
  have hOther : etherufPromisc ≠ etherufExclusive := by
    decide
  constructor
  · rintro ⟨hExclusive, hPromisc⟩ mode hAccess
    cases hAccess with
    | exclusive =>
        simpa [Asks, HeldAlone] using hExclusive
    | promisc => simpa [Asks, hOther] using hPromisc
  · intro hModes
    have hExclusive := hModes _ .exclusive
    have hPromisc := hModes _ .promisc
    constructor
    · simpa [Asks, HeldAlone] using hExclusive
    · simpa [Asks, hOther] using hPromisc

/- What holds in a run that grants exclusive access as it
   should; the last field covers the device just loaded. -/
structure Granted (t : Tally) : Prop where
  kept : t.Kept
  alone : ∀ h ∈ t.handles, Mine h.s2flags → t.handles = [h]
  bits : t.Exact ∨
    t.Stale ∧ ¬ t.driver.HasMode etherufPromisc

theorem not_stale_of_exact (hExact : t.Exact) : ¬ t.Stale := by
  rintro ⟨hNone, hSet⟩
  rcases hExact.1.mp hSet with ⟨h, hIn, -⟩
  rw [hNone] at hIn
  exact List.not_mem_nil hIn

theorem Granted.exact_iff_not_stale (hGranted : t.Granted) :
    t.Exact ↔ ¬ t.Stale :=
  ⟨not_stale_of_exact, fun hFresh =>
    hGranted.bits.resolve_right (fun hLeft =>
      hFresh hLeft.1)⟩

/- Nothing passes the checks for exclusive access while the
   device is held alone. -/
theorem Granted.not_probes
    {s2unit s2flags : ULONG}
    {env : OpenEnv}
    (hGranted : t.Granted)
    (hHeld : t.HeldAlone)
    (hProbes : Probes s2unit s2flags env t.driver) :
    ¬ Mine s2flags := by
  rcases hHeld with ⟨h, hIn, hMine⟩
  have hCount := hGranted.kept.counted
  rw [hGranted.alone h hIn hMine] at hCount
  intro hAsks
  apply hProbes.2.2.1
  rw [hCount]
  have hTwo : (1#16 + 1#16 : UWORD) > 1#16 := by decide
  exact ⟨hAsks, hTwo⟩

------------------------------------------------------------
-- Steps
------------------------------------------------------------

section Open

variable {ios2 : APTR} {s2unit s2flags : ULONG}
variable {env : OpenEnv}

/- The bits after an open that succeeds as it should. -/
theorem Granted.exact_success
    (hGranted : t.Granted)
    (hSuccess : Succeeds s2unit s2flags env t.driver)
    (hFree : ¬ t.HeldAlone) :
    (t.next (.openDevice ios2 s2unit s2flags env)).Exact ↔
      (t.Stale → Mine s2flags) := by
  have hProbes := hSuccess.1.1
  have hHandles := after_open (t := t) ios2 s2unit s2flags env
  rw [if_pos hSuccess] at hHandles
  -- nobody held the device alone, so the new handle decides
  have hMode (mode : ULONG) (hAccess : IsAccess mode) :
      ((t.next (.openDevice ios2 s2unit s2flags
          env)).driver.HasMode mode ↔
        ∃ h ∈ t.after (.openDevice ios2 s2unit s2flags env),
          Mine h.s2flags ∧ Asks h.s2flags mode) ↔
        (t.driver.HasMode mode → Asks s2flags mode) := by
    have hSet := @hasMode_open mode s2unit s2flags env
      t.driver ios2 hAccess
    have hHeld :
        (∃ h ∈ t.after (.openDevice ios2 s2unit s2flags env),
          Mine h.s2flags ∧ Asks h.s2flags mode) ↔
        Asks s2flags mode := by
      rw [hHandles]
      constructor
      · rintro ⟨h, hIn, hMine, hAsks⟩
        rcases List.mem_append.mp hIn with hOld | hNew
        · exact absurd ⟨h, hOld, hMine⟩ hFree
        · rw [List.mem_singleton] at hNew
          rw [hNew] at hAsks
          exact hAsks
      · intro hAsks
        exact ⟨_, List.mem_append_right _
          (List.mem_singleton_self _),
          mine_of_asks hProbes hAsks, hAsks⟩
    rw [hHeld]
    refine (iff_congr hSet Iff.rfl).trans ?_
    constructor
    · exact fun hIff hOld => hIff.mp (Or.inr hOld)
    · intro hKeeps
      exact ⟨fun hEither => hEither.elim And.right hKeeps,
        fun hAsks => Or.inl ⟨hProbes, hAsks⟩⟩
  rw [exact_iff]
  constructor
  · intro hModes hStale
    have hAsks := (hMode _ .exclusive).mp
      (hModes _ .exclusive) hStale.2
    simpa [Asks] using hAsks
  · intro hTakes mode hAccess
    refine (hMode mode hAccess).mpr (fun hSet => ?_)
    rcases hGranted.bits with hExact | ⟨hStale, hNone⟩
    · rcases (exact_iff.mp hExact mode hAccess).mp hSet with
        ⟨h, hIn, hMine, -⟩
      exact absurd ⟨h, hIn, hMine⟩ hFree
    · cases hAccess with
      | exclusive => simpa [Asks] using hTakes hStale
      | promisc => exact absurd hSet hNone

/- The bits after an open that fails. -/
theorem Granted.exact_failure
    (hGranted : t.Granted)
    (hFails : ¬ Succeeds s2unit s2flags env t.driver) :
    (t.next (.openDevice ios2 s2unit s2flags env)).Exact ↔
      ¬ (Probes s2unit s2flags env t.driver ∧
          Mine s2flags) ∧ ¬ t.Stale := by
  have hHandles := after_open (t := t) ios2 s2unit s2flags env
  rw [if_neg hFails] at hHandles
  have hSet (mode : ULONG) (hAccess : IsAccess mode) :=
    @hasMode_open mode s2unit s2flags env t.driver ios2
      hAccess
  constructor
  · intro hExact
    have hHeld : t.HeldAlone ↔
        (t.next (.openDevice ios2 s2unit s2flags
          env)).driver.HasMode etherufExclusive := by
      rw [hExact.1]
      unfold HeldAlone
      rw [handles_next, hHandles]
    constructor
    · rintro ⟨hProbes, hMine⟩
      have hAsks : Asks s2flags etherufExclusive := by
        simpa [Asks] using hMine
      exact hGranted.not_probes (hHeld.mpr
        ((hSet _ .exclusive).mpr
          (Or.inl ⟨hProbes, hAsks⟩))) hProbes hMine
    · rintro ⟨hNone, hLeft⟩
      rcases hHeld.mpr ((hSet _ .exclusive).mpr
        (Or.inr hLeft)) with ⟨h, hIn, -⟩
      rw [hNone] at hIn
      exact List.not_mem_nil hIn
  · rintro ⟨hNoMine, hFresh⟩
    have hExact := hGranted.exact_iff_not_stale.mpr hFresh
    rw [exact_iff] at hExact ⊢
    intro mode hAccess
    rw [handles_next, hHandles, ← hExact mode hAccess]
    refine (hSet mode hAccess).trans ?_
    constructor
    · rintro (⟨hProbes, hAsks⟩ | hOld)
      · exact absurd ⟨hProbes, mine_of_asks hProbes hAsks⟩
          hNoMine
      · exact hOld
    · exact Or.inr

/- An open is exclusive exactly if it grants access as it
   should. -/
theorem Granted.exclusive_open (hGranted : t.Granted) :
    t.Exclusive (.openDevice ios2 s2unit s2flags env) ↔
      t.Grants (.openDevice ios2 s2unit s2flags env) := by
  have hResult := (opened_deviceOpen ios2 s2unit s2flags env
    t.driver).ioError
  have hRule :
      t.Exclusive (.openDevice ios2 s2unit s2flags env) ↔
        (t.next
          (.openDevice ios2 s2unit s2flags env)).Exact ∧
        (Succeeds s2unit s2flags env t.driver →
          ¬ t.HeldAlone ∧
            (Mine s2flags → t.handles = [])) := by
    refine and_congr_right (fun _ => ?_)
    constructor
    · intro hOpens hSuccess
      exact hOpens ios2 s2unit s2flags env rfl
        (hResult.mpr hSuccess)
    · rintro hOpens ios2' s2unit' s2flags' env' hOp hDone
      cases hOp
      exact hOpens (hResult.mp hDone)
  rw [hRule]
  unfold Grants
  by_cases hSuccess : Succeeds s2unit s2flags env t.driver
  · have hProbes := hSuccess.1.1
    constructor
    · rintro ⟨hExact, hOpens⟩
      rcases hOpens hSuccess with ⟨hFree, hFirst⟩
      refine ⟨fun hAsks => ⟨hSuccess, hFirst hAsks.2⟩,
        fun _ => hFree, fun hStale => ⟨hProbes, ?_⟩⟩
      exact (hGranted.exact_success hSuccess hFree).mp hExact
        hStale
    · rintro ⟨hFirst, hFree, hTakes⟩
      refine ⟨?_, fun _ => ⟨hFree hSuccess, fun hMine =>
        (hFirst ⟨hProbes, hMine⟩).2⟩⟩
      exact (hGranted.exact_success hSuccess
        (hFree hSuccess)).mpr (fun hStale => (hTakes hStale).2)
  · rw [hGranted.exact_failure hSuccess]
    constructor
    · rintro ⟨⟨hNoMine, hFresh⟩, -⟩
      exact ⟨fun hAsks => absurd hAsks hNoMine,
        fun hDone => absurd hDone hSuccess,
        fun hStale => absurd hStale hFresh⟩
    · rintro ⟨hFirst, -, hTakes⟩
      have hNoMine : ¬ (Probes s2unit s2flags env t.driver ∧
          Mine s2flags) :=
        fun hAsks => hSuccess (hFirst hAsks).1
      exact ⟨⟨hNoMine, fun hStale => hNoMine (hTakes hStale)⟩,
        fun hDone => absurd hDone hSuccess⟩

end Open

/- Whoever holds the device alone is the one to close. -/
theorem Granted.exact_close
    {ios2 : APTR}
    (hGranted : t.Granted)
    (hHandle : t.driver.OpenHandle ios2) :
    (t.next (.close ios2)).Exact := by
  have hLength := length_after_close hGranted.kept hHandle
  have hNobody : ∀ h ∈ t.after (.close ios2),
      ¬ Mine h.s2flags := by
    intro h hIn hMine
    have hOld : h ∈ t.handles := by
      rw [after_close hHandle] at hIn
      exact List.mem_of_mem_eraseP hIn
    rw [hGranted.alone h hOld hMine] at hLength
    exact absurd (List.length_pos_of_mem hIn)
      (hLength.1 ▸ Nat.lt_irrefl 0)
  rw [exact_iff]
  intro mode hAccess
  refine iff_of_false (not_hasMode_close hAccess hHandle) ?_
  rintro ⟨h, hIn, hMine, -⟩
  exact hNobody h hIn hMine

theorem exact_calm (hCalm : Calm op) :
    (t.next op).Exact ↔ t.Exact := by
  unfold Exact HeldAlone
  rw [handles_next, after_of_calm hCalm, driver_next,
    hasMode_calm t.driver .exclusive hCalm,
    hasMode_calm t.driver .promisc hCalm]

/- Steps without an open are exclusive if no bit is stale. -/
theorem Granted.exclusive_other
    (hGranted : t.Granted)
    (hExact : (t.next op).Exact ↔ t.Exact)
    (hOther : ∀ ios2 s2unit s2flags env,
      op ≠ .openDevice ios2 s2unit s2flags env) :
    t.Exclusive op ↔ ¬ t.Stale := by
  rw [← hGranted.exact_iff_not_stale, ← hExact]
  refine and_iff_left ?_
  intro ios2 s2unit s2flags env hOp
  exact absurd hOp (hOther ios2 s2unit s2flags env)

theorem Granted.grants_iff
    (hGranted : t.Granted)
    (hAllowed : op.Allowed t.driver) :
    t.Exclusive op ↔ t.Grants op := by
  cases op with
  | openDevice ios2 s2unit s2flags env =>
      exact hGranted.exclusive_open
  | close ios2 =>
      refine hGranted.exclusive_other ?_ (by simp)
      by_cases hHandle : t.driver.OpenHandle ios2
      · refine iff_of_true (hGranted.exact_close hHandle) ?_
        rw [hGranted.exact_iff_not_stale]
        rintro ⟨hNone, -⟩
        have hPos :=
          (length_after_close hGranted.kept hHandle).2
        rw [hNone] at hPos
        exact absurd hPos (Nat.lt_irrefl 0)
      · rw [next_close_of_closed hAllowed hHandle]
  | _ =>
      exact hGranted.exclusive_other
        (exact_calm ⟨by simp, by simp⟩) (by simp)

/- An open for exclusive access stays alone. -/
theorem Granted.alone_next
    (hGranted : t.Granted)
    (hGrants : t.Grants op) :
    ∀ h ∈ (t.next op).handles, Mine h.s2flags →
      (t.next op).handles = [h] := by
  intro h hIn hMine
  rw [handles_next] at hIn ⊢
  cases op with
  | openDevice ios2 s2unit s2flags env =>
      rw [after_open] at hIn ⊢
      by_cases hSuccess :
          Succeeds s2unit s2flags env t.driver
      · rw [if_pos hSuccess] at hIn ⊢
        rcases List.mem_append.mp hIn with hOld | hNew
        · exact absurd ⟨h, hOld, hMine⟩
            (hGrants.2.1 hSuccess)
        · rw [List.mem_singleton] at hNew
          subst hNew
          rw [(hGrants.1 ⟨hSuccess.1.1, hMine⟩).2]
          rfl
      · rw [if_neg hSuccess] at hIn ⊢
        exact hGranted.alone h hIn hMine
  | close ios2 =>
      by_cases hHandle : t.driver.OpenHandle ios2
      · have hLength :=
          length_after_close hGranted.kept hHandle
        have hOld : h ∈ t.handles := by
          rw [after_close hHandle] at hIn
          exact List.mem_of_mem_eraseP hIn
        rw [hGranted.alone h hOld hMine] at hLength
        exact absurd (List.length_pos_of_mem hIn)
          (hLength.1 ▸ Nat.lt_irrefl 0)
      · have hSame : t.after (.close ios2) = t.handles :=
          if_neg hHandle
        rw [hSame] at hIn ⊢
        exact hGranted.alone h hIn hMine
  | _ => exact hGranted.alone h hIn hMine

theorem Granted.next
    (hGranted : t.Granted)
    (hAllowed : op.Allowed t.driver)
    (hGrants : t.Grants op) :
    (t.next op).Granted where
  kept := kept_next hGranted.kept hAllowed
  alone := hGranted.alone_next hGrants
  bits := Or.inl
    ((hGranted.grants_iff hAllowed).mpr hGrants).1

/- The flag of a loaded device that is also the bit for
   exclusive access. -/
theorem start_stale (hStart : t.Start) :
    t.Stale ∧ ¬ t.driver.HasMode etherufPromisc := by
  rcases hStart with ⟨⟨-, -, -, -, segList, loaded, -,
    hLoaded⟩, hHandles⟩
  have hFlags :
      t.driver.base.libFlags = libfChanged ||| libfSumUsed := by
    rw [hLoaded]
    rfl
  unfold Stale Driver.HasMode
  rw [hFlags]
  exact ⟨⟨hHandles, by decide⟩, by decide⟩

theorem start_granted (hStart : t.Start) : t.Granted where
  kept := start_kept hStart
  alone := by
    rw [hStart.2]
    intro h hIn
    exact absurd hIn List.not_mem_nil
  bits := Or.inr (start_stale hStart)

end Tally

------------------------------------------------------------
-- Runs
------------------------------------------------------------

/-
  The bits are never exact in a device that has just been
  loaded.  After every step of a run they are, and access is
  exclusive, exactly if every step grants it as it should.
-/
theorem exclusive_iff
    (ops : List Op)
    {t : Tally}
    (hStart : t.Start) :
    ¬ t.Exact ∧
      (tallyMachine.Runs Tally.Exclusive ops t ↔
        tallyMachine.Runs Tally.Grants ops t) := by
  constructor
  · intro hExact
    exact Tally.not_stale_of_exact hExact
      (Tally.start_stale hStart).1
  · apply Machine.runs_congr (I := Tally.Granted)
    · intro t op hGranted hAllowed
      exact hGranted.grants_iff hAllowed
    · intro t op hGranted hAllowed hGrants
      exact hGranted.next hAllowed hGrants
    · exact Tally.start_granted hStart

/- A handle for exclusive access is opened and closed, and
   then one without. -/
def exclusiveOpens : List Op :=
  [.openDevice 7 0#32 sana2OpfMine (plainOpen 40),
    .openDevice 9 0#32 sana2OpfMine (plainOpen 41),
    .close 7, .openDevice 9 0#32 0#32 (plainOpen 41)]

theorem exclusive_iff_exclusiveOpens :
    ¬ (loadedTally (idleRegisters 0x1800#16)).Exact ∧
      (tallyMachine.Runs Tally.Exclusive exclusiveOpens
          (loadedTally (idleRegisters 0x1800#16)) ↔
        tallyMachine.Runs Tally.Grants exclusiveOpens
          (loadedTally (idleRegisters 0x1800#16))) :=
  exclusive_iff exclusiveOpens (start_loadedTally _)

/- A second client opens a device that is held alone. -/
def intrudingOpen : List Op :=
  [.openDevice 7 0#32 sana2OpfMine (plainOpen 40),
    .openDevice 9 0#32 0#32 (plainOpen 41)]

theorem not_exclusive_intrudingOpen :
    tallyMachine.Runs Machine.Free intrudingOpen
        (loadedTally (idleRegisters 0x1800#16)) ∧
      ¬ tallyMachine.Runs Tally.Exclusive intrudingOpen
        (loadedTally (idleRegisters 0x1800#16)) := by
  constructor
  · decide +kernel
  · intro hRuns
    have hFree := hRuns.2.1.2.2 9 0#32 0#32 (plainOpen 41) rfl
      (by decide +kernel)
    apply hFree.1
    decide +kernel

end KszDriver
