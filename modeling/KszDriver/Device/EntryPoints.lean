import KszDriver.Device.Handlers

/-
  Every step of the device keeps requests in custody, as long
  as the policy admits what the step queues.

  Main declarations:
    * `outstanding_of_abortReqList`
    * `deviceOpen_rule`
    * `deviceClose_eq`, `KeptByClose`
    * `deviceAbortIo_cases`
    * `Conserved.deviceOpen`, `Conserved.deviceClose`
    * `Policy.Meets`
    * `Conserved.next`
-/

------------------------------------------------------------
-- Owned Requests
------------------------------------------------------------

namespace KszDriver

namespace Driver

/- An abort submits nothing. -/
theorem outstanding_of_abortLoop
    {s : Driver}
    {rs : List APTR}
    {r : APTR}
    (hDue : Outstanding r (abortLoop rs s).log) :
    Outstanding r s.log := by
  induction rs generalizing s with
  | nil => exact hDue
  | cons ios2 rs ih =>
      have hDue' := ih hDue
      unfold abortOne at hDue'
      rw [log_termIo] at hDue'
      exact hDue'.2

theorem outstanding_of_abortReqList
    {s : Driver}
    {head : ListHead}
    {r : APTR}
    (hDue : Outstanding r (s.abortReqList head).log) :
    Outstanding r s.log :=
  outstanding_of_abortLoop hDue

namespace Conserved

variable {P : Policy} {held : List APTR} {s : Driver}
variable {ios2 : APTR}

/- The owner of a request changes it. -/
theorem setReq_of_owned
    (hCon : s.Conserved P held)
    (hOwned : s.Owned ios2)
    (f : IOSana2Req → IOSana2Req) :
    (s.setReq ios2 f).Conserved P held := by
  apply hCon.setReq_of_not_mem f
  · intro head hMem
    exact hOwned (hCon.outstanding hMem)
  · intro hQueued
    exact absurd (hCon.pending ios2 hQueued) hOwned

/- Lists are cut; the requests cut off are lost. -/
theorem cut
    {lists : ListHead → List APTR}
    (hCon : s.Conserved P held)
    (hCut : ∀ head, (lists head).Sublist (s.lists head))
    (hLost : ∀ head, ∀ r ∈ s.lists head,
      r ∈ lists head ∨ P.lost r) :
    { s with lists := lists }.Conserved P held where
  once := fun head => (hCon.once head).sublist (hCut head)
  apart := fun head head' r hMem hMem' =>
    hCon.apart head head' r ((hCut head).mem hMem)
      ((hCut head').mem hMem')
  heldOnce := hCon.heldOnce
  heldApart := fun r hIn head hMem =>
    hCon.heldApart r hIn head ((hCut head).mem hMem)
  queued := fun head r hMem =>
    hCon.queued head r ((hCut head).mem hMem)
  owed := hCon.owed
  pending := hCon.pending
  parked := hCon.parked
  found := by
    intro r hDue
    rcases hCon.found r hDue with hGone | hIn | ⟨head, hIn⟩
    · exact Or.inl hGone
    · exact Or.inr (Or.inl hIn)
    · rcases hLost head r hIn with hKept | hGone
      · exact Or.inr (Or.inr ⟨head, hKept⟩)
      · exact Or.inl hGone
  balanced := hCon.balanced
  placed := fun head r hMem =>
    hCon.placed head r ((hCut head).mem hMem)
  waiting := hCon.waiting
  ended := hCon.ended

------------------------------------------------------------
-- Opening
------------------------------------------------------------

/- A new unit starts with empty lists. -/
theorem initUnitProcess
    (hCon : s.Conserved P held)
    (env : OpenEnv)
    (hLost : s.base.unit0 = false →
      ∀ head, ∀ r ∈ s.lists head, P.lost r) :
    (initUnitProcess env s).Conserved P held := by
  unfold KszDriver.initUnitProcess
  apply ite
  · intro _
    exact hCon
  · intro hNoUnit
    apply ite
    · intro _
      have hCut :
          { s with lists := newLists s.lists }.Conserved P
            held := by
        apply hCon.cut
        · intro head
          cases head with
          | bmRxQueue bm => exact List.Sublist.refl _
          | _ => exact List.nil_sublist _
        · intro head r hMem
          exact Or.inr
            (hLost (by simpa using hNoUnit) head r hMem)
      exact hCut.of_rest rfl rfl rfl
    · intro _
      exact hCon

/- A new opener starts with an empty read queue. -/
theorem addOpener
    (hCon : s.Conserved P held)
    (hOwned : s.Owned ios2)
    (env : OpenEnv)
    (hLost : ∀ r ∈ s.lists (.bmRxQueue env.bm), P.lost r) :
    (addOpener ios2 env s).Conserved P held := by
  have hCut :
      { s with
        lists := Function.update s.lists
          (.bmRxQueue env.bm) [] }.Conserved P held := by
    apply hCon.cut
    · intro head
      rw [Function.update_apply]
      split
      · exact List.nil_sublist _
      · exact List.Sublist.refl _
    · intro head r hMem
      rw [Function.update_apply]
      split
      · rename_i hHead
        exact Or.inr (hLost r (hHead ▸ hMem))
      · exact Or.inl hMem
  have hEntered := hCut.setUnit (fun u =>
    { u with
      buffMgmt := u.buffMgmt ++ [env.bm]
      unitOpenCnt := u.unitOpenCnt + 1#16 })
  have hFixed :=
    hEntered.setReq_of_owned hOwned (fun req =>
      { req with
        bufferManagement := env.bm
        ioError := s2errNoError
        lnType := ntReplyMsg
        ioUnit := some 0#8
        ioDevice := some 1 })
  exact hFixed.of_rest rfl rfl rfl

end Conserved

/- Starting the unit process leaves the history and the read
   queues of the openers. -/
@[simp] theorem log_initUnitProcess
    (env : OpenEnv) (s : Driver) :
    (initUnitProcess env s).log = s.log := by
  unfold initUnitProcess
  split
  · rfl
  · split <;> rfl

/- A unit process that does not start changes nothing. -/
theorem initUnitProcess_of_noUnit
    {env : OpenEnv}
    {s : Driver}
    (hNoUnit : (initUnitProcess env s).base.unit0 = false) :
    initUnitProcess env s = s := by
  unfold initUnitProcess at hNoUnit ⊢
  split
  · rfl
  · rename_i hNone
    rw [if_neg hNone] at hNoUnit
    split
    · rename_i hReady
      rw [if_pos hReady] at hNoUnit
      cases hNoUnit
    · rfl

@[simp] theorem bmRxQueue_initUnitProcess
    (env : OpenEnv) (s : Driver) (bm : APTR) :
    (initUnitProcess env s).lists (.bmRxQueue bm) =
      s.lists (.bmRxQueue bm) := by
  unfold initUnitProcess
  split
  · rfl
  · split <;> rfl

/-
  What holds after an open: `I` holds up to the point where
  the open fails or the opener is entered, and `J` from then.
-/
theorem deviceOpen_rule
    {I J : Driver → Prop}
    {ios2 : APTR}
    {env : OpenEnv}
    {s : Driver}
    (s2unit s2flags : ULONG)
    (hBefore : ∀ s
      (flags : DeviceBase → UBYTE) (count : DeviceBase → UWORD),
      I s → I (s.setBase (fun b =>
        { b with libFlags := flags b, libOpenCnt := count b })))
    (hAfter : ∀ s (count : DeviceBase → UWORD),
      J s → J (s.setBase (fun b =>
        { b with libOpenCnt := count b })))
    (hProbed : ∀ s, I s →
      I (s.runNic ksz8851DetectNICEndiness))
    (hStarted : ∀ s, I s → I (initUnitProcess env s))
    (hFailed : ∀ s, I s → J (openFailed ios2 s))
    (hOpened : ∀ s, s.base.unit0 = true → env.bm ≠ 0 →
      I s → J (addOpener ios2 env s))
    (hState : I s) :
    J (deviceOpen ios2 s2unit s2flags env s) := by
  have hProbe :
      ∀ s, I s → J (probeAndOpen ios2 env s) := by
    intro s hI
    unfold probeAndOpen
    dsimp only
    split
    · split
      · rename_i hReady
        exact hOpened _ hReady.1 hReady.2
          (hStarted _ (hProbed s hI))
      · exact hFailed _ (hStarted _ (hProbed s hI))
    · exact hFailed _ (hProbed s hI)
  have hFlags :
      ∀ s, I s → J (openWithFlags ios2 s2flags env s) := by
    intro s hI
    unfold openWithFlags setMode
    dsimp only
    split
    · exact hFailed _ hI
    · split
      · exact hFailed _ (hBefore s _ _ hI)
      · exact hProbe _ (hBefore _ _ _ (hBefore s _ _ hI))
  have hCounted := hBefore s DeviceBase.libFlags
    (fun b => b.libOpenCnt + 1#16) hState
  unfold deviceOpen countOpen
  apply hAfter
  split
  · exact hFailed _ hCounted
  · split
    · exact hFlags _ hCounted
    · exact hFailed _ hCounted

namespace Conserved

variable {P : Policy} {held : List APTR} {s : Driver}
variable {ios2 : APTR}

theorem deviceOpen
    (hCon : s.Conserved P held)
    (hOwned : s.Owned ios2)
    (s2unit s2flags : ULONG)
    (env : OpenEnv)
    (hUnit : s.base.unit0 = false →
      ∀ head, ∀ r ∈ s.lists head, P.lost r)
    (hOpener : env.bm ≠ 0 →
      ∀ r ∈ s.lists (.bmRxQueue env.bm), P.lost r) :
    (deviceOpen ios2 s2unit s2flags env s).Conserved P
      held := by
  apply deviceOpen_rule
    (I := fun s => s.Conserved P held ∧ s.Owned ios2 ∧
      (s.base.unit0 = false →
        ∀ head, ∀ r ∈ s.lists head, P.lost r) ∧
      (env.bm ≠ 0 →
        ∀ r ∈ s.lists (.bmRxQueue env.bm), P.lost r))
  · rintro s flags count ⟨hCon, hRest⟩
    exact ⟨hCon.setBase _, hRest⟩
  · intro s count hCon
    exact hCon.setBase _
  · rintro s ⟨hCon, hRest⟩
    exact ⟨hCon.runNic _, hRest⟩
  · rintro s ⟨hCon, hOwned, hUnit, hOpener⟩
    refine ⟨hCon.initUnitProcess env hUnit, ?_, ?_, ?_⟩
    · rw [Owned, log_initUnitProcess]
      exact hOwned
    · intro hNoUnit
      have hSame := initUnitProcess_of_noUnit hNoUnit
      rw [hSame] at hNoUnit ⊢
      exact hUnit hNoUnit
    · rw [bmRxQueue_initUnitProcess]
      exact hOpener
  · rintro s ⟨hCon, hOwned, -⟩
    exact hCon.setReq_of_owned hOwned _
  · rintro s - hBm ⟨hCon, hOwned, -, hOpener⟩
    exact hCon.addOpener hOwned env (hOpener hBm)
  · exact ⟨hCon, hOwned, hUnit, hOpener⟩

------------------------------------------------------------
-- Closing and Expunging
------------------------------------------------------------

end Conserved

theorem resetModes_delExp (flags : UBYTE) :
    resetModes flags &&& libfDelExp = 0#8 := by
  unfold resetModes
  rw [BitVec.and_assoc, BitVec.and_assoc, BitVec.and_assoc]
  have hNone :
      ~~~(etherufExclusive.setWidth 8) &&&
        (~~~(etherufLoopback.setWidth 8) &&&
          (~~~(etherufPromisc.setWidth 8) &&& libfDelExp)) =
        0#8 := by
    decide
  rw [hNone, BitVec.and_zero]

theorem libFlags_expungeUnit (s : Driver) :
    (expungeUnit s).base.libFlags = s.base.libFlags := by
  unfold expungeUnit
  split <;> rfl

/- A close leaves loopback mode, and with it forgets that an
   expunge is pending. -/
theorem libFlags_closeUnit (ios2 : APTR) (s : Driver) :
    (closeUnit ios2 s).base.libFlags =
      resetModes (freeOpener ios2 s).base.libFlags := by
  unfold closeUnit
  dsimp only [setBase]
  split
  · exact libFlags_expungeUnit _
  · rfl

theorem deviceClose_eq
    (ios2 : APTR)
    (s : Driver) :
    deviceClose ios2 s =
      if (s.reqs ios2).ioDevice ≠ none ∧
          (s.reqs ios2).ioUnit ≠ none then
        (0, closeUnit ios2 s)
      else (0, s) := by
  unfold deviceClose delayedExpunge
  rw [libFlags_closeUnit, resetModes_delExp]
  simp

/- What a close preserves, part by part. -/
structure KeptByClose (ios2 : APTR) (I : Driver → Prop) :
    Prop where
  abortOne : ∀ s r, I s → I (s.abortOne r)
  erase : ∀ s bm, I s → I (s.setUnit (fun u =>
    { u with buffMgmt := u.buffMgmt.erase bm }))
  setReq : ∀ s f,
    (∀ req, (f req).ioCommand = req.ioCommand) →
      I s → I (s.setReq ios2 f)
  setBase : ∀ s (flags : DeviceBase → UBYTE)
    (count : DeviceBase → UWORD), I s →
      I (s.setBase (fun b =>
        { b with libFlags := flags b, libOpenCnt := count b }))
  countDown : ∀ s, I s → I (s.setUnit (fun u =>
    { u with unitOpenCnt := u.unitOpenCnt - 1#16 }))
  expungeUnit : ∀ s, I s → I (expungeUnit s)

namespace KeptByClose

variable {ios2 : APTR} {I : Driver → Prop} {s : Driver}

theorem abortLoop
    (hKept : KeptByClose ios2 I)
    (rs : List APTR)
    (hState : I s) :
    I (abortLoop rs s) := by
  induction rs generalizing s with
  | nil => exact hState
  | cons r rs ih => exact ih (hKept.abortOne s r hState)

theorem freeOpener
    (hKept : KeptByClose ios2 I)
    (hState : I s) :
    I (freeOpener ios2 s) := by
  have hAborted :
      I (s.abortReqList
        (.bmRxQueue (s.reqs ios2).bufferManagement)) :=
    hKept.abortLoop _ hState
  unfold KszDriver.freeOpener
  dsimp only
  split
  · split
    · exact hKept.setReq _ _ (fun _ => rfl)
        (hKept.erase _ _ hAborted)
    · exact hAborted
  · exact hState

theorem closeUnit
    (hKept : KeptByClose ios2 I)
    (hState : I s) :
    I (closeUnit ios2 s) := by
  have hReset := hKept.setBase _
    (fun b => resetModes b.libFlags) DeviceBase.libOpenCnt
    (hKept.freeOpener hState)
  have hCounted := hKept.countDown _ (hKept.setReq _
    (fun req => { req with ioDevice := none, ioUnit := none })
    (fun _ => rfl) hReset)
  unfold KszDriver.closeUnit
  dsimp only
  split
  · exact hKept.setBase _ DeviceBase.libFlags _
      (hKept.expungeUnit _ hCounted)
  · exact hKept.setBase _ DeviceBase.libFlags _ hCounted

theorem deviceClose
    (hKept : KeptByClose ios2 I)
    (hState : I s) :
    I (deviceClose ios2 s).2 := by
  rw [deviceClose_eq]
  split
  · exact hKept.closeUnit hState
  · exact hState

end KeptByClose

/- An expunge concerns the base alone. -/
theorem deviceExpunge_setBase (s : Driver) :
    (deviceExpunge s).2 =
      s.setBase (fun _ => (deviceExpunge s).2.base) := by
  unfold deviceExpunge
  dsimp only
  split
  · rfl
  · rfl

/- An abort ends a request that waits, or does nothing. -/
theorem deviceAbortIo_cases (ios2 : APTR) (s : Driver) :
    (deviceAbortIo ios2 s).2 = s ∨
      (∃ head, ios2 ∈ s.lists head) ∧
        (deviceAbortIo ios2 s).2 = s.abortOne ios2 := by
  unfold deviceAbortIo
  split
  · cases abortList (s.reqs ios2) with
    | none => exact Or.inl rfl
    | some head =>
        unfold abortRequestAndRemove
        dsimp only
        split
        · rename_i hMem
          exact Or.inr ⟨⟨head, hMem⟩, rfl⟩
        · exact Or.inl rfl
  · exact Or.inl rfl

namespace Conserved

variable {P : Policy} {held : List APTR} {s : Driver}
variable {ios2 : APTR}

theorem freeOpener
    (hCon : s.Conserved P held)
    (hOwned : s.Owned ios2) :
    (freeOpener ios2 s).Conserved P held := by
  unfold KszDriver.freeOpener
  apply ite
  · intro _
    have hAborted :=
      hCon.abortReqList
        (.bmRxQueue (s.reqs ios2).bufferManagement)
    apply ite
    · intro _
      apply setReq_of_owned (hAborted.setUnit _)
      intro hDue
      exact hOwned (outstanding_of_abortReqList hDue)
    · intro _
      exact hAborted
  · intro _
    exact hCon

end Conserved

/- What a close leaves of the history is about reads. -/
theorem owned_freeOpener
    {s : Driver}
    {ios2 other : APTR}
    (hOwned : s.Owned other) :
    (freeOpener ios2 s).Owned other := by
  have hAborted :
      (s.abortReqList (.bmRxQueue
        (s.reqs ios2).bufferManagement)).Owned other :=
    fun hDue => hOwned (outstanding_of_abortReqList hDue)
  unfold freeOpener
  dsimp only
  split
  · split
    · exact hAborted
    · exact hAborted
  · exact hOwned

namespace Conserved

variable {P : Policy} {held : List APTR} {s : Driver}
variable {ios2 : APTR}

theorem expungeUnit
    (hCon : s.Conserved P held) :
    (expungeUnit s).Conserved P held := by
  unfold KszDriver.expungeUnit
  exact ite
    (fun _ => ((hCon.setUnit _).runNic _).setBase _)
    (fun _ => hCon)

theorem deviceExpunge
    (hCon : s.Conserved P held) :
    (deviceExpunge s).2.Conserved P held := by
  rw [deviceExpunge_setBase]
  exact hCon.setBase _

theorem closeUnit
    (hCon : s.Conserved P held)
    (hOwned : s.Owned ios2) :
    (closeUnit ios2 s).Conserved P held := by
  have hFreed := hCon.freeOpener hOwned
  have hTrashed :=
    (hFreed.setBase (fun b =>
      { b with libFlags := resetModes b.libFlags
        })).setReq_of_owned (owned_freeOpener hOwned)
      (fun req =>
        { req with ioDevice := none, ioUnit := none })
  unfold KszDriver.closeUnit
  apply setBase
  exact ite (fun _ => (hTrashed.setUnit _).expungeUnit)
    (fun _ => hTrashed.setUnit _)

theorem deviceClose
    (hCon : s.Conserved P held)
    (hOwned : s.Owned ios2) :
    (deviceClose ios2 s).2.Conserved P held := by
  rw [deviceClose_eq]
  split
  · exact hCon.closeUnit hOwned
  · exact hCon

------------------------------------------------------------
-- Beginning and Aborting Requests
------------------------------------------------------------

theorem deviceBeginIo
    (hCon : s.Conserved P [])
    (hOwned : s.Owned ios2)
    (o : Outcome)
    (hAdmit :
      PerformedNow (s.reqs ios2).ioCommand →
        P.Admits s ios2)
    (hPort :
      ¬ PerformedNow (s.reqs ios2).ioCommand →
        P.place .unitMsgPort ios2 (s.reqs ios2).core.calm ∧
        P.waits ios2 (s.reqs ios2).core.calm) :
    (deviceBeginIo o ios2 s).Conserved P [] := by
  have hTaken := hCon.submit hOwned
  unfold KszDriver.deviceBeginIo
  apply ite
  · intro hNow
    have hAdmit' := hAdmit hNow
    exact hTaken.performIo o
      ⟨hAdmit'.write, hAdmit'.read, hAdmit'.orphan,
        hAdmit'.event⟩
  · intro hLater
    have hCalm :
        ({ s.reqs ios2 with
            lnType := ntMessage
            ioFlags :=
              (s.reqs ios2).ioFlags &&& ~~~iofQuick } :
            IOSana2Req).core =
          (s.reqs ios2).core.calm := by
      simp [IOSana2Req.core, IOSana2Req.Quick, Core.calm,
        calm_flags]
    have hCleared :=
      hTaken.setReq_calm
        (fun req =>
          { req with
            lnType := ntMessage
            ioFlags := req.ioFlags &&& ~~~iofQuick }) hCalm
    apply hCleared.putMsg
    rw [reqs_setReq, if_pos rfl, reqs_record, hCalm]
    exact hPort hLater

theorem deviceAbortIo
    (hCon : s.Conserved P held)
    (ios2 : APTR) :
    (deviceAbortIo ios2 s).2.Conserved P held := by
  rcases deviceAbortIo_cases ios2 s with
    hSame | ⟨⟨head, hMem⟩, hAborted⟩
  · rw [hSame]
    exact hCon
  · rw [hAborted]
    exact hCon.abortOne hMem

theorem serviceMsgPort
    (hCon : s.Conserved P held)
    (o : Outcome)
    (hAdmit : ∀ r ∈ s.lists .unitMsgPort, P.Admits s r) :
    (serviceMsgPort o s).Conserved P held := by
  unfold KszDriver.serviceMsgPort
  split
  · exact hCon
  · rename_i ios2 others hFirst
    have hMem : ios2 ∈ s.lists .unitMsgPort := by
      rw [hFirst]
      exact List.mem_cons_self
    have hAdmit' := hAdmit ios2 hMem
    exact (hCon.remove hMem).performIo o
      ⟨hAdmit'.write, hAdmit'.read, hAdmit'.orphan,
        hAdmit'.event⟩

end Conserved

end Driver

------------------------------------------------------------
-- Steps
------------------------------------------------------------

/- What the policy must say for a step to keep it. -/
def Policy.Meets (P : Policy) (s : Driver) : Op → Prop
| .openDevice _ _ _ env =>
    (s.base.unit0 = false →
      ∀ head, ∀ r ∈ s.lists head, P.lost r) ∧
    (env.bm ≠ 0 →
      ∀ r ∈ s.lists (.bmRxQueue env.bm), P.lost r)
| .beginIo ios2 _ =>
    (PerformedNow (s.reqs ios2).ioCommand →
      P.Admits s ios2) ∧
    (¬ PerformedNow (s.reqs ios2).ioCommand →
      P.place .unitMsgPort ios2 (s.reqs ios2).core.calm ∧
      P.waits ios2 (s.reqs ios2).core.calm)
| .serviceMsgPort _ =>
    ∀ r ∈ s.lists .unitMsgPort, P.Admits s r
| _ => True

namespace Driver

theorem Conserved.next
    {P : Policy}
    {s : Driver}
    {op : Op}
    (hCon : s.Conserved P [])
    (hAllowed : op.Allowed s)
    (hMeets : P.Meets s op) :
    (s.next op).Conserved P [] := by
  cases op with
  | openDevice ios2 s2unit s2flags env =>
      exact hCon.deviceOpen hAllowed.2.1 s2unit s2flags env
        hMeets.1 hMeets.2
  | close ios2 => exact hCon.deviceClose hAllowed.2.1
  | expunge => exact hCon.deviceExpunge
  | beginIo ios2 o =>
      exact hCon.deviceBeginIo hAllowed.2 o hMeets.1 hMeets.2
  | abortIo ios2 => exact hCon.deviceAbortIo ios2
  | serviceMsgPort o => exact hCon.serviceMsgPort o hMeets
  | pktReceived buffer size o =>
      exact hCon.onPktReceived o buffer size
  | doEvent events => exact hCon.doEvent events
  | configChanged addr => exact hCon.of_rest rfl rfl rfl
  | clientWrite ios2 req =>
      exact hCon.setReq_of_owned hAllowed (fun _ => req)
  | hardware regs => exact hCon.of_rest rfl rfl rfl

/- Nothing is submitted when the device has been loaded. -/
theorem Start.conserved
    {s : Driver}
    (hStart : s.Start)
    (P : Policy) :
    s.Conserved P [] := by
  rcases hStart with ⟨hLog, hLists, -⟩
  have hNone : ∀ head r, r ∉ s.lists head := by
    intro head r
    rw [hLists]
    exact List.not_mem_nil
  exact
    { once := fun head => by
        rw [hLists]
        exact List.nodup_nil
      apart := fun head _ r hMem => absurd hMem (hNone head r)
      heldOnce := List.nodup_nil
      heldApart := fun r hIn => absurd hIn List.not_mem_nil
      queued := fun head r hMem => absurd hMem (hNone head r)
      owed := fun r hIn => absurd hIn List.not_mem_nil
      pending := fun r hQueued => by
        rw [hLog] at hQueued
        exact hQueued.elim
      parked := fun r hDue => by
        rw [hLog] at hDue
        exact hDue.elim
      found := fun r hDue => by
        rw [hLog] at hDue
        exact hDue.elim
      balanced := by
        rw [hLog]
        trivial
      placed := fun head r hMem => absurd hMem (hNone head r)
      waiting := fun r hQueued => by
        rw [hLog] at hQueued
        exact hQueued.elim
      ended := by
        rw [hLog]
        trivial }

end Driver

end KszDriver
