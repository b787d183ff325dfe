import KszDriver.Device.ReadQueues

/-
  Requests that a step does not concern.  A step other than
  the reception of a packet changes no request but the one it
  works on and those that it terminates.

  Main declarations:
    * `Driver.Touches`
    * `touches_performIo`
    * `reqs_next`
-/

------------------------------------------------------------
-- Touching
------------------------------------------------------------

namespace KszDriver

namespace Driver

/-
  From `s` to `s'` nothing was submitted, and no request was
  changed but `ios2` and those that were terminated.
-/
def Touches (ios2 : APTR) (s s' : Driver) : Prop :=
  ∃ newer, GrowsBy newer s s' ∧
    (∀ r, .submitted r ∉ newer) ∧
    ∀ r, r ≠ ios2 → (∀ req, .terminated r req ∉ newer) →
      s'.reqs r = s.reqs r

namespace Touches

variable {s s' s'' : Driver} {ios2 : APTR}

/- The history and the other requests stay the same. -/
theorem of_same
    (hLog : s'.log = s.log)
    (hReqs : ∀ r, r ≠ ios2 → s'.reqs r = s.reqs r) :
    Touches ios2 s s' :=
  ⟨[], hLog, fun _ => List.not_mem_nil,
    fun r hOther _ => hReqs r hOther⟩

theorem refl : Touches ios2 s s :=
  of_same rfl (fun _ _ => rfl)

theorem trans
    (hFirst : Touches ios2 s s')
    (hSecond : Touches ios2 s' s'') :
    Touches ios2 s s'' := by
  rcases hFirst with ⟨older, hOlder, hTaken, hSame⟩
  rcases hSecond with ⟨newer, hNewer, hTaken', hSame'⟩
  refine ⟨newer ++ older, hOlder.trans hNewer, ?_, ?_⟩
  · intro r hMem
    rcases List.mem_append.mp hMem with hIn | hIn
    · exact hTaken' r hIn
    · exact hTaken r hIn
  · intro r hOther hNone
    rw [hSame' r hOther (fun req hIn =>
        hNone req (List.mem_append_left _ hIn)),
      hSame r hOther (fun req hIn =>
        hNone req (List.mem_append_right _ hIn))]

theorem ite
    {c : Prop} [Decidable c]
    {s₁ s₂ : Driver}
    (hThen : Touches ios2 s s₁)
    (hElse : Touches ios2 s s₂) :
    Touches ios2 s (if c then s₁ else s₂) := by
  by_cases hCond : c
  · rw [if_pos hCond]
    exact hThen
  · rw [if_neg hCond]
    exact hElse

theorem setReq
    (hTouches : Touches ios2 s s')
    (f : IOSana2Req → IOSana2Req) :
    Touches ios2 s (s'.setReq ios2 f) := by
  refine hTouches.trans (of_same (log_setReq _ _ _) ?_)
  intro r hOther
  rw [reqs_setReq, if_neg hOther]

/- An event is noted that submits nothing. -/
theorem noted
    (hTouches : Touches ios2 s s')
    (event : Event)
    (hEvent : ∀ r, event ≠ .submitted r)
    (hLog : s''.log = event :: s'.log)
    (hReqs : s''.reqs = s'.reqs) :
    Touches ios2 s s'' := by
  refine hTouches.trans ⟨[event], hLog, ?_, ?_⟩
  · intro r hMem
    exact hEvent r (List.mem_singleton.mp hMem).symm
  · intro r _ _
    rw [hReqs]

/- Whatever is done to a request that is then terminated. -/
theorem ended
    {r : APTR}
    (hTouches : Touches r s s') :
    Touches ios2 s (s'.termIo r) := by
  rcases hTouches with ⟨newer, hGrows, hTaken, hSame⟩
  refine ⟨.terminated r (s'.reqs r) :: newer, ?_, ?_, ?_⟩
  · unfold GrowsBy at hGrows ⊢
    rw [log_termIo, hGrows]
    rfl
  · intro r' hMem
    rcases List.mem_cons.mp hMem with hHead | hIn
    · cases hHead
    · exact hTaken r' hIn
  · intro r' hOther hNone
    have hDiffers : r' ≠ r := by
      rintro rfl
      exact hNone _ List.mem_cons_self
    rw [reqs_termIo_of_ne _ _ _ hDiffers]
    exact hSame r' hDiffers (fun req hIn =>
      hNone req (List.mem_cons_of_mem _ hIn))

theorem termIo
    (hTouches : Touches ios2 s s')
    (r : APTR) :
    Touches ios2 s (s'.termIo r) :=
  hTouches.trans (ended refl)

end Touches

------------------------------------------------------------
-- Loops
------------------------------------------------------------

section Loops

variable {ios2 : APTR} (s : Driver)

theorem touches_remove (r : APTR) :
    Touches ios2 s (s.remove r) :=
  Touches.of_same (log_remove s r) (fun _ _ => rfl)

theorem touches_retire
    (r : APTR)
    (f : IOSana2Req → IOSana2Req) :
    Touches ios2 s (s.retire r f) :=
  ((touches_remove s r).setReq f).ended

theorem touches_abortOne (r : APTR) :
    Touches ios2 s (s.abortOne r) := by
  rw [abortOne_eq_retire]
  exact touches_retire s r _

theorem touches_doEventLoop
    (events : ULONG) (rs : List APTR) :
    Touches ios2 s (doEventLoop events rs s) := by
  induction rs generalizing s with
  | nil => exact Touches.refl
  | cons r rs ih =>
      have hMarked : Touches r s
          ((s.setErrorOnRequest r 0 events).remove r) :=
        (Touches.refl.setReq _).trans (touches_remove _ r)
      exact Touches.ite (hMarked.ended.trans (ih _)) (ih s)

theorem touches_doEvent (events : ULONG) :
    Touches ios2 s (s.doEvent events) := by
  have hFired : Touches ios2 s (s.record (.fired events)) :=
    Touches.refl.noted (.fired events) (by simp) rfl rfl
  exact hFired.trans (touches_doEventLoop _ events _)

theorem touches_runNic {α : Type} (p : NicM α) :
    Touches ios2 s (s.runNic p) :=
  Touches.of_same rfl (fun _ _ => rfl)

theorem touches_setUnit
    (f : DeviceDriverUnit → DeviceDriverUnit) :
    Touches ios2 s (s.setUnit f) :=
  Touches.of_same rfl (fun _ _ => rfl)

theorem touches_setBase (f : DeviceBase → DeviceBase) :
    Touches ios2 s (s.setBase f) :=
  Touches.of_same rfl (fun _ _ => rfl)

theorem touches_setQuery
    (query : APTR)
    (f : Sana2DeviceQuery → Sana2DeviceQuery) :
    Touches ios2 s (s.setQuery query f) :=
  Touches.of_same rfl (fun _ _ => rfl)

theorem touches_copyFromBuffer
    (o : Outcome) (r : APTR) (offset : Nat) :
    Touches ios2 s (s.copyFromBuffer o r offset) :=
  Touches.refl.noted (.copiedFromBuffer r _) (by simp) rfl rfl

theorem touches_runSend (r : APTR) (p : NicM ErrorT) :
    Touches ios2 s (s.runSend r p) :=
  Touches.refl.noted (.sent r _) (by simp) rfl rfl

theorem touches_addTail (head : ListHead) (r : APTR) :
    Touches ios2 s (s.addTail head r) :=
  Touches.refl.noted (.queued r head) (by simp) rfl rfl

end Loops

end Driver

open Driver

------------------------------------------------------------
-- Sending
------------------------------------------------------------

section Handlers

variable (o : Outcome) (ios2 : APTR) (s : Driver)

theorem touches_sendRaw :
    Touches ios2 s (sendRaw o ios2 s) := by
  have hCopied : Touches ios2 s (s.copyFromBuffer o ios2 0) :=
    touches_copyFromBuffer s o ios2 0
  exact Touches.ite
    (Touches.ite (hCopied.trans (touches_runSend _ ios2 _))
      (hCopied.setReq _))
    (Touches.refl.setReq _)

theorem touches_sendCopied :
    Touches ios2 s (sendCopied o ios2 s) := by
  have hStored : Touches ios2 s (storeHeader ios2 s) :=
    Touches.of_same rfl (fun _ _ => rfl)
  have hCopied :=
    hStored.trans
      (touches_copyFromBuffer _ o ios2 etherPacketHeadSize)
  exact Touches.ite (hCopied.trans (touches_runSend _ ios2 _))
    (hCopied.setReq _)

theorem touches_sendCooked :
    Touches ios2 s (sendCooked o ios2 s) := by
  unfold sendCooked
  apply Touches.ite
  · cases dmaPacketBuffer o ios2 s with
    | some packet => exact touches_runSend s ios2 _
    | none => exact touches_sendCopied o ios2 s
  · exact Touches.refl.setReq _

/- A request that was sent is terminated. -/
theorem touches_sendOne (r : APTR) :
    Touches ios2 s (sendOne o r s) := by
  have hSent :
      Touches r s (if (s.reqs r).Raw then sendRaw o r s
        else sendCooked o r s) :=
    Touches.ite (touches_sendRaw o r s)
      (touches_sendCooked o r s)
  exact Touches.ended (Touches.ite
    (hSent.trans (touches_doEvent _ s2eventBuff)) hSent)

------------------------------------------------------------
-- Performing
------------------------------------------------------------

/- Every act on the request spares the others. -/
theorem touches_act
    {waiting : List APTR}
    {s s' : Driver}
    (hAct : Act o ios2 waiting s s') :
    Touches ios2 s s' := by
  cases hAct with
  | setReq f hCommand => exact Touches.refl.setReq f
  | setUnit f hSparing => exact touches_setUnit s f
  | runNic p => exact touches_runNic s p
  | setQuery query f => exact touches_setQuery s query f
  | queues head hPort hEvents =>
      exact touches_addTail s head ios2
  | sends r hWaits =>
      exact (touches_remove s r).trans
        (touches_sendOne o ios2 _ r)
  | aborts r => exact touches_abortOne s r
  | fires events hKnown => exact touches_doEvent s events
  | ends => exact Touches.refl.termIo ios2

theorem touches_performIo :
    Touches ios2 s (performIo o ios2 s) :=
  performIo_rule Touches.refl
    (fun _ _ hAct hTouches =>
      hTouches.trans (touches_act o ios2 hAct))

------------------------------------------------------------
-- Entry Points
------------------------------------------------------------

theorem touches_addOpener (env : OpenEnv) :
    Touches ios2 s (addOpener ios2 env s) := by
  have hOthers :
      ∀ r, r ≠ ios2 →
        (addOpener ios2 env s).reqs r = s.reqs r := by
    intro r hOther
    unfold addOpener
    rw [reqs_setReq, if_neg hOther]
    rfl
  exact Touches.of_same rfl hOthers

theorem touches_initUnitProcess (env : OpenEnv) :
    Touches ios2 s (initUnitProcess env s) :=
  Touches.ite Touches.refl
    (Touches.ite (Touches.of_same rfl (fun _ _ => rfl))
      Touches.refl)

theorem touches_deviceOpen
    (s2unit s2flags : ULONG) (env : OpenEnv) :
    Touches ios2 s (deviceOpen ios2 s2unit s2flags env s) := by
  apply deviceOpen_rule
    (I := Touches ios2 s) (J := Touches ios2 s)
  · intro s' flags count hTouches
    exact hTouches.trans (touches_setBase _ _)
  · intro s' count hTouches
    exact hTouches.trans (touches_setBase _ _)
  · intro s' hTouches
    exact hTouches.trans (touches_runNic _ _)
  · intro s' hTouches
    exact hTouches.trans (touches_initUnitProcess ios2 _ env)
  · intro s' hTouches
    exact hTouches.setReq _
  · intro s' _ _ hTouches
    exact hTouches.trans (touches_addOpener ios2 _ env)
  · exact Touches.refl

theorem touches_expungeUnit :
    Touches ios2 s (expungeUnit s) :=
  Touches.ite
    (((touches_setUnit s _).trans (touches_runNic _ _)).trans
      (touches_setBase _ _))
    Touches.refl

theorem touches_deviceClose :
    Touches ios2 s (deviceClose ios2 s).2 := by
  have hKept : KeptByClose ios2 (Touches ios2 s) :=
    { abortOne := fun s' r hTouches =>
        hTouches.trans (touches_abortOne s' r)
      erase := fun s' _ hTouches =>
        hTouches.trans (touches_setUnit s' _)
      setReq := fun _ f _ hTouches => hTouches.setReq f
      setBase := fun s' _ _ hTouches =>
        hTouches.trans (touches_setBase s' _)
      countDown := fun s' hTouches =>
        hTouches.trans (touches_setUnit s' _)
      expungeUnit := fun s' hTouches =>
        hTouches.trans (touches_expungeUnit ios2 s') }
  exact hKept.deviceClose Touches.refl

theorem touches_deviceAbortIo (other : APTR) :
    Touches other s (deviceAbortIo ios2 s).2 := by
  rcases deviceAbortIo_cases ios2 s with
    hSame | ⟨-, hAborted⟩
  · rw [hSame]
    exact Touches.refl
  · rw [hAborted]
    exact touches_abortOne s ios2

theorem touches_deviceBeginIo :
    Touches ios2 (s.record (.submitted ios2))
      (deviceBeginIo o ios2 s) :=
  Touches.ite (touches_performIo o ios2 _)
    (((Touches.refl.setReq _).setReq _).trans
      (touches_addTail _ .unitMsgPort ios2))

end Handlers

------------------------------------------------------------
-- Steps
------------------------------------------------------------

section Steps

variable {s s' : Driver} {ios2 r : APTR}

/- Who is still outstanding has not been terminated, and so
   has not been changed. -/
theorem Driver.Touches.reqs_of_outstanding
    (hTouches : Touches ios2 s s')
    (hOther : r ≠ ios2)
    (hDue : Outstanding r s'.log) :
    s'.reqs r = s.reqs r := by
  rcases hTouches with ⟨newer, hGrows, hTaken, hSame⟩
  apply hSame r hOther
  intro req hMem
  rcases List.append_of_mem hMem with ⟨later, earlier, rfl⟩
  unfold GrowsBy at hGrows
  rw [hGrows, List.append_assoc, List.cons_append] at hDue
  refine not_outstanding_of_terminated ?_ hDue
  exact fun hIn => hTaken r (List.mem_append_left _ hIn)

/- A request that waits and goes on waiting is as it was,
   unless a packet was received. -/
theorem reqs_next
    {op : Op}
    {head : ListHead}
    (hWaits : s.Waits)
    (hAllowed : op.Allowed s)
    (hNoPacket : ∀ buffer size o,
      op ≠ .pktReceived buffer size o)
    (hMem : r ∈ s.lists head)
    (hHead : head ≠ .unitMsgPort)
    (hDue : Outstanding r (s.next op).log) :
    (s.next op).reqs r = s.reqs r := by
  have hOut := hWaits.conserved.outstanding hMem
  have hOther {ios2 : APTR} (hOwned : s.Owned ios2) :
      r ≠ ios2 := by
    rintro rfl
    exact hOwned hOut
  cases op with
  | openDevice ios2 s2unit s2flags env =>
      exact (touches_deviceOpen ios2 s s2unit s2flags
        env).reqs_of_outstanding (hOther hAllowed.2.1) hDue
  | close ios2 =>
      exact (touches_deviceClose ios2 s).reqs_of_outstanding
        (hOther hAllowed.2.1) hDue
  | expunge =>
      show (deviceExpunge s).2.reqs r = s.reqs r
      rw [deviceExpunge_setBase]
      rfl
  | beginIo ios2 o =>
      exact (touches_deviceBeginIo o ios2
        s).reqs_of_outstanding (hOther hAllowed.2) hDue
  | abortIo ios2 =>
      exact (touches_deviceAbortIo ios2 s
        (r + 1)).reqs_of_outstanding
          (Nat.succ_ne_self r).symm hDue
  | serviceMsgPort o =>
      unfold Driver.next serviceMsgPort at hDue ⊢
      cases hPort : s.lists .unitMsgPort with
      | nil => rfl
      | cons ios2 others =>
          rw [hPort] at hDue
          have hFirst : ios2 ∈ s.lists .unitMsgPort := by
            rw [hPort]
            exact List.mem_cons_self
          refine ((touches_remove s ios2).trans
            (touches_performIo o ios2 _)).reqs_of_outstanding
              ?_ hDue
          rintro rfl
          exact hHead
            (hWaits.orderly.apart _ _ r hMem hFirst)
  | pktReceived buffer size o =>
      exact absurd rfl (hNoPacket buffer size o)
  | doEvent events =>
      have hTouches : Touches (r + 1) s (s.doEvent events) :=
        touches_doEvent s events
      exact hTouches.reqs_of_outstanding
        (Nat.succ_ne_self r).symm hDue
  | configChanged addr => rfl
  | clientWrite ios2 req =>
      exact (Touches.refl.setReq _).reqs_of_outstanding
        (hOther hAllowed) hDue
  | hardware regs => rfl

end Steps

end KszDriver
