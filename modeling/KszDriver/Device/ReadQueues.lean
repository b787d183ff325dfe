import KszDriver.Core.Turns
import KszDriver.Device.Dispatch
import KszDriver.Device.QueueSteps

/-
  The read queues of the openers from step to step: who has
  been terminated leaves, a read that is submitted is put
  behind, and the others stay in their order.

  Main declarations:
    * `listed_of_reach`
    * `followPolicy`
    * `Driver.submitting`, `readQueue_next`
    * `opensQueue_deviceOpen`
-/

------------------------------------------------------------
-- Openers
------------------------------------------------------------

namespace KszDriver

open Driver

/- No opener is listed twice, and none at address zero. -/
structure Driver.Listed (s : Driver) : Prop where
  nodup : s.unit.buffMgmt.Nodup
  nonNull : (0 : APTR) ∉ s.unit.buffMgmt

section Openers

variable {s s' : Driver} {ios2 : APTR}

theorem Driver.Listed.congr
    (hListed : s.Listed)
    (hBuffMgmt : s'.unit.buffMgmt = s.unit.buffMgmt) :
    s'.Listed where
  nodup := hBuffMgmt ▸ hListed.nodup
  nonNull := hBuffMgmt ▸ hListed.nonNull

/- A new unit has no openers. -/
theorem buffMgmt_initUnitProcess_cases
    (env : OpenEnv) (s : Driver) :
    (initUnitProcess env s).unit.buffMgmt =
        s.unit.buffMgmt ∨
      (initUnitProcess env s).unit.buffMgmt = [] := by
  unfold KszDriver.initUnitProcess
  split
  · exact Or.inl rfl
  · split
    · exact Or.inr rfl
    · exact Or.inl rfl

theorem Driver.Listed.initUnitProcess
    (hListed : s.Listed)
    (env : OpenEnv) :
    (initUnitProcess env s).Listed := by
  rcases buffMgmt_initUnitProcess_cases env s with hSame | hNone
  · exact hListed.congr hSame
  · exact
      { nodup := by
          rw [hNone]
          exact List.nodup_nil
        nonNull := by
          rw [hNone]
          exact List.not_mem_nil }

theorem Driver.Listed.addOpener
    {env : OpenEnv}
    (hListed : s.Listed)
    (hNonNull : env.bm ≠ 0)
    (hNew : env.bm ∉ s.unit.buffMgmt) :
    (addOpener ios2 env s).Listed where
  nodup := by
    refine List.nodup_append.mpr
      ⟨hListed.nodup, by simp, ?_⟩
    rintro b hIn b' hIn' rfl
    rw [List.mem_singleton] at hIn'
    exact hNew (hIn' ▸ hIn)
  nonNull := by
    intro hIn
    rcases List.mem_append.mp hIn with hOld | hLast
    · exact hListed.nonNull hOld
    · exact hNonNull (List.mem_singleton.mp hLast).symm

theorem Driver.Listed.deviceOpen
    {env : OpenEnv}
    (ios2 : APTR)
    (s2unit s2flags : ULONG)
    (hListed : s.Listed)
    (hNew : env.bm ≠ 0 → env.bm ∉ s.unit.buffMgmt) :
    (deviceOpen ios2 s2unit s2flags env s).Listed := by
  apply deviceOpen_rule
    (I := fun s' => s'.Listed ∧
      (env.bm ≠ 0 → env.bm ∉ s'.unit.buffMgmt))
    (J := Driver.Listed)
  · rintro s' flags count ⟨hState, hFresh⟩
    exact ⟨hState.congr rfl, hFresh⟩
  · intro s' count hState
    exact hState.congr rfl
  · rintro s' ⟨hState, hFresh⟩
    exact ⟨hState.congr rfl, hFresh⟩
  · rintro s' ⟨hState, hFresh⟩
    refine ⟨hState.initUnitProcess env, ?_⟩
    rcases buffMgmt_initUnitProcess_cases env s' with
      hSame | hNone
    · rw [hSame]
      exact hFresh
    · rw [hNone]
      exact fun _ => List.not_mem_nil
  · rintro s' ⟨hState, -⟩
    exact hState.congr rfl
  · rintro s' - hNonNull ⟨hState, hFresh⟩
    exact hState.addOpener hNonNull (hFresh hNonNull)
  · exact ⟨hListed, hNew⟩

theorem Driver.Listed.closed
    (hListed : s.Listed)
    (hHandle : s.OpenHandle ios2) :
    Closed ios2 s (deviceClose ios2 s).2 :=
  closed_of_openHandle hListed.nonNull hHandle

theorem Driver.Listed.next
    {op : Op}
    (hListed : s.Listed)
    (hAllowed : op.Allowed s) :
    (s.next op).Listed := by
  cases op with
  | openDevice ios2 s2unit s2flags env =>
      exact hListed.deviceOpen ios2 s2unit s2flags
        hAllowed.2.2
  | close ios2 =>
      rcases hAllowed.2.2 with hNone | hHandle
      · rw [← deviceClose_of_unit_none hNone] at hListed
        exact hListed
      · have hErased := (hListed.closed hHandle).buffMgmt
        exact
          { nodup := by
              show (deviceClose ios2 s).2.unit.buffMgmt.Nodup
              rw [hErased]
              exact hListed.nodup.erase _
            nonNull := by
              show _ ∉ (deviceClose ios2 s).2.unit.buffMgmt
              rw [hErased]
              exact fun hIn => hListed.nonNull
                (List.mem_of_mem_erase hIn) }
  | expunge =>
      exact hListed.congr (congrArg DeviceDriverUnit.buffMgmt
        (unit_deviceExpunge s))
  | serviceMsgPort o =>
      exact hListed.congr (serves_serviceMsgPort o s).buffMgmt
  | _ =>
      exact hListed.congr
        (steady_next s (by simp) (by simp) (by simp)
          (by simp)).buffMgmt

theorem listed_of_reach
    (hReach : deviceMachine.Reach Machine.Free s) :
    s.Listed := by
  apply hReach.invariant
  · intro s hStart
    have hNone := hStart.2.2.1
    exact
      { nodup := by
          rw [hNone]
          exact List.nodup_nil
        nonNull := by
          rw [hNone]
          exact List.not_mem_nil }
  · intro s op hAllowed _ hListed
    exact hListed.next hAllowed

/- Who waits in a read queue has the buffer management of its
   opener. -/
theorem bufferManagement_of_queued
    {bm r : APTR}
    (hOrderly : s.Orderly)
    (hMem : r ∈ s.lists (.bmRxQueue bm)) :
    (s.reqs r).bufferManagement = bm :=
  (hOrderly.isFor _ r hMem).2

end Openers

------------------------------------------------------------
-- Following One Request
------------------------------------------------------------

/- The request `r` is not lost, and is only ever put into
   these lists. -/
def followPolicy (r : APTR) (places : ListHead → Prop) :
    Policy where
  place := fun head r' _ => r' = r → places head
  waits := fun _ _ => True
  lost := fun r' => r' ≠ r
  waits_calm := fun _ _ _ => trivial

section Following

variable {s : Driver} {r : APTR} {places : ListHead → Prop}

/- The policy may turn to a request that is in one of the
   lists, or in the hands of its owner. -/
theorem Driver.Conserved.follow
    {P : Policy}
    (hCon : s.Conserved P [])
    (hPlaces : ∀ head, r ∈ s.lists head → places head)
    (hThere : s.Owned r ∨ ∃ head, r ∈ s.lists head) :
    s.Conserved (followPolicy r places) [] :=
  { hCon with
    found := by
      intro r' hDue
      by_cases hSame : r' = r
      · subst hSame
        rcases hThere with hOwned | hIn
        · exact absurd hDue hOwned
        · exact Or.inr (Or.inr hIn)
      · exact Or.inl hSame
    placed := by
      rintro head r' hMem rfl
      exact hPlaces head hMem
    waiting := fun _ _ => trivial
    ended := hCon.ended.mono (fun _ _ _ => trivial) }

/- Any other request is admitted everywhere. -/
theorem followPolicy_admits_other
    {ios2 : APTR}
    (hOther : ios2 ≠ r) :
    (followPolicy r places).Admits s ios2 where
  write := fun _ _ _ => trivial
  read := fun _ _ _ =>
    ⟨fun hSame => absurd hSame hOther, trivial⟩
  orphan := fun _ _ =>
    ⟨fun hSame => absurd hSame hOther, trivial⟩
  event := fun _ =>
    ⟨fun hSame => absurd hSame hOther, trivial⟩

/- A step that opens nothing keeps sight of a request that
   waits in a read queue. -/
theorem followPolicy_meets
    {bm : APTR}
    {op : Op}
    (hCon : s.Conserved custodyPolicy [])
    (hMem : r ∈ s.lists (.bmRxQueue bm))
    (hAllowed : op.Allowed s)
    (hOpen : ∀ ios2 s2unit s2flags env,
      op ≠ .openDevice ios2 s2unit s2flags env) :
    (followPolicy r places).Meets s op := by
  cases op with
  | openDevice ios2 s2unit s2flags env =>
      exact absurd rfl (hOpen ios2 s2unit s2flags env)
  | beginIo ios2 o =>
      have hOther : ios2 ≠ r := by
        rintro rfl
        exact hAllowed.2 (hCon.outstanding hMem)
      exact ⟨fun _ => followPolicy_admits_other hOther,
        fun _ => ⟨fun hSame => absurd hSame hOther, trivial⟩⟩
  | serviceMsgPort o =>
      intro ios2 hPort
      apply followPolicy_admits_other
      rintro rfl
      have hHead := hCon.apart _ _ ios2 hPort hMem
      cases hHead
  | _ => trivial

/- Who waits in a read queue is in it after the step if and
   only if it has not been terminated. -/
theorem mem_readQueue_next_iff
    {bm : APTR}
    {op : Op}
    (hCon : s.Conserved custodyPolicy [])
    (hMem : r ∈ s.lists (.bmRxQueue bm))
    (hAllowed : op.Allowed s)
    (hOpen : ∀ ios2 s2unit s2flags env,
      op ≠ .openDevice ios2 s2unit s2flags env) :
    r ∈ (s.next op).lists (.bmRxQueue bm) ↔
      Outstanding r (s.next op).log := by
  have hFollowed :
      s.Conserved (followPolicy r (· = .bmRxQueue bm)) [] :=
    hCon.follow
      (fun head hIn => hCon.apart _ _ r hIn hMem)
      (Or.inr ⟨_, hMem⟩)
  have hNext := hFollowed.next hAllowed
    (followPolicy_meets hCon hMem hAllowed hOpen)
  constructor
  · exact hNext.outstanding
  · intro hDue
    rcases hNext.found r hDue with hLost | hHeld | ⟨head, hIn⟩
    · exact absurd rfl hLost
    · exact absurd hHeld List.not_mem_nil
    · have hHead : head = .bmRxQueue bm :=
        hNext.placed head r hIn rfl
      exact hHead ▸ hIn

/- Only what the unit process performs waits in its port. -/
def portPolicy : Policy where
  place := fun head _ c =>
    head = .unitMsgPort → ¬ PerformedNow c.ioCommand
  waits := fun _ _ => True
  lost := fun _ => True
  waits_calm := fun _ _ _ => trivial

theorem portPolicy_admits (s : Driver) (ios2 : APTR) :
    portPolicy.Admits s ios2 where
  write := fun _ _ _ => trivial
  read := fun _ _ _ => ⟨nofun, trivial⟩
  orphan := fun _ _ => ⟨nofun, trivial⟩
  event := fun _ => ⟨nofun, trivial⟩

theorem portPolicy_meets (s : Driver) (op : Op) :
    portPolicy.Meets s op := by
  cases op with
  | openDevice ios2 s2unit s2flags env =>
      exact ⟨fun _ _ _ _ => trivial, fun _ _ _ => trivial⟩
  | beginIo ios2 o =>
      exact ⟨fun _ => portPolicy_admits s ios2,
        fun hLater => ⟨fun _ => hLater, trivial⟩⟩
  | serviceMsgPort o =>
      exact fun r _ => portPolicy_admits s r
  | _ => trivial

theorem notPerformedNow_of_port
    (hReach : deviceMachine.Reach Machine.Free s)
    (hMem : r ∈ s.lists .unitMsgPort) :
    ¬ PerformedNow (s.reqs r).ioCommand := by
  have hCon : s.Conserved portPolicy [] :=
    hReach.invariant
      (fun _ hStart => Driver.Start.conserved hStart portPolicy)
      (fun s op hAllowed _ hCon =>
        hCon.next hAllowed (portPolicy_meets s op))
  exact hCon.placed _ r hMem rfl

/- Whoever is in this queue was in it before. -/
def queuePolicy (bm : APTR) (old : List APTR) : Policy where
  place := fun head r _ => head = .bmRxQueue bm → r ∈ old
  waits := fun _ _ => True
  lost := fun _ => True
  waits_calm := fun _ _ _ => trivial

/- A request that is no read of this opener is admitted. -/
theorem queuePolicy_admits
    {bm ios2 : APTR}
    (old : List APTR)
    (hOther : (s.reqs ios2).ioCommand = cmdRead →
      (s.reqs ios2).bufferManagement ≠ bm) :
    (queuePolicy bm old).Admits s ios2 where
  write := fun _ _ _ => trivial
  read := by
    intro hRead _ _
    refine ⟨?_, trivial⟩
    intro hHead
    cases hHead
    exact absurd rfl (hOther hRead)
  orphan := fun _ _ => ⟨nofun, trivial⟩
  event := fun _ => ⟨nofun, trivial⟩

end Following

------------------------------------------------------------
-- One Queue
------------------------------------------------------------

/- The reads of this opener that the step submits. -/
def Driver.submitting (s : Driver) (bm : APTR) :
    Op → List APTR
| .beginIo ios2 _ =>
    if (s.reqs ios2).ioCommand = cmdRead ∧
        (s.reqs ios2).bufferManagement = bm then [ios2]
    else []
| _ => []

section Queue

variable {s s' : Driver} {bm ios2 : APTR}

theorem queuePolicy_meets
    {op : Op}
    (old : List APTR)
    (hReach : deviceMachine.Reach Machine.Free s)
    (hNone : s.submitting bm op = []) :
    (queuePolicy bm old).Meets s op := by
  cases op with
  | openDevice ios2 s2unit s2flags env =>
      exact ⟨fun _ _ _ _ => trivial, fun _ _ _ => trivial⟩
  | beginIo ios2 o =>
      refine ⟨fun _ => queuePolicy_admits old ?_,
        fun _ => ⟨nofun, trivial⟩⟩
      intro hRead hOwn
      simp [Driver.submitting, hRead, hOwn] at hNone
  | serviceMsgPort o =>
      intro r hPort
      apply queuePolicy_admits old
      intro hRead
      have hLater := notPerformedNow_of_port hReach hPort
      rw [hRead] at hLater
      exact absurd (by decide) hLater
  | _ => trivial

/- No step but the submission of a read puts a request into
   the queue. -/
theorem mem_of_mem_readQueue_next
    {op : Op}
    {r : APTR}
    (hReach : deviceMachine.Reach Machine.Free s)
    (hAllowed : op.Allowed s)
    (hNone : s.submitting bm op = [])
    (hMem : r ∈ (s.next op).lists (.bmRxQueue bm)) :
    r ∈ s.lists (.bmRxQueue bm) := by
  have hCon := conserved_of_reach hReach
  have hNow :
      s.Conserved
        (queuePolicy bm (s.lists (.bmRxQueue bm))) [] :=
    { hCon with
      found := fun _ _ => Or.inl trivial
      placed := by
        rintro head r hIn rfl
        exact hIn
      waiting := fun _ _ => trivial
      ended := hCon.ended.mono (fun _ _ _ => trivial) }
  have hNext := hNow.next hAllowed
    (queuePolicy_meets _ hReach hNone)
  exact hNext.placed _ r hMem rfl

/- A handler leaves the order of a list, unless it puts its
   own request there. -/
theorem Driver.Performs.sublist
    {head : ListHead}
    (hPerforms : Performs ios2 s s')
    (hNotIn : ios2 ∉ s'.lists head) :
    (s'.lists head).Sublist (s.lists head) := by
  cases hPerforms with
  | ends hThins => exact hThins.lists head
  | waits head' hJoins =>
      rw [hJoins.lists, lists_addTail] at hNotIn ⊢
      split at hNotIn
      · simp at hNotIn
      · rename_i hOther
        rw [if_neg hOther]
  | configures mid hThins hOwn hUnit hDone =>
      rw [hDone, lists_termIo]
      exact hThins.lists head

/- So do all steps that do not submit a read. -/
theorem readQueue_next_sublist
    {op : Op}
    (hReach : deviceMachine.Reach Machine.Free s)
    (hAllowed : op.Allowed s)
    (hNone : s.submitting bm op = []) :
    ((s.next op).lists (.bmRxQueue bm)).Sublist
      (s.lists (.bmRxQueue bm)) := by
  have hWaits := waits_of_reach hReach
  have hOld (r : APTR) :=
    mem_of_mem_readQueue_next (r := r) hReach hAllowed hNone
  cases op with
  | beginIo ios2 o =>
      have hHold := hWaits.holding hAllowed.2
      have hNotIn := fun hMem =>
        hHold.free _ (hOld ios2 hMem)
      have hTaken := thins_submitted (s := s) ios2
      by_cases hNow : PerformedNow (s.reqs ios2).ioCommand
      · have hNext :
            s.next (.beginIo ios2 o) =
              performIo o ios2 (s.record (.submitted ios2)) :=
          if_pos hNow
        rw [hNext] at hNotIn ⊢
        have hPerforms := (hHold.thins hTaken).performIo o (by
          intro hEvent
          rw [reqs_record] at hEvent
          rw [hEvent] at hNow
          exact absurd hNow (by decide))
        exact (hPerforms.sublist hNotIn).trans
          (List.Sublist.refl _)
      · have hNext :
            s.next (.beginIo ios2 o) =
              ((s.record (.submitted ios2)).setReq ios2
                (fun req =>
                  { req with
                    lnType := ntMessage
                    ioFlags := req.ioFlags &&& ~~~iofQuick
                    })).putMsg .unitMsgPort ios2 :=
          if_neg hNow
        rw [hNext]
        exact List.Sublist.refl _
  | serviceMsgPort o =>
      unfold Driver.next serviceMsgPort at hOld ⊢
      cases hPort : s.lists .unitMsgPort with
      | nil => exact List.Sublist.refl _
      | cons ios2 others =>
          rw [hPort] at hOld
          have hMem : ios2 ∈ s.lists .unitMsgPort := by
            rw [hPort]
            exact List.mem_cons_self
          have hNotIn := fun hNew => hWaits.orderly.apart
            (.bmRxQueue bm) _ ios2 (hOld ios2 hNew) hMem
          have hPerforms :=
            (hWaits.orderly.remove ios2).performIo o
              (fun _ => hWaits.orderly.pending _ ios2 hMem)
          refine (hPerforms.sublist ?_).trans
            List.erase_sublist
          intro hNew
          cases hNotIn hNew
  | openDevice ios2 s2unit s2flags env =>
      exact (thins_deviceOpen
        (hWaits.holding hAllowed.2.1).free s2unit s2flags
          env).lists _
  | close ios2 =>
      exact (hWaits.holding hAllowed.2.1).deviceClose.lists _
  | expunge => exact thins_deviceExpunge.lists _
  | abortIo ios2 =>
      exact (hWaits.orderly.deviceAbortIo ios2).lists _
  | pktReceived buffer size o =>
      exact (hWaits.orderly.onPktReceived o buffer
        size).lists _
  | doEvent events =>
      exact (hWaits.orderly.doEvent events).lists _
  | configChanged addr => exact List.Sublist.refl _
  | clientWrite ios2 req => exact List.Sublist.refl _
  | hardware regs => exact List.Sublist.refl _

/- Where the request ends, all others that were outstanding
   are so still. -/
theorem filter_outstanding_ended
    {req : IOSana2Req}
    {rs : List APTR}
    {log : List Event}
    (hDue : ∀ r ∈ rs, r ≠ ios2 ∧ Outstanding r log) :
    (rs ++ [ios2]).filter (fun r =>
        decide (Outstanding r
          (.terminated ios2 req :: .submitted ios2 :: log))) =
      rs := by
  have hEnded :
      ¬ Outstanding ios2
        (.terminated ios2 req :: .submitted ios2 :: log) :=
    fun hOut => hOut.1 rfl
  have hOthers :
      rs.filter (fun r =>
        decide (Outstanding r
          (.terminated ios2 req :: .submitted ios2 :: log))) =
        rs := by
    apply List.filter_eq_self.mpr
    intro r hMem
    apply decide_eq_true
    exact ⟨Ne.symm (hDue r hMem).1, Or.inr (hDue r hMem).2⟩
  rw [List.filter_append, hOthers,
    List.filter_cons_of_neg (by simpa using hEnded)]
  exact List.append_nil rs

/- A read is performed by the task that submits it. -/
theorem deviceBeginIo_cmdRead
    (o : Outcome)
    (hRead : (s.reqs ios2).ioCommand = cmdRead) :
    deviceBeginIo o ios2 s =
      devCmdReadPacket ios2
        ((s.record (.submitted ios2)).resetError ios2) := by
  have hNow : PerformedNow (s.reqs ios2).ioCommand := by
    rw [hRead]
    decide
  have hPerformed :
      deviceBeginIo o ios2 s =
        performIo o ios2 (s.record (.submitted ios2)) :=
    if_pos hNow
  rw [hPerformed]
  unfold performIo
  rw [reqs_record, hRead, dispatch_cmdRead]
  rfl

/- A read that is submitted is queued, or ended at once. -/
theorem readQueue_submit
    {o : Outcome}
    (hWaits : s.Waits)
    (hOwned : s.Owned ios2)
    (hRead : (s.reqs ios2).ioCommand = cmdRead)
    (hBm : (s.reqs ios2).bufferManagement = bm) :
    (deviceBeginIo o ios2 s).lists (.bmRxQueue bm) =
      (s.lists (.bmRxQueue bm) ++ [ios2]).filter (fun r =>
        decide (Outstanding r
          (deviceBeginIo o ios2 s).log)) := by
  have hOwn :
      (((s.record (.submitted ios2)).resetError ios2).reqs
        ios2).bufferManagement = bm := by
    unfold Driver.resetError
    rw [reqs_setReq, if_pos rfl]
    exact hBm
  have hDue :
      ∀ r ∈ s.lists (.bmRxQueue bm),
        r ≠ ios2 ∧ Outstanding r s.log := by
    intro r hMem
    have hOut := hWaits.conserved.outstanding hMem
    exact ⟨fun hSame => hOwned (hSame ▸ hOut), hOut⟩
  rw [deviceBeginIo_cmdRead o hRead]
  unfold devCmdReadPacket
  rw [hOwn]
  dsimp only
  split
  · split
    · unfold queuePending
      rw [lists_addTail, if_pos rfl]
      symm
      apply List.filter_eq_self.mpr
      intro r hMem
      apply decide_eq_true
      rcases List.mem_append.mp hMem with hOld | hNew
      · exact Or.inr (hDue r hOld).2
      · exact Or.inl (List.mem_singleton.mp hNew).symm
    · unfold Driver.termWithError
      rw [lists_termIo, log_termIo]
      exact (filter_outstanding_ended hDue).symm
  · unfold Driver.termWithError
    rw [lists_termIo, log_termIo]
    exact (filter_outstanding_ended hDue).symm

/-
  The queue after a step: whoever was in it or has been
  submitted, in this order, and has not been terminated.
-/
theorem readQueue_next
    {op : Op}
    (hReach : deviceMachine.Reach Machine.Free s)
    (hAllowed : op.Allowed s)
    (hOpen : ∀ ios2 s2unit s2flags env,
      op ≠ .openDevice ios2 s2unit s2flags env) :
    (s.next op).lists (.bmRxQueue bm) =
      (s.lists (.bmRxQueue bm) ++ s.submitting bm op).filter
        (fun r => decide (Outstanding r (s.next op).log)) := by
  have hWaits := waits_of_reach hReach
  by_cases hNone : s.submitting bm op = []
  · rw [hNone, List.append_nil]
    exact eq_filter_of_sublist
      (readQueue_next_sublist hReach hAllowed hNone)
      (hWaits.orderly.once _) (fun r hMem =>
        mem_readQueue_next_iff hWaits.conserved hMem hAllowed
          hOpen)
  · cases op with
    | beginIo ios2 o =>
        by_cases hRead :
            (s.reqs ios2).ioCommand = cmdRead ∧
              (s.reqs ios2).bufferManagement = bm
        · have hNew :
              s.submitting bm (.beginIo ios2 o) = [ios2] :=
            if_pos hRead
          rw [hNew]
          exact readQueue_submit hWaits hAllowed.2 hRead.1
            hRead.2
        · exact absurd (if_neg hRead) hNone
    | _ => exact absurd rfl hNone

------------------------------------------------------------
-- New Openers
------------------------------------------------------------

/- The step enters this opener into the unit. -/
def Driver.Entering
    (s : Driver) (bm : APTR) (s' : Driver) : Op → Prop
| .openDevice _ _ _ _ =>
    bm ∉ s.unit.buffMgmt ∧ bm ∈ s'.unit.buffMgmt
| _ => False

instance decidableEntering
    (s : Driver) (bm : APTR) (s' : Driver) :
    (op : Op) → Decidable (s.Entering bm s' op)
| .openDevice _ _ _ _ =>
    inferInstanceAs (Decidable
      (bm ∉ s.unit.buffMgmt ∧ bm ∈ s'.unit.buffMgmt))
| .close _ | .expunge | .beginIo _ _ | .abortIo _
| .serviceMsgPort _ | .pktReceived _ _ _ | .doEvent _
| .configChanged _ | .clientWrite _ _ | .hardware _ =>
    isFalse id

/- What an open does to the queue of one opener. -/
structure OpensQueue (bm : APTR) (s s' : Driver) : Prop where
  log : s'.log = s.log
  queue : (bm ∈ s'.unit.buffMgmt → bm ∈ s.unit.buffMgmt) ∧
      s'.lists (.bmRxQueue bm) = s.lists (.bmRxQueue bm) ∨
    (bm ∉ s.unit.buffMgmt ∧ bm ∈ s'.unit.buffMgmt) ∧
      s'.lists (.bmRxQueue bm) = []

/- Up to where the opener is entered, nothing happens to the
   queue. -/
structure BeforeOpener (bm : APTR) (s s' : Driver) : Prop where
  log : s'.log = s.log
  queue : s'.lists (.bmRxQueue bm) = s.lists (.bmRxQueue bm)
  known : bm ∈ s'.unit.buffMgmt → bm ∈ s.unit.buffMgmt

theorem BeforeOpener.initUnitProcess
    (env : OpenEnv)
    (hBefore : BeforeOpener bm s s') :
    BeforeOpener bm s (initUnitProcess env s') where
  log := (log_initUnitProcess env s').trans hBefore.log
  queue :=
    (bmRxQueue_initUnitProcess env s' bm).trans hBefore.queue
  known := by
    rcases buffMgmt_initUnitProcess_cases env s' with
      hSame | hNone
    · rw [hSame]
      exact hBefore.known
    · rw [hNone]
      exact fun hIn => absurd hIn List.not_mem_nil

theorem BeforeOpener.addOpener
    {env : OpenEnv}
    (hNew : env.bm ∉ s.unit.buffMgmt)
    (hBefore : BeforeOpener bm s s') :
    OpensQueue bm s (addOpener ios2 env s') := by
  have hLists :
      (KszDriver.addOpener ios2 env s').lists =
        Function.update s'.lists (.bmRxQueue env.bm) [] := rfl
  have hKnown :
      (KszDriver.addOpener ios2 env s').unit.buffMgmt =
        s'.unit.buffMgmt ++ [env.bm] := rfl
  refine ⟨hBefore.log, ?_⟩
  rw [hLists, hKnown, List.mem_append, List.mem_singleton]
  by_cases hSame : bm = env.bm
  · subst hSame
    exact Or.inr ⟨⟨hNew, Or.inr rfl⟩, Function.update_self ..⟩
  · refine Or.inl ⟨?_, ?_⟩
    · rintro (hIn | hIn)
      · exact hBefore.known hIn
      · exact absurd hIn hSame
    · rw [Function.update_of_ne (by simpa using hSame)]
      exact hBefore.queue

theorem opensQueue_deviceOpen
    {env : OpenEnv}
    (ios2 : APTR)
    (s2unit s2flags : ULONG)
    (hNew : env.bm ≠ 0 → env.bm ∉ s.unit.buffMgmt) :
    OpensQueue bm s (deviceOpen ios2 s2unit s2flags env s) := by
  apply deviceOpen_rule
    (I := BeforeOpener bm s) (J := OpensQueue bm s)
  · intro s' flags count hBefore
    exact ⟨hBefore.log, hBefore.queue, hBefore.known⟩
  · intro s' count hOpens
    exact ⟨hOpens.log, hOpens.queue⟩
  · intro s' hBefore
    exact ⟨hBefore.log, hBefore.queue, hBefore.known⟩
  · intro s' hBefore
    exact hBefore.initUnitProcess env
  · intro s' hBefore
    exact ⟨hBefore.log, Or.inl ⟨hBefore.known, hBefore.queue⟩⟩
  · intro s' _ hNonNull hBefore
    exact hBefore.addOpener (hNew hNonNull)
  · exact ⟨rfl, rfl, id⟩

end Queue

end KszDriver
