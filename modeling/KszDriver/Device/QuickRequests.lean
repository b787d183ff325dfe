import KszDriver.Device.Conservation

/-
  Quick requests.  A request that is quick when it is ended
  is not replied to, so a request that waits must not be
  quick: `BeginIO` has to clear the bit before it returns
  with the request in a list.

  Main declarations:
    * `QueuesQuick`, `KeepsReplies`
    * `Driver.RepliesToQueued`
    * `quick_contract`
    * `quick_read_without_reply`
-/

------------------------------------------------------------
-- The Condition
------------------------------------------------------------

namespace KszDriver

/- A read or an orphan read that is queued at once; these
   commands leave the quick bit as it is. -/
def QueuesQuick (s : Driver) (ios2 : APTR) : Prop :=
  (s.reqs ios2).Quick ∧ s.Online ∧
    (((s.reqs ios2).ioCommand = cmdRead ∧
        (s.reqs ios2).bufferManagement ∈ s.unit.buffMgmt) ∨
      (s.reqs ios2).ioCommand = s2ReadOrphan)

/- A request that `BeginIO` puts into a list. -/
def QueuesRequest (s : Driver) (ios2 : APTR) : Prop :=
  PerformedNow (s.reqs ios2).ioCommand →
    s.Online ∧
      (((s.reqs ios2).ioCommand = cmdRead ∧
          (s.reqs ios2).bufferManagement ∈ s.unit.buffMgmt) ∨
        (s.reqs ios2).ioCommand = s2ReadOrphan ∨
        (((s.reqs ios2).ioCommand = cmdWrite ∨
            (s.reqs ios2).ioCommand = s2Broadcast ∨
            (s.reqs ios2).ioCommand = s2Multicast) ∧
          (s.reqs ios2).dataLength ≤ s.unit.mtu))

instance (s : Driver) (ios2 : APTR) :
    Decidable (QueuesQuick s ios2) := by
  unfold QueuesQuick
  infer_instance

instance (s : Driver) (ios2 : APTR) :
    Decidable (QueuesRequest s ios2) := by
  unfold QueuesRequest
  infer_instance

/-
  No quick request is queued with its quick bit, and what is
  queued has a port to be replied to.
-/
def KeepsReplies (s : Driver) : Op → Prop
| .beginIo ios2 _ =>
    ¬ QueuesQuick s ios2 ∧
      (QueuesRequest s ios2 → (s.reqs ios2).mnReplyPort ≠ 0)
| _ => True

instance decidableKeepsReplies (s : Driver) :
    (op : Op) → Decidable (KeepsReplies s op)
| .beginIo ios2 _ =>
    inferInstanceAs (Decidable (¬ QueuesQuick s ios2 ∧
      (QueuesRequest s ios2 →
        (s.reqs ios2).mnReplyPort ≠ 0)))
| .openDevice _ _ _ _ | .close _ | .expunge | .abortIo _
| .serviceMsgPort _ | .pktReceived _ _ _ | .doEvent _
| .configChanged _ | .clientWrite _ _ | .hardware _ =>
    isTrue trivial

/- Requests that wait are not quick, and those that waited
   were replied to when they ended. -/
structure Driver.RepliesToQueued (s : Driver) : Prop where
  queued : ∀ head, ∀ r ∈ s.lists head, ¬ (s.reqs r).Quick
  replied : ∀ r req newer older,
    s.log = newer ++ .terminated r req :: older →
      Queued r older → req.termBranch = .replyMsg

------------------------------------------------------------
-- One Request
------------------------------------------------------------

/- If this request waits it is not quick, and it is not lost. -/
def focusPolicy (ios2 : APTR) : Policy where
  place := fun _ r c => r = ios2 → ¬ c.quick
  waits := fun _ _ => True
  lost := fun r => r ≠ ios2
  waits_calm := fun _ _ _ => trivial

/- An owned request is in no list, so that the policy may
   turn to it. -/
theorem Driver.Conserved.focus
    {P : Policy}
    {s : Driver}
    {ios2 : APTR}
    (hCon : s.Conserved P [])
    (hOwned : s.Owned ios2) :
    s.Conserved (focusPolicy ios2) [] where
  toLinked := hCon.toLinked
  heldOnce := hCon.heldOnce
  heldApart := hCon.heldApart
  queued := hCon.queued
  owed := hCon.owed
  pending := hCon.pending
  parked := hCon.parked
  found := by
    intro r hDue
    refine Or.inl ?_
    rintro rfl
    exact hOwned hDue
  balanced := hCon.balanced
  placed := by
    rintro head r hMem rfl
    exact absurd (hCon.outstanding hMem) hOwned
  waiting := fun _ _ => trivial
  ended := hCon.ended.mono (fun _ _ _ => trivial)

/- A request that `BeginIO` puts into the port is calm. -/
theorem focusPolicy_meets
    {s : Driver}
    {ios2 : APTR}
    (o : Outcome)
    (hNotQuick : ¬ QueuesQuick s ios2) :
    (focusPolicy ios2).Meets s (.beginIo ios2 o) := by
  constructor
  · intro hNow
    exact
      { write := fun _ _ _ => trivial
        read := fun hRead hOnline hOpen =>
          ⟨fun _ hQuick => hNotQuick
            ⟨hQuick, hOnline, Or.inl ⟨hRead, hOpen⟩⟩, trivial⟩
        orphan := fun hOrphan hOnline =>
          ⟨fun _ hQuick => hNotQuick
            ⟨hQuick, hOnline, Or.inr hOrphan⟩, trivial⟩
        event := fun hEvent => by
          rw [hEvent] at hNow
          exact absurd hNow (by decide) }
  · intro _
    exact ⟨fun _ hQuick => hQuick, trivial⟩

/- What is queued as pending keeps its flags. -/
theorem queuePending_quick
    {head : ListHead}
    {s : Driver}
    {ios2 : APTR}
    (hDue : Outstanding ios2 s.log)
    (hQuick : (s.reqs ios2).Quick) :
    Outstanding ios2 (queuePending head ios2 s).log ∧
      ((queuePending head ios2 s).reqs ios2).Quick := by
  refine ⟨hDue, ?_⟩
  unfold queuePending
  rw [Driver.reqs_addTail, Driver.reqs_setReq, if_pos rfl]
  exact hQuick

theorem devCmdReadPacket_of_open
    {s : Driver}
    {ios2 : APTR}
    (hOnline : s.Online)
    (hOpen :
      (s.reqs ios2).bufferManagement ∈ s.unit.buffMgmt) :
    devCmdReadPacket ios2 s =
      queuePending (.bmRxQueue (s.reqs ios2).bufferManagement)
        ios2 s := by
  unfold devCmdReadPacket
  dsimp only
  rw [if_pos hOnline, if_pos hOpen]

theorem devCmdReadOrphan_of_online
    {s : Driver}
    (ios2 : APTR)
    (hOnline : s.Online) :
    devCmdReadOrphan ios2 s =
      queuePending .euReadOrphan ios2 s := by
  unfold devCmdReadOrphan
  rw [if_pos hOnline]

/- A quick read that is queued stays quick. -/
theorem quick_performIo
    {s : Driver}
    {ios2 : APTR}
    (o : Outcome)
    (hDue : Outstanding ios2 s.log)
    (hQueues : QueuesQuick s ios2) :
    Outstanding ios2 (performIo o ios2 s).log ∧
      ((performIo o ios2 s).reqs ios2).Quick := by
  rcases hQueues with ⟨hQuick, hOnline, hCommand⟩
  have hOnline' :
      (s.setReq ios2
        (fun req => { req with ioError := 0 })).Online :=
    hOnline
  have hQuick' :
      ((s.setReq ios2 (fun req =>
        { req with ioError := 0 })).reqs ios2).Quick := by
    rw [Driver.reqs_setReq, if_pos rfl]
    exact hQuick
  unfold performIo
  rcases hCommand with ⟨hRead, hOpen⟩ | hOrphan
  · rw [hRead, dispatch_cmdRead,
      devCmdReadPacket_of_open hOnline' (by
        rw [Driver.reqs_setReq, if_pos rfl]
        exact hOpen)]
    exact queuePending_quick hDue hQuick'
  · rw [hOrphan, dispatch_s2ReadOrphan,
      devCmdReadOrphan_of_online ios2 hOnline']
    exact queuePending_quick hDue hQuick'

theorem quick_of_queuesQuick
    {s : Driver}
    {ios2 : APTR}
    (o : Outcome)
    (hQueues : QueuesQuick s ios2) :
    Outstanding ios2 (s.next (.beginIo ios2 o)).log ∧
      ((s.next (.beginIo ios2 o)).reqs ios2).Quick := by
  have hNow : PerformedNow (s.reqs ios2).ioCommand := by
    rcases hQueues.2.2 with ⟨hRead, -⟩ | hOrphan
    · rw [hRead]
      decide
    · rw [hOrphan]
      decide
  have hQueues' :
      QueuesQuick (s.record (.submitted ios2)) ios2 :=
    hQueues
  unfold Driver.next deviceBeginIo
  dsimp only
  rw [Driver.reqs_record, if_pos hNow]
  exact quick_performIo o (Or.inl rfl) hQueues'

/- `BeginIO` ends a request or makes it calm exactly when it
   does not queue it with its quick bit. -/
theorem ended_or_calm_iff
    {s : Driver}
    {ios2 : APTR}
    {o : Outcome}
    (hCon : s.Conserved custodyPolicy [])
    (hAllowed : (Op.beginIo ios2 o).Allowed s) :
    (¬ Outstanding ios2 (s.next (.beginIo ios2 o)).log ∨
        ¬ ((s.next (.beginIo ios2 o)).reqs ios2).Quick) ↔
      ¬ QueuesQuick s ios2 := by
  constructor
  · intro hEither hQueues
    have hBoth := quick_of_queuesQuick o hQueues
    rcases hEither with hEnded | hCalm
    · exact hEnded hBoth.1
    · exact hCalm hBoth.2
  · intro hNotQuick
    have hCon' :=
      (hCon.focus hAllowed.2).next hAllowed
        (focusPolicy_meets o hNotQuick)
    by_cases hDue :
        Outstanding ios2 (s.next (.beginIo ios2 o)).log
    · rcases hCon'.found ios2 hDue with
        hLost | hHeld | ⟨head, hMem⟩
      · exact absurd rfl hLost
      · exact absurd hHeld List.not_mem_nil
      · exact Or.inr (hCon'.placed head ios2 hMem rfl)
    · exact Or.inl hDue

------------------------------------------------------------
-- Runs
------------------------------------------------------------

/- A request that waits is calm and has a reply port. -/
def replyPolicy : Policy where
  place := fun _ _ _ => True
  waits := fun _ c => ¬ c.quick ∧ c.mnReplyPort ≠ 0
  lost := fun _ => True
  waits_calm := fun _ _ hWaits => ⟨id, hWaits.2⟩

theorem replyPolicy_meets
    {s : Driver}
    {op : Op}
    (hCon : s.Conserved replyPolicy [])
    (hGuard : KeepsReplies s op) :
    replyPolicy.Meets s op := by
  cases op with
  | openDevice ios2 s2unit s2flags env =>
      exact ⟨fun _ _ _ _ => trivial, fun _ _ _ => trivial⟩
  | beginIo ios2 o =>
      rcases hGuard with ⟨hNotQuick, hPort⟩
      constructor
      · intro hNow
        exact
          { write := fun hWrite hOnline hLength =>
              ⟨id, hPort (fun _ => ⟨hOnline,
                Or.inr (Or.inr ⟨hWrite, hLength⟩)⟩)⟩
            read := fun hRead hOnline hOpen =>
              ⟨trivial,
                fun hQuick => hNotQuick
                  ⟨hQuick, hOnline, Or.inl ⟨hRead, hOpen⟩⟩,
                hPort (fun _ =>
                  ⟨hOnline, Or.inl ⟨hRead, hOpen⟩⟩)⟩
            orphan := fun hOrphan hOnline =>
              ⟨trivial,
                fun hQuick => hNotQuick
                  ⟨hQuick, hOnline, Or.inr hOrphan⟩,
                hPort (fun _ =>
                  ⟨hOnline, Or.inr (Or.inl hOrphan)⟩)⟩
            event := fun hEvent => by
              rw [hEvent] at hNow
              exact absurd hNow (by decide) }
      · intro hLater
        exact ⟨trivial, id,
          hPort (fun hNow => absurd hNow hLater)⟩
  | serviceMsgPort o =>
      intro r hMem
      have hWaits :=
        hCon.waiting r (hCon.queued _ r hMem)
      exact
        { write := fun _ _ _ =>
            replyPolicy.waits_calm r _ hWaits
          read := fun _ _ _ => ⟨trivial, hWaits⟩
          orphan := fun _ _ => ⟨trivial, hWaits⟩
          event := fun _ => ⟨trivial, hWaits⟩ }
  | _ => trivial

/- Every termination in the history met the policy. -/
theorem Driver.Ended.of_append
    {waits : APTR → Core → Prop}
    {r : APTR}
    {req : IOSana2Req}
    {newer older : List Event}
    (hEnded :
      Driver.Ended waits (newer ++ .terminated r req :: older))
    (hQueued : Queued r older) :
    waits r req.core := by
  induction newer with
  | nil => exact hEnded.1 hQueued
  | cons event newer ih =>
      cases event with
      | terminated other req' => exact ih hEnded.2
      | _ => exact ih hEnded

theorem Driver.Conserved.repliesToQueued
    {s : Driver}
    (hCon : s.Conserved replyPolicy []) :
    s.RepliesToQueued where
  queued := fun head r hMem =>
    (hCon.waiting r (hCon.queued head r hMem)).1
  replied := by
    intro r req newer older hLog hQueued
    have hEnded := hCon.ended
    rw [hLog] at hEnded
    have hWaits :
        ¬ req.Quick ∧ req.mnReplyPort ≠ 0 :=
      hEnded.of_append hQueued
    unfold IOSana2Req.termBranch
    rw [if_neg hWaits.1, if_pos hWaits.2]

/-
  `BeginIO` keeps the contract of quick requests exactly when
  it queues none as it is; and in every run that queues none,
  what waits is not quick and ends with a reply.
-/
theorem quick_contract
    {s : Driver} :
    (deviceMachine.Reach Machine.Free s →
      ∀ ios2 o, (Op.beginIo ios2 o).Allowed s →
        ((¬ Outstanding ios2 (s.next (.beginIo ios2 o)).log ∨
            ¬ ((s.next (.beginIo ios2 o)).reqs ios2).Quick) ↔
          ¬ QueuesQuick s ios2)) ∧
    (deviceMachine.Reach KeepsReplies s →
      s.RepliesToQueued) := by
  constructor
  · intro hReach ios2 o hAllowed
    exact ended_or_calm_iff (conserved_of_reach hReach) hAllowed
  · intro hReach
    have hCon : s.Conserved replyPolicy [] :=
      hReach.invariant
        (fun _ hStart =>
          Driver.Start.conserved hStart replyPolicy)
        (fun _ _ hAllowed hGuard hState =>
          hState.next hAllowed (replyPolicy_meets hState hGuard))
    exact hCon.repliesToQueued

/- An online unit whose client has prepared a quick request. -/
def quickSteps (command : UWORD) : List Op :=
  onlineSteps ++
    [.clientWrite 8
      { plainRequest command with ioFlags := iofQuick }]

/- A quick write is made calm, and a read that is not quick
   waits and is replied to. -/
theorem quick_contract_write :
    (¬ Outstanding 8
        ((deviceMachine.run (quickSteps cmdWrite)
          (loadedDriver (idleRegisters 0x1800#16))).next
            (.beginIo 8 plainOutcome)).log ∨
      ¬ (((deviceMachine.run (quickSteps cmdWrite)
          (loadedDriver (idleRegisters 0x1800#16))).next
            (.beginIo 8 plainOutcome)).reqs 8).Quick) ∧
    (deviceMachine.run
      (onlineSteps ++ submitSteps 8 (plainRequest cmdRead) ++ [.abortIo 8])
      (loadedDriver (idleRegisters 0x1800#16))
        ).RepliesToQueued := by
  constructor
  · exact (quick_contract.1
      (Machine.reach_run _
        (Machine.Reach.start (start_loadedDriver _))
        (by decide +kernel)) 8 plainOutcome
          (by decide +kernel)).mpr (by decide +kernel)
  · exact quick_contract.2
      (Machine.reach_run _
        (Machine.Reach.start (start_loadedDriver _))
        (by decide +kernel))

/-
  A quick read of an online unit waits with its quick bit, so
  that it gets no reply when it is aborted.
-/
theorem quick_read_without_reply :
    ∃ s : Driver,
      deviceMachine.Reach Machine.Free s ∧
        (Op.beginIo 8 plainOutcome).Allowed s ∧
        Outstanding 8 (s.next (.beginIo 8 plainOutcome)).log ∧
        ((s.next (.beginIo 8 plainOutcome)).reqs 8).Quick ∧
        8 ∈ (s.next (.beginIo 8 plainOutcome)).lists
          (.bmRxQueue 40) ∧
        ((terminations 8
          ((s.next (.beginIo 8 plainOutcome)).next
            (.abortIo 8)).log).map
              IOSana2Req.termBranch).head? =
                some .noReply := by
  refine ⟨deviceMachine.run (quickSteps cmdRead)
    (loadedDriver (idleRegisters 0x1800#16)), ?_, ?_⟩
  · exact Machine.reach_run _
      (Machine.Reach.start (start_loadedDriver _))
      (by decide +kernel)
  · decide +kernel

end KszDriver
