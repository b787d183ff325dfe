import KszDriver.Device.Bystanders

/-
  Packets are handed to the reads of an opener in the order
  in which these were submitted.

  Beside the run a line is kept for an opener and a packet
  type: the reads that were submitted, what became of them,
  and the packets that were offered and accepted.

  Main declarations:
    * `queuedRead_next`
    * `Driver.ReadsWait`, `OffersInOrder`
    * `noteReads`, `readLines`
    * `delivery_in_order`
-/

------------------------------------------------------------
-- Reads That Wait
------------------------------------------------------------

namespace KszDriver

open Driver

/- A read as it is queued. -/
def queuedRead (req : IOSana2Req) : IOSana2Req :=
  { req with ioError := 0, lnType := ntMessage }

/- The packet was offered to the request and its filter
   refused it. -/
def Driver.Refuses
    (s : Driver) (bm r : APTR) (req : IOSana2Req) : Op → Prop
| .pktReceived buffer size o =>
    s.chosen buffer bm = some r ∧ o.callFilterHook r = false ∧
      req = describePacket buffer size (s.reqs r)
| _ => False

/- The read was submitted just now. -/
def Driver.Submits
    (s : Driver) (bm r : APTR) (req : IOSana2Req) : Op → Prop
| .beginIo ios2 _ =>
    ios2 = r ∧ (s.reqs r).ioCommand = cmdRead ∧
      (s.reqs r).bufferManagement = bm ∧
      req = queuedRead (s.reqs r)
| _ => False

/- Whoever waits in a read queue has an error of zero, and
   the openers can be told from each other. -/
structure Driver.ReadsWait (s : Driver) : Prop
    extends s.Linked where
  openers : s.unit.buffMgmt.Nodup
  ofOpener : ∀ bm ∈ s.unit.buffMgmt,
    ∀ r ∈ s.lists (.bmRxQueue bm),
      (s.reqs r).bufferManagement ≠ 0
  noError : ∀ bm, ∀ r ∈ s.lists (.bmRxQueue bm),
    (s.reqs r).ioError = 0

section Waiting

variable {s s' : Driver} {op : Op} {bm r ios2 : APTR}
variable {o : Outcome} {buffer : Memory} {size : UWORD}

theorem bufferManagement_ne_zero_of_reach
    (hReach : deviceMachine.Reach Machine.Free s)
    (hOpen : bm ∈ s.unit.buffMgmt)
    (hMem : r ∈ s.lists (.bmRxQueue bm)) :
    (s.reqs r).bufferManagement ≠ 0 := by
  have hOrderly := (waits_of_reach hReach).orderly
  rw [bufferManagement_of_queued hOrderly hMem]
  exact fun hNull =>
    (listed_of_reach hReach).nonNull (hNull ▸ hOpen)

theorem dispatchesExactly_of_reach
    (hReach : deviceMachine.Reach Machine.Free s)
    (o : Outcome)
    (buffer : Memory)
    (size : UWORD) :
    DispatchesExactly o buffer size s
      (s.next (.pktReceived buffer size o)) :=
  dispatchesExactly_onPktReceived buffer size
    (waits_of_reach hReach).orderly.toLinked
    (listed_of_reach hReach).nodup
    (fun _ hOpen _ hMem =>
      bufferManagement_ne_zero_of_reach hReach hOpen hMem)

/- What a read is when it has been queued. -/
theorem reqs_submit
    (hRead : (s.reqs ios2).ioCommand = cmdRead)
    (hDue : Outstanding ios2 (deviceBeginIo o ios2 s).log) :
    (deviceBeginIo o ios2 s).reqs ios2 =
      queuedRead (s.reqs ios2) := by
  have hNotEnded (s' : Driver) :
      ¬ Outstanding ios2 (s'.termIo ios2).log := by
    rw [log_termIo]
    exact fun hOut => hOut.1 rfl
  rw [deviceBeginIo_cmdRead o hRead] at hDue ⊢
  unfold devCmdReadPacket at hDue ⊢
  dsimp only at hDue ⊢
  split
  · rename_i hOnline
    rw [if_pos hOnline] at hDue
    split
    · unfold queuePending Driver.resetError queuedRead
      rw [reqs_addTail, reqs_setReq, if_pos rfl, reqs_setReq,
        if_pos rfl]
      rfl
    · rename_i hUnknown
      rw [if_neg hUnknown] at hDue
      exact absurd hDue (hNotEnded _)
  · rename_i hOffline
    rw [if_neg hOffline] at hDue
    exact absurd hDue (hNotEnded _)

/-
  Whoever is in a read queue after a step was in it and has
  not changed, or was refused a packet, or was submitted.
-/
theorem queuedRead_next
    (hReach : deviceMachine.Reach Machine.Free s)
    (hAllowed : op.Allowed s)
    (hMem : r ∈ (s.next op).lists (.bmRxQueue bm)) :
    r ∈ s.lists (.bmRxQueue bm) ∧
        ((s.next op).reqs r = s.reqs r ∨
          s.Refuses bm r ((s.next op).reqs r) op) ∨
      s.Submits bm r ((s.next op).reqs r) op := by
  have hWaits := waits_of_reach hReach
  have hDue :=
    (hWaits.next_waits hAllowed).conserved.outstanding hMem
  by_cases hNone : s.submitting bm op = []
  · have hOld :=
      mem_of_mem_readQueue_next hReach hAllowed hNone hMem
    refine Or.inl ⟨hOld, ?_⟩
    cases op with
    | pktReceived buffer size o =>
        have hDispatched :=
          dispatchesExactly_of_reach hReach o buffer size
        by_cases hChosen : s.chosen buffer bm = some r
        · rw [hDispatched.queues] at hMem
          have hRefused :=
            of_decide_eq_true (List.mem_filter.mp hMem).2
          have hFilter : o.callFilterHook r = false := by
            cases hHook : o.callFilterHook r with
            | true => exact absurd ⟨hChosen, hHook⟩ hRefused
            | false => rfl
          exact Or.inr ⟨hChosen, hFilter,
            hDispatched.refused bm r hOld hChosen hFilter⟩
        · exact Or.inl (hDispatched.spared bm r hOld hChosen)
    | _ =>
        exact Or.inl (reqs_next hWaits hAllowed (by simp) hOld
          (by simp) hDue)
  · cases op with
    | beginIo ios2 o =>
        by_cases hRead :
            (s.reqs ios2).ioCommand = cmdRead ∧
              (s.reqs ios2).bufferManagement = bm
        · by_cases hSame : ios2 = r
          · subst hSame
            exact Or.inr ⟨rfl, hRead.1, hRead.2,
              reqs_submit hRead.1 hDue⟩
          · have hQueue :=
              readQueue_submit (o := o) hWaits hAllowed.2
                hRead.1 hRead.2
            have hIn : r ∈ (deviceBeginIo o ios2 s).lists
                (.bmRxQueue bm) := hMem
            rw [hQueue] at hIn
            rcases List.mem_append.mp
              (List.mem_filter.mp hIn).1 with hOld | hNew
            · exact Or.inl ⟨hOld, Or.inl (reqs_next hWaits
                hAllowed (by simp) hOld (by simp) hDue)⟩
            · exact absurd (List.mem_singleton.mp hNew).symm
                hSame
        · exact absurd (if_neg hRead) hNone
    | _ => exact absurd rfl hNone

theorem ReadsWait.of_reach
    (hReach : deviceMachine.Reach Machine.Free s) :
    s.ReadsWait where
  toLinked := (waits_of_reach hReach).orderly.toLinked
  openers := (listed_of_reach hReach).nodup
  ofOpener := fun _ hOpen _ hMem =>
    bufferManagement_ne_zero_of_reach hReach hOpen hMem
  noError := by
    induction hReach with
    | start hStart =>
        intro bm r hMem
        rw [hStart.2.1] at hMem
        exact absurd hMem List.not_mem_nil
    | @step s op hReach hAllowed _ ih =>
        intro bm r hMem
        rcases queuedRead_next hReach hAllowed hMem with
          ⟨hOld, hSame | hRefused⟩ | hNew
        · have hReq : ((s.next op).reqs r) = s.reqs r := hSame
          show ((s.next op).reqs r).ioError = 0
          rw [hReq]
          exact ih bm r hOld
        · cases op with
          | pktReceived buffer size o =>
              have hReq := hRefused.2.2
              show ((s.next _).reqs r).ioError = 0
              rw [hReq]
              exact ih bm r hOld
          | _ => exact hRefused.elim
        · cases op with
          | beginIo ios2 o =>
              have hReq := hNew.2.2.2
              show ((s.next _).reqs r).ioError = 0
              rw [hReq]
              rfl
          | _ => exact hNew.elim

end Waiting

------------------------------------------------------------
-- One Packet
------------------------------------------------------------

/-
  Moreover the request that takes the packet is terminated
  once and no other is, without an error if the packet could
  be copied.
-/
structure OffersInOrder
    (o : Outcome)
    (buffer : Memory)
    (size : UWORD)
    (s s' : Driver) : Prop
    extends DispatchesExactly o buffer size s s' where
  ended : ∀ bm, ∀ r ∈ s.lists (.bmRxQueue bm),
    terminations r s'.log =
      (if s.Takes o buffer bm r then
        [o.endedRequest r buffer size (s.reqs r)]
      else []) ++ terminations r s.log
  error : ∀ bm r, s.Takes o buffer bm r →
    (o.endedRequest r buffer size (s.reqs r)).ioError =
      if o.copyToBuffer r then 0 else s2errNoResources

section Offers

variable {s : Driver} {o : Outcome} {buffer : Memory}
variable {size : UWORD} {r : APTR}

/- How a request was terminated can be told from what
   concerns its packets. -/
theorem terminations_packetStory (log : List Event) :
    terminations r (packetStory r log) =
      terminations r log := by
  induction log with
  | nil => rfl
  | cons event log ih =>
      by_cases hConcerns : event.ConcernsPacketOf r
      · rw [packetStory_cons_of_concerns hConcerns]
        cases event with
        | terminated other req =>
            unfold terminations
            rw [ih]
        | _ => exact ih
      · rw [packetStory_cons_of_not_concerns hConcerns, ih]
        cases event with
        | terminated other req =>
            exact (if_neg hConcerns).symm
        | _ => rfl

theorem terminations_reading
    (head : ListHead)
    (req : IOSana2Req)
    (log : List Event) :
    terminations r
        (o.reading head r buffer size req ++ log) =
      (if o.callFilterHook r = true then
        [o.endedRequest r buffer size req]
      else []) ++ terminations r log := by
  unfold Outcome.reading
  split
  · split
    · simp [terminations]
    · simp [terminations]
  · simp [terminations]

theorem ioError_endedRequest
    (req : IOSana2Req)
    (hNoError : req.ioError = 0) :
    (o.endedRequest r buffer size req).ioError =
      if o.copyToBuffer r then 0 else s2errNoResources := by
  unfold Outcome.endedRequest
  split
  · exact hNoError
  · rfl

theorem Driver.ReadsWait.offersInOrder
    (hWait : s.ReadsWait)
    (o : Outcome)
    (buffer : Memory)
    (size : UWORD) :
    OffersInOrder o buffer size s
      (onPktReceived o buffer size s) := by
  have hDispatched :=
    dispatchesExactly_onPktReceived (o := o) buffer size
      hWait.toLinked hWait.openers hWait.ofOpener
  exact
    { hDispatched with
      ended := by
        intro bm r hMem
        rw [← terminations_packetStory,
          hDispatched.story bm r hMem]
        unfold Driver.Takes
        by_cases hChosen : s.chosen buffer bm = some r
        · rw [if_pos hChosen, terminations_reading,
            terminations_packetStory]
          simp [hChosen]
        · rw [if_neg hChosen, List.nil_append,
            terminations_packetStory]
          simp [hChosen]
      error := by
        intro bm r hTakes
        exact ioError_endedRequest (s.reqs r)
          (hWait.noError bm r (chosen_mem hTakes.1)) }

end Offers

------------------------------------------------------------
-- Lines of Reads
------------------------------------------------------------

/- A packet as it is received. -/
abbrev RxPacket := Memory × UWORD

/- What ends a read in this step: a packet, or something
   else. -/
def Op.ends : Op → Fate RxPacket
| .pktReceived buffer size _ => .served (buffer, size)
| _ => .left

/- The packets of a type that in this step were offered to a
   read of the opener and accepted by its filter. -/
def acceptedPackets
    (bm : APTR) (packetType : UWORD) (s s' : Driver) :
    Op → List RxPacket
| .pktReceived buffer size o =>
    if packetTypeOf buffer = packetType then
      ((offeredFrom (.bmRxQueue bm) (s.since s')).filter
        o.callFilterHook).map (fun _ => (buffer, size))
    else []
| _ => []

/- The request asks for packets of this type only. -/
def Driver.ReadsType
    (s : Driver) (packetType : UWORD) (r : APTR) : Prop :=
  (s.reqs r).packetType = packetType.setWidth 32

instance (s : Driver) (packetType : UWORD) :
    DecidablePred (s.ReadsType packetType) := by
  unfold Driver.ReadsType
  infer_instance

/-
  The line of an opener and a packet type after a step.  It
  begins anew with the opener.  Reads come in as they are
  submitted, and go as they are terminated.
-/
def noteReads
    (bm : APTR)
    (packetType : UWORD)
    (l : Line APTR RxPacket)
    (s : Driver)
    (op : Op)
    (s' : Driver) : Line APTR RxPacket :=
  let l := if s.Entering bm s' op then Line.empty else l
  let l := l.arrive ((s.submitting bm op).filter
    (fun r => decide (s.ReadsType packetType r)))
  let l := l.settle (fun r => Outstanding r s'.log) op.ends
  l.hand (acceptedPackets bm packetType s s' op)

/- The runs of the device, with the line of an opener and a
   packet type. -/
def readLines (bm : APTR) (packetType : UWORD) :
    Machine (Driver × Line APTR RxPacket) Op :=
  deviceMachine.recording Line.empty (noteReads bm packetType)

/-
  Who waits in the line are the reads of the type that are
  queued, and the line is fair.
-/
structure KeepsOrder
    (bm : APTR)
    (packetType : UWORD)
    (s : Driver)
    (l : Line APTR RxPacket) : Prop where
  fair : l.Fair
  waiting : l.waiting =
    (s.lists (.bmRxQueue bm)).filter
      (fun r => decide (s.ReadsType packetType r))

section Order

variable {s : Driver} {op : Op} {bm r : APTR}
variable {packetType : UWORD} {l : Line APTR RxPacket}
variable {o : Outcome} {buffer : Memory} {size : UWORD}

/- A number above 1500 stays one in more bits. -/
theorem large_setWidth
    (hType : 1500#16 < packetType) :
    ¬ packetType.setWidth 32 ≤ 1500#32 := by
  rw [BitVec.le_def, BitVec.toNat_setWidth]
  rw [BitVec.lt_def] at hType
  simp at hType ⊢
  omega

theorem setWidth_injective
    {received : UWORD}
    (hSame : packetType.setWidth 32 =
      received.setWidth 32) :
    packetType = received := by
  have hNat := congrArg BitVec.toNat hSame
  simp only [BitVec.toNat_setWidth] at hNat
  apply BitVec.eq_of_toNat_eq
  omega

/- Above 1500 a request matches the packets of its type. -/
theorem typeMatches_iff
    {requested : ULONG}
    (received : UWORD)
    (hType : 1500#16 < packetType)
    (hAsks : requested = packetType.setWidth 32) :
    TypeMatches requested received ↔ received = packetType := by
  unfold TypeMatches
  constructor
  · rintro (hSame | ⟨hSmall, -⟩)
    · rw [hAsks] at hSame
      exact (setWidth_injective hSame).symm
    · rw [hAsks] at hSmall
      exact absurd hSmall (large_setWidth hType)
  · rintro rfl
    exact Or.inl hAsks

/- A packet above 1500 matches the requests of its type. -/
theorem typeMatches_iff_of_large
    (requested : ULONG)
    (hType : 1500#16 < packetType) :
    TypeMatches requested packetType ↔
      requested = packetType.setWidth 32 := by
  unfold TypeMatches
  constructor
  · rintro (hSame | ⟨-, hSmall⟩)
    · exact hSame
    · rw [BitVec.le_def] at hSmall
      rw [BitVec.lt_def] at hType
      omega
  · exact Or.inl

theorem typeMatches_of_chosen
    (hChosen : s.chosen buffer bm = some r) :
    TypeMatches (s.reqs r).packetType
      (packetTypeOf buffer) := by
  unfold Driver.chosen firstMatching at hChosen
  split at hChosen
  · have hHolds := List.find?_some hChosen
    exact of_decide_eq_true hHolds
  · cases hChosen

/- A packet keeps the requests that wait apart by type. -/
theorem readsType_next
    (hReach : deviceMachine.Reach Machine.Free s)
    (hAllowed : op.Allowed s)
    (hType : 1500#16 < packetType)
    (hMem : r ∈ (s.next op).lists (.bmRxQueue bm)) :
    (s.next op).ReadsType packetType r ↔
      s.ReadsType packetType r := by
  unfold Driver.ReadsType
  rcases queuedRead_next hReach hAllowed hMem with
    ⟨hOld, hSame | hRefused⟩ | hNew
  · rw [hSame]
  · cases op with
    | pktReceived buffer size o =>
        have hMatches := typeMatches_of_chosen hRefused.1
        rw [hRefused.2.2]
        show (packetTypeOf buffer).setWidth 32 = _ ↔ _
        constructor
        · intro hSame
          rw [setWidth_injective hSame] at hMatches
          exact (typeMatches_iff_of_large _ hType).mp hMatches
        · intro hAsks
          rw [(typeMatches_iff _ hType hAsks).mp hMatches]
    | _ => exact hRefused.elim
  · cases op with
    | beginIo ios2 o =>
        rw [hNew.2.2.2]
        exact Iff.rfl
    | _ => exact hNew.elim

/- Whom a step leaves in a queue, by type. -/
theorem queue_of_type_next
    (hReach : deviceMachine.Reach Machine.Free s)
    (hAllowed : op.Allowed s)
    (hOpen : ∀ ios2 s2unit s2flags env,
      op ≠ .openDevice ios2 s2unit s2flags env)
    (hType : 1500#16 < packetType) :
    ((s.next op).lists (.bmRxQueue bm)).filter (fun r =>
        decide ((s.next op).ReadsType packetType r)) =
      ((s.lists (.bmRxQueue bm)).filter (fun r =>
          decide (s.ReadsType packetType r)) ++
        (s.submitting bm op).filter (fun r =>
          decide (s.ReadsType packetType r))).filter (fun r =>
            decide (Outstanding r (s.next op).log)) := by
  have hSame :
      ((s.next op).lists (.bmRxQueue bm)).filter (fun r =>
          decide ((s.next op).ReadsType packetType r)) =
        ((s.next op).lists (.bmRxQueue bm)).filter (fun r =>
          decide (s.ReadsType packetType r)) := by
    apply List.filter_congr
    intro r hMem
    exact decide_eq_decide.mpr
      (readsType_next hReach hAllowed hType hMem)
  rw [hSame, readQueue_next hReach hAllowed hOpen,
    ← List.filter_append, List.filter_filter,
    List.filter_filter]
  apply List.filter_congr
  intro r _
  exact Bool.and_comm _ _

/- The line beside a step that opens nothing. -/
theorem noteReads_of_not_open
    (hOpen : ∀ ios2 s2unit s2flags env,
      op ≠ .openDevice ios2 s2unit s2flags env)
    (s' : Driver) :
    noteReads bm packetType l s op s' =
      ((l.arrive ((s.submitting bm op).filter
        (fun r => decide (s.ReadsType packetType r)))).settle
          (fun r => Outstanding r s'.log) op.ends).hand
            (acceptedPackets bm packetType s s' op) := by
  have hNot : ¬ s.Entering bm s' op := by
    cases op with
    | openDevice ios2 s2unit s2flags env =>
        exact absurd rfl (hOpen ios2 s2unit s2flags env)
    | _ => exact id
  unfold noteReads
  rw [if_neg hNot]

theorem ends_ne_waiting (op : Op) : op.ends ≠ .waiting := by
  cases op <;> exact nofun

theorem waiting_noteReads
    (hReach : deviceMachine.Reach Machine.Free s)
    (hAllowed : op.Allowed s)
    (hOpen : ∀ ios2 s2unit s2flags env,
      op ≠ .openDevice ios2 s2unit s2flags env)
    (hType : 1500#16 < packetType)
    (hKeeps : KeepsOrder bm packetType s l) :
    (noteReads bm packetType l s op (s.next op)).waiting =
      ((s.next op).lists (.bmRxQueue bm)).filter (fun r =>
        decide ((s.next op).ReadsType packetType r)) := by
  rw [noteReads_of_not_open hOpen, Line.waiting_hand,
    Line.waiting_settle _ (ends_ne_waiting op),
    Line.waiting_arrive, hKeeps.waiting,
    queue_of_type_next hReach hAllowed hOpen hType]

/- A step that receives nothing. -/
theorem fair_noteReads
    (hOpen : ∀ ios2 s2unit s2flags env,
      op ≠ .openDevice ios2 s2unit s2flags env)
    (hNoPacket : ∀ buffer size o,
      op ≠ .pktReceived buffer size o)
    (hFair : l.Fair)
    (s' : Driver) :
    (noteReads bm packetType l s op s').Fair := by
  have hLeft : op.ends = .left := by
    cases op with
    | pktReceived buffer size o =>
        exact absurd rfl (hNoPacket buffer size o)
    | _ => rfl
  have hNone : acceptedPackets bm packetType s s' op = [] := by
    cases op with
    | pktReceived buffer size o =>
        exact absurd rfl (hNoPacket buffer size o)
    | _ => rfl
  rw [noteReads_of_not_open hOpen, hLeft, hNone,
    Line.hand_nil]
  exact (hFair.arrive _).leave

/- A step in which a packet is offered and accepted. -/
theorem acceptedPackets_eq
    (hReach : deviceMachine.Reach Machine.Free s)
    (bm : APTR)
    (packetType : UWORD)
    (o : Outcome)
    (buffer : Memory)
    (size : UWORD) :
    acceptedPackets bm packetType s
        (s.next (.pktReceived buffer size o))
        (.pktReceived buffer size o) =
      if packetTypeOf buffer = packetType then
        ((s.chosen buffer bm).toList.filter
          o.callFilterHook).map (fun _ => (buffer, size))
      else [] := by
  have hOffered :=
    (dispatchesExactly_of_reach hReach o buffer
      size).offered bm
  rcases ((waits_of_reach hReach).orderly.onPktReceived o
    buffer size).log with ⟨newer, hGrows, -⟩
  have hNewer :
      offeredFrom (.bmRxQueue bm) newer =
        (s.chosen buffer bm).toList := by
    have hLog :
        (s.next (.pktReceived buffer size o)).log =
          newer ++ s.log := hGrows
    rw [hLog, offeredFrom_append] at hOffered
    exact List.append_cancel_right hOffered
  have hSince :
      s.since (s.next (.pktReceived buffer size o)) = newer :=
    since_of_append hGrows
  unfold acceptedPackets
  rw [hSince, hNewer]

/- After a packet, a read is outstanding unless it took the
   packet. -/
theorem outstanding_iff_not_takes
    (hReach : deviceMachine.Reach Machine.Free s)
    (hAllowed : s.base.unit0 = true)
    (o : Outcome)
    (buffer : Memory)
    (size : UWORD)
    (hMem : r ∈ s.lists (.bmRxQueue bm)) :
    Outstanding r (s.next (.pktReceived buffer size o)).log ↔
      ¬ s.Takes o buffer bm r := by
  have hAllowed' : Op.Allowed s (.pktReceived buffer size o) :=
    hAllowed
  have hStays :=
    mem_readQueue_next_iff (waits_of_reach hReach).conserved
      hMem hAllowed' (by simp)
  rw [← hStays,
    (dispatchesExactly_of_reach hReach o buffer size).queues,
    List.mem_filter, decide_eq_true_iff]
  exact and_iff_right hMem

/- The oldest read of the type is the one that is chosen. -/
theorem head?_of_chosen
    (hType : 1500#16 < packetType)
    (hSame : packetTypeOf buffer = packetType)
    (hChosen : s.chosen buffer bm = some r) :
    ((s.lists (.bmRxQueue bm)).filter (fun r =>
      decide (s.ReadsType packetType r))).head? = some r := by
  unfold Driver.chosen firstMatching at hChosen
  split at hChosen
  · rw [List.head?_filter, ← hChosen, hSame]
    congr 1
    funext r'
    exact decide_eq_decide.mpr
      (typeMatches_iff_of_large _ hType).symm
  · cases hChosen

/- A packet is received. -/
theorem fair_noteReads_pktReceived
    (hReach : deviceMachine.Reach Machine.Free s)
    (hAllowed : s.base.unit0 = true)
    (hType : 1500#16 < packetType)
    (hKeeps : KeepsOrder bm packetType s l) :
    (noteReads bm packetType l s
      (.pktReceived buffer size o)
      (s.next (.pktReceived buffer size o))).Fair := by
  have hDue (r : APTR) (hMem : r ∈ s.lists (.bmRxQueue bm)) :=
    outstanding_iff_not_takes hReach hAllowed o buffer size hMem
  have hNobody :
      l.arrive ((s.submitting bm
        (.pktReceived buffer size o)).filter (fun r =>
          decide (s.ReadsType packetType r))) = l :=
    Line.arrive_nil l
  have hWaits (r : APTR) :
      r ∈ l.waiting ↔ r ∈ s.lists (.bmRxQueue bm) ∧
        s.ReadsType packetType r := by
    rw [hKeeps.waiting, List.mem_filter, decide_eq_true_iff]
  rw [noteReads_of_not_open (by simp), hNobody,
    acceptedPackets_eq hReach]
  by_cases hTaken :
      packetTypeOf buffer = packetType ∧
        ∃ r, s.Takes o buffer bm r
  · rcases hTaken with ⟨hSame, r, hTakes⟩
    have hMem := chosen_mem hTakes.1
    have hHead := head?_of_chosen hType hSame hTakes.1
    rw [← hKeeps.waiting] at hHead
    rcases List.head?_eq_some_iff.mp hHead with ⟨ks, hFirst⟩
    have hNodup : l.waiting.Nodup := by
      rw [hKeeps.waiting]
      exact ((waits_of_reach hReach).orderly.once _).filter _
    rw [hFirst, List.nodup_cons] at hNodup
    have hHanded :
        ((s.chosen buffer bm).toList.filter
          o.callFilterHook).map (fun _ => (buffer, size)) =
            [(buffer, size)] := by
      rw [hTakes.1]
      simp [hTakes.2]
    rw [if_pos hSame, hHanded]
    apply hKeeps.fair.serve (buffer, size) hFirst
    · exact fun hOut => (hDue r hMem).mp hOut hTakes
    · intro r' hIn
      have hMem' : r' ∈ s.lists (.bmRxQueue bm) :=
        ((hWaits r').mp
          (hFirst ▸ List.mem_cons_of_mem r hIn)).1
      apply (hDue r' hMem').mpr
      rintro ⟨hChosen, -⟩
      rw [hTakes.1] at hChosen
      cases hChosen
      exact hNodup.1 hIn
  · have hStay :
        ∀ r ∈ l.waiting, Outstanding r
          (s.next (.pktReceived buffer size o)).log := by
      intro r hIn
      rcases (hWaits r).mp hIn with ⟨hMem, hReads⟩
      apply (hDue r hMem).mpr
      intro hTakes
      apply hTaken
      have hMatches := typeMatches_of_chosen hTakes.1
      exact ⟨(typeMatches_iff _ hType hReads).mp hMatches,
        r, hTakes⟩
    have hNone :
        (if packetTypeOf buffer = packetType then
          ((s.chosen buffer bm).toList.filter
            o.callFilterHook).map (fun _ => (buffer, size))
        else []) = [] := by
      by_cases hSame : packetTypeOf buffer = packetType
      · rw [if_pos hSame]
        cases hChosen : s.chosen buffer bm with
        | none => rfl
        | some r =>
            have hRefused : ¬ o.callFilterHook r = true :=
              fun hHook => hTaken ⟨hSame, r, hChosen, hHook⟩
            simp [hRefused]
      · exact if_neg hSame
    rw [hNone, Line.hand_nil, Line.settle_of_stay _ hStay]
    exact hKeeps.fair

theorem noteReads_openDevice
    {env : OpenEnv}
    {s2unit s2flags : ULONG}
    {ios2 : APTR}
    (s' : Driver) :
    noteReads bm packetType l s
        (.openDevice ios2 s2unit s2flags env) s' =
      (if bm ∉ s.unit.buffMgmt ∧ bm ∈ s'.unit.buffMgmt then
        Line.empty
      else l).settle (fun r => Outstanding r s'.log) .left := by
  refine Eq.trans (Line.hand_nil _) ?_
  exact congrArg (Line.settle · _ _) (Line.arrive_nil _)

/- An open begins a new line, or leaves the line alone. -/
theorem KeepsOrder.openDevice
    {env : OpenEnv}
    {s2unit s2flags : ULONG}
    {ios2 : APTR}
    (hReach : deviceMachine.Reach Machine.Free s)
    (hAllowed :
      Op.Allowed s (.openDevice ios2 s2unit s2flags env))
    (hType : 1500#16 < packetType)
    (hKeeps : KeepsOrder bm packetType s l) :
    KeepsOrder bm packetType
      (s.next (.openDevice ios2 s2unit s2flags env))
      (noteReads bm packetType l s
        (.openDevice ios2 s2unit s2flags env)
        (s.next (.openDevice ios2 s2unit s2flags env))) := by
  have hOpens :
      OpensQueue bm s
        (s.next (.openDevice ios2 s2unit s2flags env)) :=
    opensQueue_deviceOpen ios2 s2unit s2flags hAllowed.2.2
  have hTypes :
      ∀ r ∈ (s.next (.openDevice ios2 s2unit s2flags
          env)).lists (.bmRxQueue bm),
        ((s.next (.openDevice ios2 s2unit s2flags
          env)).ReadsType packetType r ↔
            s.ReadsType packetType r) :=
    fun _ hMem => readsType_next hReach hAllowed hType hMem
  have hCon := conserved_of_reach hReach
  rw [noteReads_openDevice]
  generalize s.next (.openDevice ios2 s2unit s2flags env) = s'
    at hOpens hTypes ⊢
  rcases hOpens.queue with ⟨hKnown, hQueue⟩ | ⟨hNew, hQueue⟩
  · rw [if_neg (fun hNew => hNew.1 (hKnown hNew.2)),
      Line.settle_of_stay]
    · refine ⟨hKeeps.fair, ?_⟩
      rw [hKeeps.waiting, hQueue]
      apply List.filter_congr
      intro r hMem
      exact decide_eq_decide.mpr
        (hTypes r (hQueue.symm ▸ hMem)).symm
    · intro r hIn
      rw [hKeeps.waiting] at hIn
      rw [hOpens.log]
      exact hCon.outstanding (List.mem_filter.mp hIn).1
  · rw [if_pos hNew]
    refine ⟨Line.fair_empty, ?_⟩
    rw [hQueue]
    rfl

theorem KeepsOrder.next
    (hReach : deviceMachine.Reach Machine.Free s)
    (hAllowed : op.Allowed s)
    (hType : 1500#16 < packetType)
    (hKeeps : KeepsOrder bm packetType s l) :
    KeepsOrder bm packetType (s.next op)
      (noteReads bm packetType l s op (s.next op)) := by
  cases op with
  | openDevice ios2 s2unit s2flags env =>
      exact hKeeps.openDevice hReach hAllowed hType
  | pktReceived buffer size o =>
      exact
        ⟨fair_noteReads_pktReceived hReach hAllowed hType
            hKeeps,
          waiting_noteReads hReach hAllowed (by simp) hType
            hKeeps⟩
  | _ =>
      exact
        ⟨fair_noteReads (by simp) (by simp) hKeeps.fair _,
          waiting_noteReads hReach hAllowed (by simp) hType
            hKeeps⟩

theorem reach_of_readLines
    {p : Driver × Line APTR RxPacket}
    (hReach : (readLines bm packetType).Reach Machine.Free p) :
    deviceMachine.Reach Machine.Free p.1 :=
  Machine.Reach.unrecorded (M := deviceMachine)
    (C := Machine.Free) hReach

theorem keepsOrder_of_reach
    {p : Driver × Line APTR RxPacket}
    (hType : 1500#16 < packetType)
    (hReach :
      (readLines bm packetType).Reach Machine.Free p) :
    KeepsOrder bm packetType p.1 p.2 := by
  induction hReach with
  | start hStart =>
      rcases hStart with ⟨hStart, hBlank⟩
      rw [hBlank]
      refine ⟨Line.fair_empty, ?_⟩
      rw [hStart.2.1]
      rfl
  | step hReach hAllowed _ ih =>
      exact ih.next (reach_of_readLines hReach) hAllowed hType

end Order

------------------------------------------------------------
-- Order of Delivery
------------------------------------------------------------

/-
  Each opener is offered a packet at most once, at its oldest
  matching read; and over a run the packets of a type above
  1500 that its reads were offered and accepted went, in
  order, to its reads of that type that were not ended
  otherwise, in the order in which they were submitted.
-/
theorem delivery_in_order :
    (∀ s : Driver, s.ReadsWait →
      ∀ o buffer size,
        OffersInOrder o buffer size s
          (onPktReceived o buffer size s)) ∧
    ∀ (bm : APTR) (packetType : UWORD), 1500#16 < packetType →
      ∀ s l, (readLines bm packetType).Reach Machine.Free
          (s, l) →
        s.ReadsWait ∧ KeepsOrder bm packetType s l ∧
          ∀ k, k < l.handed.length →
            (Line.turns l.arrivals)[k]? =
              some (l.handed[k]?) := by
  refine ⟨fun s hWait => hWait.offersInOrder, ?_⟩
  intro bm packetType hType s l hReach
  have hKeeps := keepsOrder_of_reach hType hReach
  exact ⟨ReadsWait.of_reach (reach_of_readLines hReach),
    hKeeps, fun _ hHanded => hKeeps.fair.turn hHanded⟩

/- A packet of the type 0x800. -/
def ipPacket (i : Nat) : UBYTE :=
  if i = 12 then 8#8 else 0#8

/- Two reads are submitted, and two packets received. -/
def twoReads : List Op :=
  onlineSteps ++
    submitSteps 20
      { plainRequest cmdRead with packetType := 0x800#32 } ++
    submitSteps 21
      { plainRequest cmdRead with packetType := 0x800#32 } ++
    [.pktReceived ipPacket 60#16 plainOutcome,
      .pktReceived ipPacket 61#16 plainOutcome]

instance (bm : APTR) (packetType : UWORD) (ops : List Op)
    (p : Driver × Line APTR RxPacket) :
    Decidable ((readLines bm packetType).Runs Machine.Free
      ops p) :=
  Machine.decidableRuns (readLines bm packetType) Machine.Free
    (fun p op => inferInstanceAs (Decidable (op.Allowed p.1)))
    (fun _ _ => isTrue trivial) ops p

theorem delivery_in_order_twoReads :
    ∃ s l, (readLines 40 0x800#16).Reach Machine.Free (s, l) ∧
      l.handed.map Prod.snd = [60#16, 61#16] ∧
      l.arrivals.map Prod.fst = [20, 21] ∧
      ∀ k, k < l.handed.length →
        (Line.turns l.arrivals)[k]? = some (l.handed[k]?) := by
  have hRun :
      (readLines 40 0x800#16).Reach Machine.Free
        ((readLines 40 0x800#16).run twoReads
          (loadedDriver (idleRegisters 0#16), Line.empty)) := by
    apply Machine.reach_run
    · exact .start ⟨start_loadedDriver _, rfl⟩
    · decide +kernel
  refine ⟨_, _, hRun, ?_, ?_, ?_⟩
  · decide +kernel
  · decide +kernel
  · exact (delivery_in_order.2 40 0x800#16 (by decide) _ _
      hRun).2.2

end KszDriver
