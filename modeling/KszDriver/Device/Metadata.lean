import KszDriver.Device.DeliveryOrder

/-
  What a request says of a packet.  The description is stored
  before the filter is asked, and flags are only ever set: a
  request that is used again keeps those of packets before.

  Main declarations:
    * `Event.Reports`, `reportedBy_onPktReceived`
    * `Driver.asked`
    * `PacketRecord`, `recordPacket`
    * `DescribesFreshly`
    * `metadata_describes`
    * `not_metadata_describes_reused`
-/

------------------------------------------------------------
-- History of a Packet
------------------------------------------------------------

namespace KszDriver

open Driver

/-
  The event comes from a packet that was offered to these
  requests, or from an event that was fired meanwhile.
-/
def Event.Reports
    (o : Outcome)
    (buffer : Memory)
    (size : UWORD)
    (s : Driver)
    (asked : ListHead → APTR → Prop)
    (event : Event) : Prop :=
  (∃ events, event = .fired events) ∨
    (∃ r ∈ s.lists .euEvents, ∃ req,
      event = .terminated r req) ∨
    ∃ head r, asked head r ∧
      (event = .offered head r false ∨
        (o.copyToBuffer r = false ∧
          ∃ req, event = .terminated r req) ∨
        (Accepts o s r ∧
          event ∈ o.reading head r buffer size (s.reqs r)))

/- The history since then consists of such events. -/
def ReportedBy
    (o : Outcome)
    (buffer : Memory)
    (size : UWORD)
    (asked : ListHead → APTR → Prop)
    (s s' : Driver) : Prop :=
  ∃ newer, GrowsBy newer s s' ∧
    ∀ event ∈ newer, event.Reports o buffer size s asked

section Reports

variable {o : Outcome} {buffer : Memory} {size : UWORD}
variable {s s' s'' : Driver} {ios2 : APTR} {head : ListHead}
variable {asked asked' : ListHead → APTR → Prop}

/- The requests were offered the packet in an earlier state. -/
theorem Event.Reports.earlier
    {event : Event}
    (hReports : event.Reports o buffer size s' asked')
    (hEvents : ∀ r ∈ s'.lists .euEvents,
      r ∈ s.lists .euEvents)
    (hAsked : ∀ head r, asked' head r →
      asked head r ∧ s'.reqs r = s.reqs r) :
    event.Reports o buffer size s asked := by
  rcases hReports with hFired | ⟨r, hMem, hEnded⟩ |
    ⟨head, r, hRead, hEvent⟩
  · exact Or.inl hFired
  · exact Or.inr (Or.inl ⟨r, hEvents r hMem, hEnded⟩)
  · unfold Accepts at hEvent
    rw [(hAsked head r hRead).2] at hEvent
    exact Or.inr (Or.inr
      ⟨head, r, (hAsked head r hRead).1, hEvent⟩)

theorem ReportedBy.trans
    (hFirst : ReportedBy o buffer size asked s s')
    (hSecond : ReportedBy o buffer size asked' s' s'')
    (hEvents : ∀ r ∈ s'.lists .euEvents,
      r ∈ s.lists .euEvents)
    (hAsked : ∀ head r, asked' head r →
      asked head r ∧ s'.reqs r = s.reqs r) :
    ReportedBy o buffer size asked s s'' := by
  rcases hFirst with ⟨older, hOlder, hReports⟩
  rcases hSecond with ⟨newer, hNewer, hReports'⟩
  refine ⟨newer ++ older, hOlder.trans hNewer, ?_⟩
  intro event hMem
  rcases List.mem_append.mp hMem with hIn | hIn
  · exact (hReports' event hIn).earlier hEvents hAsked
  · exact hReports event hIn

/- Firing an event ends only requests that wait for one. -/
theorem grows_doEventLoop_mem
    (events : ULONG)
    (rs : List APTR)
    (s : Driver) :
    ∃ newer, GrowsBy newer s (doEventLoop events rs s) ∧
      ∀ event ∈ newer, ∃ r ∈ rs, ∃ req,
        event = .terminated r req := by
  induction rs generalizing s with
  | nil => exact ⟨[], rfl, by simp⟩
  | cons r rs ih =>
      unfold doEventLoop
      split
      · rcases ih (((s.setErrorOnRequest r 0 events).remove
          r).termIo r) with ⟨newer, hGrows, hEvents⟩
        have hEnded :=
          grows_termIo
            ((s.setErrorOnRequest r 0 events).remove r) r
        refine ⟨_, GrowsBy.trans hEnded hGrows, ?_⟩
        intro event hMem
        rcases List.mem_append.mp hMem with hIn | hIn
        · rcases hEvents event hIn with ⟨r', hIn', hEvent⟩
          exact ⟨r', List.mem_cons_of_mem r hIn', hEvent⟩
        · exact ⟨r, List.mem_cons_self, _,
            List.mem_singleton.mp hIn⟩
      · rcases ih s with ⟨newer, hGrows, hEvents⟩
        refine ⟨newer, hGrows, ?_⟩
        intro event hMem
        rcases hEvents event hMem with ⟨r', hIn', hEvent⟩
        exact ⟨r', List.mem_cons_of_mem r hIn', hEvent⟩

theorem reportedBy_doEvent (events : ULONG) (s : Driver) :
    ReportedBy o buffer size asked s (s.doEvent events) := by
  rcases grows_doEventLoop_mem events (s.lists .euEvents)
    (s.record (.fired events)) with ⟨newer, hGrows, hEvents⟩
  have hFired :
      GrowsBy [.fired events] s (s.record (.fired events)) :=
    rfl
  refine ⟨_, hFired.trans hGrows, ?_⟩
  intro event hMem
  rcases List.mem_append.mp hMem with hIn | hIn
  · exact Or.inr (Or.inl (hEvents event hIn))
  · exact Or.inl ⟨events, List.mem_singleton.mp hIn⟩

theorem ReportedBy.record
    {event : Event}
    (hReports : event.Reports o buffer size s asked)
    (hReported : ReportedBy o buffer size asked s s')
    (hLog : s''.log = event :: s'.log) :
    ReportedBy o buffer size asked s s'' := by
  rcases hReported with ⟨newer, hGrows, hEvents⟩
  refine ⟨event :: newer, ?_, ?_⟩
  · unfold GrowsBy at hGrows ⊢
    rw [hLog, hGrows]
    rfl
  · intro event' hMem
    rcases List.mem_cons.mp hMem with hSame | hIn
    · exact hSame ▸ hReports
    · exact hEvents event' hIn

theorem reportedBy_refl : ReportedBy o buffer size asked s s :=
  ⟨[], rfl, fun _ hMem => absurd hMem List.not_mem_nil⟩

/- What an offer to one request leaves in the history. -/
theorem reportedBy_fulfillReadIORequest
    (o : Outcome)
    (buffer : Memory)
    (size : UWORD)
    (hAsked : asked head ios2) :
    ReportedBy o buffer size asked s
      (fulfillReadIORequest o head ios2 buffer size s).2 := by
  have hRefused :
      (Event.offered head ios2 false).Reports o buffer size s
        asked :=
    Or.inr (Or.inr ⟨head, ios2, hAsked, Or.inl rfl⟩)
  have hOffered
      {s' : Driver}
      (hLog : s'.log = .offered head ios2 false :: s.log) :
      ReportedBy o buffer size asked s s' :=
    reportedBy_refl.record hRefused hLog
  unfold fulfillReadIORequest
  by_cases hBm : (s.reqs ios2).bufferManagement ≠ 0
  · rw [if_pos hBm]
    dsimp only
    by_cases hFilter : o.callFilterHook ios2 = true
    · rw [if_pos hFilter]
      by_cases hCopy : o.copyToBuffer ios2 = true
      · rw [if_pos hCopy]
        refine ⟨o.reading head ios2 buffer size (s.reqs ios2),
          ?_, fun event hMem => Or.inr (Or.inr
            ⟨head, ios2, hAsked, Or.inr (Or.inr
              ⟨⟨hBm, hFilter, hCopy⟩, hMem⟩)⟩)⟩
        unfold GrowsBy Outcome.reading Outcome.endedRequest
        rw [if_pos hFilter, if_pos hCopy, if_pos hCopy]
        dsimp only
        rw [log_termIo, reqs_remove, reqs_record, reqs_record,
          reqs_setReq, if_pos rfl]
        rfl
      · rw [if_neg hCopy]
        dsimp only
        have hMarked :
            ReportedBy o buffer size asked s
              (((s.setReq ios2
                (describePacket buffer size)).record
                (.offered head ios2 false)).setErrorOnRequest
                  ios2 s2errNoResources s2werrBuffError) :=
          hOffered rfl
        have hEvents :
            (((s.setReq ios2
                (describePacket buffer size)).record
                (.offered head ios2 false)).setErrorOnRequest
                  ios2 s2errNoResources
                    s2werrBuffError).lists = s.lists := rfl
        generalize ((s.setReq ios2
          (describePacket buffer size)).record
            (.offered head ios2 false)).setErrorOnRequest ios2
              s2errNoResources s2werrBuffError = failed
          at hMarked hEvents ⊢
        have hFired :
            ReportedBy o buffer size (fun _ _ => False) failed
              (failed.doEvent s2eventBuff) :=
          reportedBy_doEvent s2eventBuff failed
        have hBoth := hMarked.trans hFired
          (by
            rw [hEvents]
            exact fun _ hIn => hIn)
          (fun _ _ hFalse => hFalse.elim)
        exact hBoth.record (Or.inr (Or.inr
          ⟨head, ios2, hAsked, Or.inr (Or.inl
            ⟨by simpa using hCopy, _, rfl⟩)⟩))
          (log_termIo _ ios2)
    · rw [if_neg hFilter]
      exact hOffered rfl
  · rw [if_neg hBm]
    exact hOffered rfl

/- What asking the openers leaves in the history. -/
theorem reportedBy_askOpeners
    {bms : List APTR}
    (o : Outcome)
    (buffer : Memory)
    (size : UWORD)
    (delivered : Bool)
    (hLinked : s.Linked)
    (hNodup : bms.Nodup)
    (hOwn : ∀ bm ∈ bms, ∀ r ∈ s.lists (.bmRxQueue bm),
      (s.reqs r).bufferManagement ≠ 0) :
    ReportedBy o buffer size
      (fun head r => ∃ bm ∈ bms, head = .bmRxQueue bm ∧
        firstMatching (packetTypeOf buffer) head s = some r)
      s (askOpeners o buffer size bms delivered s).2 := by
  induction bms generalizing s delivered with
  | nil => exact reportedBy_refl
  | cons bm bms ih =>
      have hNodup' := List.nodup_cons.mp hNodup
      have hOwn' := fun bm' hIn =>
        hOwn bm' (List.mem_cons_of_mem bm hIn)
      unfold askOpeners
      cases hFirst :
          firstMatching (packetTypeOf buffer) (.bmRxQueue bm)
            s with
      | none =>
          rcases ih delivered hLinked hNodup'.2 hOwn' with
            ⟨newer, hGrows, hEvents⟩
          refine ⟨newer, hGrows, ?_⟩
          intro event hMem
          refine (hEvents event hMem).earlier
            (fun _ hIn => hIn) ?_
          rintro head r ⟨bm', hIn, hHead, hFound⟩
          exact ⟨⟨bm', List.mem_cons_of_mem bm hIn, hHead,
            hFound⟩, rfl⟩
      | some r =>
          have hMem : r ∈ s.lists (.bmRxQueue bm) :=
            List.mem_of_find?_eq_some hFirst
          rcases served_opener o buffer size hLinked hMem
              (hOwn bm List.mem_cons_self r hMem) with
            ⟨hServed, hOthers⟩
          have hOther : ∀ bm' ∈ bms, bm' ≠ bm := by
            rintro bm' hIn rfl
            exact hNodup'.1 hIn
          have hRead :
              ReportedBy o buffer size
                (fun head r => ∃ bm' ∈ bm :: bms,
                  head = .bmRxQueue bm' ∧
                    firstMatching (packetTypeOf buffer) head
                      s = some r)
                s (fulfillReadIORequest o (.bmRxQueue bm) r
                  buffer size s).2 :=
            reportedBy_fulfillReadIORequest o buffer size
              ⟨bm, List.mem_cons_self, rfl, hFirst⟩
          refine hRead.trans (ih _ hServed.linked hNodup'.2 ?_)
            hServed.events ?_
          · intro bm' hIn r' hIn'
            rcases (hOthers bm' (hOther bm' hIn)).2 r' hIn' with
              ⟨hOld, hSame⟩
            rw [hSame]
            exact hOwn' bm' hIn r' hOld
          · rintro head r' ⟨bm', hIn, rfl, hFound⟩
            have hNext := hOthers bm' (hOther bm' hIn)
            have hIn' := List.mem_of_find?_eq_some hFound
            rw [hNext.1] at hFound
            exact ⟨⟨bm', List.mem_cons_of_mem bm hIn, rfl,
              hFound⟩, (hNext.2 r' hIn').2⟩

end Reports

------------------------------------------------------------
-- Whom a Packet Is Offered to
------------------------------------------------------------

/- The request of a list that a packet is offered to.  The
   first orphan reader is asked unless the last opener that
   was asked takes the packet. -/
def Driver.asked
    (s : Driver) (o : Outcome) (buffer : Memory) :
    ListHead → Option APTR
| .bmRxQueue bm => s.chosen buffer bm
| .euReadOrphan =>
    if ∃ r ∈ (askedRequests buffer s.unit.buffMgmt
        s).getLast?, Accepts o s r then none
    else (s.lists .euReadOrphan).head?
| _ => none

/- The requests that a packet is offered to. -/
def Driver.offeredTo
    (s : Driver) (o : Outcome) (buffer : Memory) :
    List APTR :=
  askedRequests buffer s.unit.buffMgmt s ++
    (s.asked o buffer .euReadOrphan).toList

/- The packet has been described in the request. -/
def Driver.described
    (s : Driver)
    (buffer : Memory)
    (size : UWORD)
    (r : APTR) : IOSana2Req :=
  if (s.reqs r).bufferManagement ≠ 0 then
    describePacket buffer size (s.reqs r)
  else s.reqs r

section Offered

variable {o : Outcome} {buffer : Memory} {size : UWORD}
variable {s : Driver} {r : APTR} {head : ListHead}

theorem asked_mem
    (hAsked : s.asked o buffer head = some r) :
    r ∈ s.lists head := by
  cases head with
  | bmRxQueue bm => exact chosen_mem hAsked
  | euReadOrphan =>
      simp only [Driver.asked] at hAsked
      split at hAsked
      · cases hAsked
      · exact List.mem_of_head? hAsked
  | _ => cases hAsked

theorem asked_mem_offeredTo
    (hAsked : s.asked o buffer head = some r) :
    r ∈ s.offeredTo o buffer := by
  unfold Driver.offeredTo
  cases head with
  | bmRxQueue bm =>
      have hChosen : s.chosen buffer bm = some r := hAsked
      unfold Driver.chosen at hChosen
      split at hChosen
      · rename_i hOpen
        exact List.mem_append_left _
          (List.mem_filterMap.mpr ⟨bm, hOpen, hChosen⟩)
      · cases hChosen
  | euReadOrphan =>
      rw [hAsked]
      exact List.mem_append_right _ List.mem_cons_self
  | _ => cases hAsked

/- The orphan reader is asked where no opener was the last to
   take the packet. -/
theorem asked_euReadOrphan
    (o : Outcome)
    (buffer : Memory)
    (size : UWORD)
    (hWait : s.ReadsWait) :
    s.asked o buffer .euReadOrphan =
      if (askOpeners o buffer size s.unit.buffMgmt false s).1
      then none
      else (s.lists .euReadOrphan).head? := by
  have hAll :=
    askedAll_askOpeners (o := o) buffer size s.unit.buffMgmt
      false hWait.toLinked hWait.openers
  unfold Driver.asked
  rw [hAll.delivered]
  cases (askedRequests buffer s.unit.buffMgmt s).getLast? with
  | none => simp
  | some r => simp

/- When the orphan reader is asked, it is as it was. -/
theorem reqs_orphan_askOpeners
    (o : Outcome)
    (buffer : Memory)
    (size : UWORD)
    (hWait : s.ReadsWait)
    (hMem : r ∈ s.lists .euReadOrphan) :
    (askOpeners o buffer size s.unit.buffMgmt false s).2.reqs
      r = s.reqs r := by
  have hAsks :
      AsksExactly o buffer size s.unit.buffMgmt s
        (askOpeners o buffer size s.unit.buffMgmt false s).2 :=
    asksExactly_askOpeners false hWait.toLinked hWait.openers
      hWait.ofOpener
  refine (hAsks.spared r ?_ ?_).1
  · intro hEvent
    have hSame := hWait.apart _ _ r hMem hEvent
    cases hSame
  · intro bm _ hFirst
    have hSame := hWait.apart _ _ r hMem
      (List.mem_of_find?_eq_some hFirst)
    cases hSame

/- The history of a packet. -/
theorem reportedBy_onPktReceived
    (o : Outcome)
    (buffer : Memory)
    (size : UWORD)
    (hWait : s.ReadsWait) :
    ReportedBy o buffer size
      (fun head r => s.asked o buffer head = some r)
      s (onPktReceived o buffer size s) := by
  have hAsks :
      AsksExactly o buffer size s.unit.buffMgmt s
        (askOpeners o buffer size s.unit.buffMgmt false s).2 :=
    asksExactly_askOpeners false hWait.toLinked hWait.openers
      hWait.ofOpener
  have hOpeners :
      ReportedBy o buffer size
        (fun head r => s.asked o buffer head = some r) s
        (askOpeners o buffer size s.unit.buffMgmt false
          s).2 := by
    rcases reportedBy_askOpeners o buffer size false
        hWait.toLinked hWait.openers hWait.ofOpener with
      ⟨newer, hGrows, hEvents⟩
    refine ⟨newer, hGrows, ?_⟩
    intro event hMem
    refine (hEvents event hMem).earlier (fun _ hIn => hIn) ?_
    rintro head r ⟨bm, hOpen, rfl, hFound⟩
    refine ⟨?_, rfl⟩
    show s.chosen buffer bm = some r
    unfold Driver.chosen
    rw [if_pos hOpen]
    exact hFound
  have hOrphan := asked_euReadOrphan o buffer size hWait
  unfold onPktReceived
  dsimp only
  split
  · exact hOpeners
  · rename_i hRefused
    rw [if_neg hRefused] at hOrphan
    unfold askOrphan
    rw [hAsks.orphans]
    cases hOrphans : s.lists .euReadOrphan with
    | nil => exact hOpeners
    | cons firstOrphan others =>
        rw [hOrphans] at hOrphan
        have hIn : firstOrphan ∈ s.lists .euReadOrphan := by
          rw [hOrphans]
          exact List.mem_cons_self
        have hRead :
            ReportedBy o buffer size
              (fun head r =>
                head = .euReadOrphan ∧ r = firstOrphan)
              (askOpeners o buffer size s.unit.buffMgmt false
                s).2
              (fulfillReadIORequest o .euReadOrphan firstOrphan
                buffer size
                (askOpeners o buffer size s.unit.buffMgmt false
                  s).2).2 :=
          reportedBy_fulfillReadIORequest o buffer size
            ⟨rfl, rfl⟩
        refine hOpeners.trans hRead hAsks.events ?_
        rintro head r ⟨rfl, rfl⟩
        exact
          ⟨hOrphan,
            reqs_orphan_askOpeners o buffer size hWait hIn⟩

/- A request whose filter refuses the packet stays where it is
   and is described all the same. -/
theorem refused_onPktReceived
    (size : UWORD)
    (hWait : s.ReadsWait)
    (hAsked : s.asked o buffer head = some r)
    (hFilter : o.callFilterHook r = false) :
    r ∈ (onPktReceived o buffer size s).lists head ∧
      (onPktReceived o buffer size s).reqs r =
        s.described buffer size r := by
  have hMem := asked_mem hAsked
  have hDispatched :=
    dispatchesExactly_onPktReceived (o := o) buffer size
      hWait.toLinked hWait.openers hWait.ofOpener
  cases head with
  | bmRxQueue bm =>
      have hChosen : s.chosen buffer bm = some r := hAsked
      have hBm : (s.reqs r).bufferManagement ≠ 0 := by
        unfold Driver.chosen at hChosen
        split at hChosen
        · rename_i hOpen
          exact hWait.ofOpener bm hOpen r hMem
        · cases hChosen
      unfold Driver.described
      rw [if_pos hBm, hDispatched.queues]
      refine ⟨List.mem_filter.mpr ⟨hMem, ?_⟩,
        hDispatched.refused bm r hMem hChosen hFilter⟩
      simp [Driver.Takes, hFilter]
  | euReadOrphan =>
      have hAsks :
          AsksExactly o buffer size s.unit.buffMgmt s
            (askOpeners o buffer size s.unit.buffMgmt false
              s).2 :=
        asksExactly_askOpeners false hWait.toLinked
          hWait.openers hWait.ofOpener
      have hSame :=
        reqs_orphan_askOpeners o buffer size hWait hMem
      have hOrphan := asked_euReadOrphan o buffer size hWait
      rw [hAsked] at hOrphan
      unfold onPktReceived Driver.described
      dsimp only
      split
      · rename_i hTaken
        rw [if_pos hTaken] at hOrphan
        cases hOrphan
      · rename_i hRefused
        rw [if_neg hRefused] at hOrphan
        rcases List.head?_eq_some_iff.mp hOrphan.symm with
          ⟨others, hOrphans⟩
        unfold askOrphan
        rw [hAsks.orphans, hOrphans]
        dsimp only
        rw [← hAsks.orphans] at hMem
        generalize (askOpeners o buffer size s.unit.buffMgmt
          false s).2 = s' at hSame hMem hAsks ⊢
        unfold fulfillReadIORequest
        rw [hSame]
        by_cases hBm : (s.reqs r).bufferManagement ≠ 0
        · rw [if_pos hBm, if_pos hBm]
          dsimp only
          rw [if_neg (by simp [hFilter])]
          refine ⟨hMem, ?_⟩
          rw [reqs_record, reqs_setReq, if_pos rfl, hSame]
        · rw [if_neg hBm, if_neg hBm]
          exact ⟨hMem, hSame⟩
  | _ => cases hAsked

end Offered

------------------------------------------------------------
-- Records of Packets
------------------------------------------------------------

/- A packet that was delivered: its destination, and the
   request as it was terminated. -/
structure Delivery where
  dstAddr : MacAddr
  req : IOSana2Req

/- A packet that a filter refused: what the request says of
   packets before and after, and whether it is still there. -/
structure Refusal where
  before : PacketInfo
  after : PacketInfo
  queued : Bool

/- What has been delivered and refused in a run. -/
structure PacketRecord where
  deliveries : List Delivery
  refusals : List Refusal

def PacketRecord.blank : PacketRecord where
  deliveries := []
  refusals := []

/- The event copies a packet to this request. -/
def Event.CopiesTo (ios2 : APTR) : Event → Prop
| .copiedToBuffer other _ => other = ios2
| _ => False

instance decidableCopiesTo (ios2 : APTR) :
    (event : Event) → Decidable (event.CopiesTo ios2)
| .copiedToBuffer other _ =>
    inferInstanceAs (Decidable (other = ios2))
| .submitted _ | .queued _ _ | .terminated _ _ | .fired _
| .offered _ _ _ | .copiedFromBuffer _ _ | .sent _ _ =>
    isFalse id

/- A request to which the packet was copied is terminated. -/
def Event.delivery
    (dstAddr : MacAddr) (since : List Event) :
    Event → Option Delivery
| .terminated ios2 req =>
    if ∃ event ∈ since, event.CopiesTo ios2 then
      some { dstAddr := dstAddr, req := req }
    else none
| _ => none

/- A packet is offered and refused by the filter. -/
def Event.refusal (o : Outcome) (s s' : Driver) :
    Event → Option Refusal
| .offered head ios2 _ =>
    if o.callFilterHook ios2 = false then
      some
        { before := (s.reqs ios2).packetInfo
          after := (s'.reqs ios2).packetInfo
          queued := decide (ios2 ∈ s'.lists head) }
    else none
| _ => none

/- What a step adds to the record. -/
def recordPacket
    (record : PacketRecord) (s : Driver) (op : Op)
    (s' : Driver) : PacketRecord :=
  match op with
  | .pktReceived buffer _ o =>
      { deliveries := record.deliveries ++
          (s.since s').filterMap
            (Event.delivery buffer.macAddr (s.since s'))
        refusals := record.refusals ++
          (s.since s').filterMap (Event.refusal o s s') }
  | _ => record

/- The runs of the device, with a record of the packets. -/
def packetRuns : Machine (Driver × PacketRecord) Op :=
  deviceMachine.recording PacketRecord.blank recordPacket

/- The flags of the request tell what packet it holds. -/
def Delivery.Right (d : Delivery) : Prop :=
  (d.req.ioFlags &&& sana2IofBcast ≠ 0#8 ↔
      IsBroadcast d.dstAddr) ∧
    (d.req.ioFlags &&& sana2IofMcast ≠ 0#8 ↔
      d.dstAddr.memory 0 &&& 1#8 ≠ 0#8 ∧
        ¬ IsBroadcast d.dstAddr)

instance (d : Delivery) : Decidable d.Right := by
  unfold Delivery.Right
  infer_instance

/- The request was left alone. -/
def Refusal.Right (f : Refusal) : Prop :=
  f.after = f.before ∧ f.queued = true

/- What a request says of packets is right in all of them. -/
structure PacketRecord.Right (record : PacketRecord) : Prop
    where
  deliveries : ∀ d ∈ record.deliveries, d.Right
  refusals : ∀ f ∈ record.refusals, f.Right

/- Flags that are set already are those of this packet. -/
def FlagsFit (dstAddr : MacAddr) (ioFlags : UBYTE) : Prop :=
  (ioFlags &&& sana2IofBcast ≠ 0#8 → IsBroadcast dstAddr) ∧
    (ioFlags &&& sana2IofMcast ≠ 0#8 →
      dstAddr.memory 0 &&& 1#8 ≠ 0#8 ∧ ¬ IsBroadcast dstAddr)

instance (dstAddr : MacAddr) (ioFlags : UBYTE) :
    Decidable (FlagsFit dstAddr ioFlags) := by
  unfold FlagsFit
  infer_instance

/- The request says of packets what this one would say. -/
structure AlreadySays
    (buffer : Memory) (size : UWORD) (req : IOSana2Req) :
    Prop where
  dstAddr : req.dstAddr = buffer.macAddr
  srcAddr : req.srcAddr = (buffer.drop 6).macAddr
  packetType : req.packetType =
    (packetTypeOf buffer).setWidth 32
  dataLength : req.dataLength =
    (deliveredLength (decide req.Raw) size).setWidth 32
  ioFlags : req.ioFlags ||| castFlag buffer.macAddr =
    req.ioFlags

/-
  Whoever takes a packet has no flag set of another kind of
  packet, and whoever refuses one says the same already.
-/
def DescribesFreshly (s : Driver) : Op → Prop
| .pktReceived buffer size o =>
    ∀ r ∈ s.offeredTo o buffer,
      (Accepts o s r →
          FlagsFit buffer.macAddr (s.reqs r).ioFlags) ∧
        ((s.reqs r).bufferManagement ≠ 0 →
          o.callFilterHook r = false →
            AlreadySays buffer size (s.reqs r))
| _ => True

instance (buffer : Memory) (size : UWORD) (req : IOSana2Req) :
    Decidable (AlreadySays buffer size req) :=
  decidable_of_iff
    ((∀ i, req.dstAddr i = buffer.macAddr i) ∧
      (∀ i, req.srcAddr i = (buffer.drop 6).macAddr i) ∧
      req.packetType = (packetTypeOf buffer).setWidth 32 ∧
      req.dataLength =
        (deliveredLength (decide req.Raw) size).setWidth 32 ∧
      req.ioFlags ||| castFlag buffer.macAddr = req.ioFlags)
    ⟨fun h => ⟨funext h.1, funext h.2.1, h.2.2.1, h.2.2.2.1,
        h.2.2.2.2⟩,
      fun h => ⟨congrFun h.1, congrFun h.2, h.3, h.4, h.5⟩⟩

instance decidableDescribesFreshly (s : Driver) :
    (op : Op) → Decidable (DescribesFreshly s op)
| .pktReceived buffer size o =>
    inferInstanceAs (Decidable
      (∀ r ∈ s.offeredTo o buffer,
        (Accepts o s r →
            FlagsFit buffer.macAddr (s.reqs r).ioFlags) ∧
          ((s.reqs r).bufferManagement ≠ 0 →
            o.callFilterHook r = false →
              AlreadySays buffer size (s.reqs r))))
| .openDevice _ _ _ _ | .close _ | .expunge | .beginIo _ _
| .abortIo _ | .serviceMsgPort _ | .doEvent _
| .configChanged _ | .clientWrite _ _ | .hardware _ =>
    isTrue trivial

section Records

variable {o : Outcome} {buffer : Memory} {size : UWORD}
variable {s : Driver}

/- Setting one of the two flags leaves the other. -/
theorem bcast_flags (ioFlags : UBYTE) :
    (ioFlags ||| sana2IofBcast) &&& sana2IofBcast ≠ 0#8 ∧
      (ioFlags ||| sana2IofBcast) &&& sana2IofMcast =
        ioFlags &&& sana2IofMcast := by
  revert ioFlags
  decide +kernel

theorem mcast_flags (ioFlags : UBYTE) :
    (ioFlags ||| sana2IofMcast) &&& sana2IofMcast ≠ 0#8 ∧
      (ioFlags ||| sana2IofMcast) &&& sana2IofBcast =
        ioFlags &&& sana2IofBcast := by
  revert ioFlags
  decide +kernel

/- Where no other flag is set, that of the packet tells its
   kind. -/
theorem right_of_flagsFit
    {dstAddr : MacAddr}
    {ioFlags : UBYTE}
    {req : IOSana2Req}
    (hFit : FlagsFit dstAddr ioFlags)
    (hFlags : req.ioFlags = ioFlags ||| castFlag dstAddr) :
    Delivery.Right { dstAddr := dstAddr, req := req } := by
  have hGroup :
      IsBroadcast dstAddr → dstAddr.memory 0 &&& 1#8 ≠ 0#8 := by
    intro hBroadcast
    have hFirst : dstAddr.memory 0 = 255#8 := hBroadcast 0
    rw [hFirst]
    decide
  have hCast :
      castFlag dstAddr =
        if dstAddr.memory 0 &&& 1#8 ≠ 0#8 then
          if IsBroadcast dstAddr then sana2IofBcast
          else sana2IofMcast
        else 0#8 := rfl
  unfold Delivery.Right
  dsimp only
  rw [hFlags, hCast]
  by_cases hBit : dstAddr.memory 0 &&& 1#8 ≠ 0#8
  · rw [if_pos hBit]
    by_cases hBroadcast : IsBroadcast dstAddr
    · have hBoth := bcast_flags ioFlags
      rw [if_pos hBroadcast, hBoth.2]
      refine ⟨iff_of_true hBoth.1 hBroadcast, ?_⟩
      refine iff_of_false ?_ (fun hNot => hNot.2 hBroadcast)
      exact fun hSet => (hFit.2 hSet).2 hBroadcast
    · have hBoth := mcast_flags ioFlags
      rw [if_neg hBroadcast, hBoth.2]
      refine ⟨iff_of_false ?_ hBroadcast,
        iff_of_true hBoth.1 ⟨hBit, hBroadcast⟩⟩
      exact fun hSet => hBroadcast (hFit.1 hSet)
  · rw [if_neg hBit, BitVec.or_zero]
    refine ⟨iff_of_false ?_ (fun hAll => hBit (hGroup hAll)),
      iff_of_false ?_ (fun hNot => hBit hNot.1)⟩
    · exact fun hSet => hBit (hGroup (hFit.1 hSet))
    · exact fun hSet => hBit (hFit.2 hSet).1

/- What is said anew is what was said before. -/
theorem AlreadySays.packetInfo
    {req : IOSana2Req}
    (hSays : AlreadySays buffer size req) :
    (describePacket buffer size req).packetInfo =
      req.packetInfo := by
  unfold describePacket IOSana2Req.packetInfo
  dsimp only
  rw [hSays.ioFlags, ← hSays.dstAddr, ← hSays.srcAddr,
    ← hSays.packetType, ← hSays.dataLength]

/- A packet is copied only to who takes it. -/
theorem Event.Reports.of_copied
    {asked : ListHead → APTR → Prop}
    {event : Event}
    {r : APTR}
    (hReports : event.Reports o buffer size s asked)
    (hCopies : event.CopiesTo r) :
    ∃ head, asked head r ∧ Accepts o s r := by
  rcases hReports with ⟨events, rfl⟩ | ⟨r', -, req, rfl⟩ |
    ⟨head, r', hAsked, rfl | ⟨-, req, rfl⟩ | ⟨hAccepts, hMem⟩⟩
  · exact hCopies.elim
  · exact hCopies.elim
  · exact hCopies.elim
  · exact hCopies.elim
  · unfold Outcome.reading at hMem
    rw [if_pos hAccepts.2.1, if_pos hAccepts.2.2] at hMem
    simp only [List.mem_cons, List.not_mem_nil, or_false]
      at hMem
    rcases hMem with rfl | rfl | rfl
    · exact hCopies.elim
    · exact hCopies.elim
    · have hSame : r' = r := hCopies
      exact ⟨head, hSame ▸ hAsked, hSame ▸ hAccepts⟩

/- Who takes a packet is terminated with its description. -/
theorem Event.Reports.of_terminated
    {asked : ListHead → APTR → Prop}
    {r : APTR}
    {req : IOSana2Req}
    (hReports : (Event.terminated r req).Reports o buffer size
      s asked)
    (hNoEvent : r ∉ s.lists .euEvents)
    (hAccepts : Accepts o s r) :
    req = describePacket buffer size (s.reqs r) := by
  rcases hReports with ⟨events, hEvent⟩ | ⟨r', hMem, req',
      hEvent⟩ | ⟨head, r', -, hEvent | ⟨hCopy, req', hEvent⟩ |
        ⟨hAccepts', hMem⟩⟩
  · cases hEvent
  · cases hEvent
    exact absurd hMem hNoEvent
  · cases hEvent
  · cases hEvent
    have hCopied := hAccepts.2.2
    rw [hCopy] at hCopied
    cases hCopied
  · unfold Outcome.reading Outcome.endedRequest at hMem
    rw [if_pos hAccepts'.2.1, if_pos hAccepts'.2.2,
      if_pos hAccepts'.2.2] at hMem
    simp only [List.mem_cons, List.not_mem_nil, or_false]
      at hMem
    rcases hMem with hEvent | hEvent | hEvent
    · cases hEvent
      rfl
    · cases hEvent
    · cases hEvent

/- An offer is made to whom it is said to be made. -/
theorem Event.Reports.of_offered
    {asked : ListHead → APTR → Prop}
    {head : ListHead}
    {r : APTR}
    {accepted : Bool}
    (hReports : (Event.offered head r accepted).Reports o
      buffer size s asked) :
    asked head r := by
  rcases hReports with ⟨events, hEvent⟩ | ⟨r', -, req,
      hEvent⟩ | ⟨head', r', hAsked, hEvent | ⟨-, req, hEvent⟩ |
        ⟨hAccepts, hMem⟩⟩
  · cases hEvent
  · cases hEvent
  · cases hEvent
    exact hAsked
  · cases hEvent
  · unfold Outcome.reading at hMem
    rw [if_pos hAccepts.2.1, if_pos hAccepts.2.2] at hMem
    simp only [List.mem_cons, List.not_mem_nil, or_false]
      at hMem
    rcases hMem with hEvent | hEvent | hEvent
    · cases hEvent
    · cases hEvent
      exact hAsked
    · cases hEvent

/- Where a packet is copied and the request terminated, its
   flags are those it had and that of the packet. -/
theorem right_of_delivery
    {d : Delivery}
    {event : Event}
    (hWait : s.ReadsWait)
    (hFresh : DescribesFreshly s (.pktReceived buffer size o))
    (hMem : event ∈ s.since (onPktReceived o buffer size s))
    (hDelivery : event.delivery buffer.macAddr
      (s.since (onPktReceived o buffer size s)) = some d) :
    d.Right := by
  rcases reportedBy_onPktReceived o buffer size hWait with
    ⟨newer, hGrows, hEvents⟩
  rw [since_of_append hGrows] at hMem hDelivery
  cases event with
  | terminated r req =>
      simp only [Event.delivery] at hDelivery
      split at hDelivery
      · rename_i hCopied
        cases hDelivery
        rcases hCopied with ⟨event, hIn, hCopies⟩
        rcases (hEvents event hIn).of_copied hCopies with
          ⟨head, hAsked, hAccepts⟩
        have hNoEvent : r ∉ s.lists .euEvents := by
          intro hEvent
          have hSame :=
            hWait.apart _ _ r (asked_mem hAsked) hEvent
          subst hSame
          cases hAsked
        have hReq :=
          (hEvents _ hMem).of_terminated hNoEvent hAccepts
        apply right_of_flagsFit
          ((hFresh r (asked_mem_offeredTo hAsked)).1 hAccepts)
        rw [hReq]
        rfl
      · cases hDelivery
  | _ => cases hDelivery

/- Where the filter refuses, nothing new is said. -/
theorem right_of_refusal
    {f : Refusal}
    {event : Event}
    (hWait : s.ReadsWait)
    (hFresh : DescribesFreshly s (.pktReceived buffer size o))
    (hMem : event ∈ s.since (onPktReceived o buffer size s))
    (hRefusal : event.refusal o s
      (onPktReceived o buffer size s) = some f) :
    f.Right := by
  rcases reportedBy_onPktReceived o buffer size hWait with
    ⟨newer, hGrows, hEvents⟩
  rw [since_of_append hGrows] at hMem
  cases event with
  | offered head r accepted =>
      simp only [Event.refusal] at hRefusal
      split at hRefusal
      · rename_i hFilter
        have hAsked := (hEvents _ hMem).of_offered
        have hStays :=
          refused_onPktReceived size hWait hAsked hFilter
        cases hRefusal
        refine ⟨?_, decide_eq_true hStays.1⟩
        dsimp only
        rw [hStays.2]
        unfold Driver.described
        split
        · rename_i hBm
          exact ((hFresh r (asked_mem_offeredTo hAsked)).2 hBm
            hFilter).packetInfo
        · rfl
      · cases hRefusal
  | _ => cases hRefusal

/- One more step, and the record stays right. -/
theorem PacketRecord.Right.next
    {record : PacketRecord}
    {op : Op}
    (hReach : deviceMachine.Reach Machine.Free s)
    (hFresh : DescribesFreshly s op)
    (hRight : record.Right) :
    (recordPacket record s op (s.next op)).Right := by
  cases op with
  | pktReceived buffer size o =>
      have hWait := ReadsWait.of_reach hReach
      exact
        { deliveries := by
            intro d hMem
            rcases List.mem_append.mp hMem with hOld | hNew
            · exact hRight.deliveries d hOld
            · rcases List.mem_filterMap.mp hNew with
                ⟨event, hIn, hDelivery⟩
              exact right_of_delivery hWait hFresh hIn hDelivery
          refusals := by
            intro f hMem
            rcases List.mem_append.mp hMem with hOld | hNew
            · exact hRight.refusals f hOld
            · rcases List.mem_filterMap.mp hNew with
                ⟨event, hIn, hRefusal⟩
              exact right_of_refusal hWait hFresh hIn hRefusal }
  | _ => exact hRight

end Records

------------------------------------------------------------
-- Runs
------------------------------------------------------------

theorem reach_of_packetRuns
    {p : Driver × PacketRecord}
    (hReach : packetRuns.Reach
      (fun p op => DescribesFreshly p.1 op) p) :
    deviceMachine.Reach Machine.Free p.1 :=
  Machine.Reach.free
    (Machine.Reach.unrecorded (M := deviceMachine)
      (C := DescribesFreshly) hReach)

/-
  In a run in which stale flags are never in the way, and who
  refuses a packet says the same already, all requests that
  were delivered tell what packet they hold, and refused
  packets leave no trace.
-/
theorem metadata_describes
    {p : Driver × PacketRecord}
    (hReach : packetRuns.Reach
      (fun p op => DescribesFreshly p.1 op) p) :
    p.2.Right := by
  induction hReach with
  | start hStart =>
      rw [hStart.2]
      exact
        { deliveries := fun _ hMem =>
            absurd hMem List.not_mem_nil
          refusals := fun _ hMem =>
            absurd hMem List.not_mem_nil }
  | step hReach _ hFresh ih =>
      exact ih.next (reach_of_packetRuns hReach) hFresh

/- A packet to all stations. -/
def broadcastIpPacket (i : Nat) : UBYTE :=
  if i < 6 then 255#8 else ipPacket i

/- A read gets a packet. -/
def oneDelivery : List Op :=
  onlineSteps ++
    submitSteps 20
      { plainRequest cmdRead with packetType := 0x800#32 } ++
    [.pktReceived broadcastIpPacket 60#16 plainOutcome]

instance
    (C : Driver → Op → Prop)
    [hGuard : ∀ s op, Decidable (C s op)]
    (ops : List Op)
    (p : Driver × PacketRecord) :
    Decidable (packetRuns.Runs (fun p op => C p.1 op) ops p) :=
  Machine.decidableRuns packetRuns _
    (fun p op => inferInstanceAs (Decidable (op.Allowed p.1)))
    (fun p op => hGuard p.1 op) ops p

theorem metadata_describes_oneDelivery :
    ∃ p, packetRuns.Reach
        (fun p op => DescribesFreshly p.1 op) p ∧
      p.2.deliveries.length = 1 ∧ p.2.Right := by
  have hReach :
      packetRuns.Reach (fun p op => DescribesFreshly p.1 op)
        (packetRuns.run oneDelivery
          (loadedDriver (idleRegisters 0#16),
            PacketRecord.blank)) := by
    apply Machine.reach_run
    · exact .start ⟨start_loadedDriver _, rfl⟩
    · decide +kernel
  exact ⟨_, hReach, by decide +kernel,
    metadata_describes hReach⟩

/- The client uses the request again as it is. -/
def reusedRequest : List Op :=
  oneDelivery ++
    [.beginIo 20 plainOutcome,
      .pktReceived ipPacket 60#16 plainOutcome]

/- The flag of the first packet is there with the second. -/
theorem not_metadata_describes_reused :
    ∃ p, packetRuns.Reach (fun _ _ => True) p ∧
      ¬ p.2.Right := by
  have hReach :
      packetRuns.Reach (fun _ _ => True)
        (packetRuns.run reusedRequest
          (loadedDriver (idleRegisters 0#16),
            PacketRecord.blank)) := by
    apply Machine.reach_run
    · exact .start ⟨start_loadedDriver _, rfl⟩
    · have hRuns :
          packetRuns.Runs
            (fun p op => Machine.Free p.1 op) reusedRequest
            (loadedDriver (idleRegisters 0#16),
              PacketRecord.blank) := by
        decide +kernel
      exact hRuns
  refine ⟨_, hReach, ?_⟩
  intro hRight
  have hLast := hRight.deliveries
  revert hLast
  decide +kernel

end KszDriver
