import KszDriver.Device.Delivery

/-
  What becomes of one packet: which requests it is offered
  to, how these end, and that all others are left alone.

  Main declarations:
    * `packetStory`, `Outcome.reading`
    * `Served`, `served_fulfillReadIORequest`
    * `AsksExactly`, `asksExactly_askOpeners`
    * `Driver.chosen`, `DispatchesExactly`
    * `dispatchesExactly_onPktReceived`
-/

------------------------------------------------------------
-- Offers
------------------------------------------------------------

namespace KszDriver

open Driver

/- The event is about a packet for this request, or ends the
   request. -/
def Event.ConcernsPacketOf (ios2 : APTR) : Event → Prop
| .terminated other _ => other = ios2
| .offered _ other _ => other = ios2
| .copiedToBuffer other _ => other = ios2
| _ => False

instance decidableConcernsPacketOf (ios2 : APTR) :
    (event : Event) → Decidable (event.ConcernsPacketOf ios2)
| .terminated other _ | .offered _ other _
| .copiedToBuffer other _ =>
    inferInstanceAs (Decidable (other = ios2))
| .submitted _ | .queued _ _ | .fired _
| .copiedFromBuffer _ _ | .sent _ _ =>
    isFalse id

/- The part of the history that is about packets for this
   request, and about its end. -/
def packetStory (ios2 : APTR) (log : List Event) :
    List Event :=
  log.filter (fun event =>
    decide (event.ConcernsPacketOf ios2))

/- The request that was offered a packet from this list. -/
def Event.offeredFrom (head : ListHead) : Event → Option APTR
| .offered other ios2 _ => if other = head then some ios2 else none
| _ => none

/- The requests that were offered packets from this list. -/
def offeredFrom (head : ListHead) (log : List Event) :
    List APTR :=
  log.filterMap (Event.offeredFrom head)

/- How a request ends that a packet is taken for. -/
def Outcome.endedRequest
    (o : Outcome)
    (ios2 : APTR)
    (buffer : Memory)
    (size : UWORD)
    (req : IOSana2Req) : IOSana2Req :=
  if o.copyToBuffer ios2 then describePacket buffer size req
  else
    { describePacket buffer size req with
      ioError := s2errNoResources
      wireError := s2werrBuffError }

/- What an offer to a request leaves in the history. -/
def Outcome.reading
    (o : Outcome)
    (head : ListHead)
    (ios2 : APTR)
    (buffer : Memory)
    (size : UWORD)
    (req : IOSana2Req) : List Event :=
  if o.callFilterHook ios2 then
    if o.copyToBuffer ios2 then
      [.terminated ios2 (o.endedRequest ios2 buffer size req),
        .offered head ios2 true,
        .copiedToBuffer ios2 (deliveredBytes buffer size req)]
    else
      [.terminated ios2 (o.endedRequest ios2 buffer size req),
        .offered head ios2 false]
  else [.offered head ios2 false]

section Stories

variable {ios2 : APTR} {event : Event} {head : ListHead}

theorem packetStory_cons_of_concerns
    (hConcerns : event.ConcernsPacketOf ios2)
    (log : List Event) :
    packetStory ios2 (event :: log) =
      event :: packetStory ios2 log :=
  List.filter_cons_of_pos (by simpa using hConcerns)

theorem packetStory_cons_of_not_concerns
    (hOther : ¬ event.ConcernsPacketOf ios2)
    (log : List Event) :
    packetStory ios2 (event :: log) = packetStory ios2 log :=
  List.filter_cons_of_neg (by simpa using hOther)

theorem packetStory_termIo (s : Driver) (ios2 : APTR) :
    packetStory ios2 (s.termIo ios2).log =
      .terminated ios2 (s.reqs ios2) ::
        packetStory ios2 s.log := by
  have hConcerns :
      (Event.terminated ios2
        (s.reqs ios2)).ConcernsPacketOf ios2 := rfl
  rw [log_termIo, packetStory_cons_of_concerns hConcerns]

theorem packetStory_termIo_of_ne
    (s : Driver)
    {other : APTR}
    (hOther : other ≠ ios2) :
    packetStory ios2 (s.termIo other).log =
      packetStory ios2 s.log := by
  have hNot :
      ¬ (Event.terminated other
        (s.reqs other)).ConcernsPacketOf ios2 := hOther
  rw [log_termIo, packetStory_cons_of_not_concerns hNot]

theorem offeredFrom_append (newer older : List Event) :
    offeredFrom head (newer ++ older) =
      offeredFrom head newer ++ offeredFrom head older :=
  List.filterMap_append

/- Without offers, none is counted. -/
theorem offeredFrom_of_noOffer
    {newer : List Event}
    (hNone : ∀ event ∈ newer, event.NoOffer) :
    offeredFrom head newer = [] := by
  apply List.filterMap_eq_nil_iff.mpr
  intro event hMem
  have hNoOffer := hNone event hMem
  cases event with
  | offered other r accepted =>
      exact absurd rfl (hNoOffer other r accepted)
  | _ => rfl

theorem offeredFrom_cons_offered
    (head' : ListHead)
    (ios2 : APTR)
    (accepted : Bool)
    (log : List Event) :
    offeredFrom head' (.offered head ios2 accepted :: log) =
      (if head = head' then [ios2] else []) ++
        offeredFrom head' log := by
  by_cases hHead : head = head'
  · simp [offeredFrom, Event.offeredFrom, hHead]
  · simp [offeredFrom, Event.offeredFrom, hHead]

theorem offeredFrom_termIo (s : Driver) (ios2 : APTR) :
    offeredFrom head (s.termIo ios2).log =
      offeredFrom head s.log := by
  rw [log_termIo]
  rfl

theorem offeredFrom_doEvent (events : ULONG) (s : Driver) :
    offeredFrom head (s.doEvent events).log =
      offeredFrom head s.log := by
  rcases grows_doEvent events s with ⟨newer, hGrows, hEvents⟩
  unfold GrowsBy at hGrows
  rw [hGrows, offeredFrom_append,
    offeredFrom_of_noOffer (fun event hMem =>
      (hEvents event hMem).noOffer)]
  rfl

/- Firing an event concerns no packet but of those waiting for
   it. -/
theorem packetStory_doEventLoop
    {s : Driver}
    {rs : List APTR}
    (events : ULONG)
    (hOther : ios2 ∉ rs) :
    packetStory ios2 (doEventLoop events rs s).log =
      packetStory ios2 s.log := by
  induction rs generalizing s with
  | nil => rfl
  | cons other rs ih =>
      rw [List.mem_cons, not_or] at hOther
      unfold doEventLoop
      split
      · rw [ih hOther.2,
          packetStory_termIo_of_ne _ (Ne.symm hOther.1)]
        rfl
      · exact ih hOther.2

theorem packetStory_doEvent
    {s : Driver}
    (events : ULONG)
    (hOther : ios2 ∉ s.lists .euEvents) :
    packetStory ios2 (s.doEvent events).log =
      packetStory ios2 s.log := by
  have hNot : ¬ (Event.fired events).ConcernsPacketOf ios2 := id
  unfold doEvent
  rw [packetStory_doEventLoop events hOther, log_record,
    packetStory_cons_of_not_concerns hNot]

end Stories

------------------------------------------------------------
-- One Request
------------------------------------------------------------

/- What an offer to one request does. -/
structure Served
    (o : Outcome)
    (head : ListHead)
    (ios2 : APTR)
    (buffer : Memory)
    (size : UWORD)
    (s s' : Driver) : Prop where
  linked : s'.Linked
  story : packetStory ios2 s'.log =
    o.reading head ios2 buffer size (s.reqs ios2) ++
      packetStory ios2 s.log
  others : ∀ r, r ≠ ios2 → r ∉ s.lists .euEvents →
    s'.reqs r = s.reqs r ∧
      packetStory r s'.log = packetStory r s.log
  offered : ∀ head', offeredFrom head' s'.log =
    (if head = head' then [ios2] else []) ++
      offeredFrom head' s.log
  lists : ∀ head', head' ≠ .euEvents →
    s'.lists head' =
      if o.callFilterHook ios2 then (s.lists head').erase ios2
      else s.lists head'
  events : ∀ r ∈ s'.lists .euEvents, r ∈ s.lists .euEvents
  refused : o.callFilterHook ios2 = false →
    s'.reqs ios2 = describePacket buffer size (s.reqs ios2)

/- What it does to all other requests and lists. -/
structure ServedElsewhere
    (head : ListHead)
    (ios2 : APTR)
    (s s' : Driver) : Prop where
  others : ∀ r, r ≠ ios2 → r ∉ s.lists .euEvents →
    s'.reqs r = s.reqs r ∧
      packetStory r s'.log = packetStory r s.log
  offered : ∀ head', head' ≠ head →
    offeredFrom head' s'.log = offeredFrom head' s.log
  lists : ∀ head', head' ≠ head → head' ≠ .euEvents →
    s'.lists head' = s.lists head'

section Serving

variable {o : Outcome} {s : Driver} {ios2 : APTR}
variable {head : ListHead}

theorem Served.elsewhere
    {buffer : Memory}
    {size : UWORD}
    {s' : Driver}
    (hLinked : s.Linked)
    (hMem : ios2 ∈ s.lists head)
    (hServed : Served o head ios2 buffer size s s') :
    ServedElsewhere head ios2 s s' where
  others := hServed.others
  offered := by
    intro head' hOther
    rw [hServed.offered, if_neg (Ne.symm hOther)]
    rfl
  lists := by
    intro head' hOther hNoEvent
    rw [hServed.lists head' hNoEvent]
    split
    · apply List.erase_of_not_mem
      exact fun hIn =>
        hOther (hLinked.apart _ _ ios2 hIn hMem)
    · rfl

/- The filter refuses. -/
theorem served_refused
    (buffer : Memory)
    (size : UWORD)
    (hLinked : s.Linked)
    (hFilter : o.callFilterHook ios2 = false) :
    Served o head ios2 buffer size s
      ((s.setReq ios2 (describePacket buffer size)).record
        (.offered head ios2 false)) where
  linked := hLinked.congr rfl
  story := by
    have hConcerns :
        (Event.offered head ios2 false).ConcernsPacketOf ios2 :=
      rfl
    unfold Outcome.reading
    rw [if_neg (by simp [hFilter]), log_record,
      packetStory_cons_of_concerns hConcerns]
    rfl
  others := by
    intro r hOther _
    have hNot :
        ¬ (Event.offered head ios2 false).ConcernsPacketOf r :=
      fun hSame => hOther hSame.symm
    rw [reqs_record, reqs_setReq, if_neg hOther, log_record,
      packetStory_cons_of_not_concerns hNot]
    exact ⟨rfl, rfl⟩
  offered := fun head' =>
    offeredFrom_cons_offered head' ios2 false s.log
  lists := by
    intro head' _
    rw [if_neg (by simp [hFilter])]
    rfl
  events := fun _ hMem => hMem
  refused := by
    intro _
    rw [reqs_record, reqs_setReq, if_pos rfl]

/- The packet is copied. -/
theorem served_copied
    (buffer : Memory)
    (size : UWORD)
    (hLinked : s.Linked)
    (hFilter : o.callFilterHook ios2 = true)
    (hCopy : o.copyToBuffer ios2 = true) :
    Served o head ios2 buffer size s
      (((((s.setReq ios2 (describePacket buffer size)).record
        (.copiedToBuffer ios2
          (deliveredBytes buffer size (s.reqs ios2)))).record
        (.offered head ios2 true)).remove ios2).termIo ios2)
      where
  linked := by
    apply hLinked.remove.congr
    rw [lists_termIo]
    rfl
  story := by
    have hOffered :
        (Event.offered head ios2 true).ConcernsPacketOf ios2 :=
      rfl
    have hCopied :
        (Event.copiedToBuffer ios2 (deliveredBytes buffer size
          (s.reqs ios2))).ConcernsPacketOf ios2 :=
      rfl
    unfold Outcome.reading Outcome.endedRequest
    rw [if_pos hFilter, if_pos hCopy, if_pos hCopy,
      packetStory_termIo, log_remove, log_record,
      packetStory_cons_of_concerns hOffered, log_record,
      packetStory_cons_of_concerns hCopied, reqs_remove,
      reqs_record, reqs_record, reqs_setReq, if_pos rfl]
    rfl
  others := by
    intro r hOther _
    have hOffered :
        ¬ (Event.offered head ios2 true).ConcernsPacketOf r :=
      fun hSame => hOther hSame.symm
    have hCopied :
        ¬ (Event.copiedToBuffer ios2 (deliveredBytes buffer size
          (s.reqs ios2))).ConcernsPacketOf r :=
      fun hSame => hOther hSame.symm
    rw [reqs_termIo_of_ne _ _ _ hOther, reqs_remove,
      reqs_record, reqs_record, reqs_setReq, if_neg hOther,
      packetStory_termIo_of_ne _ (Ne.symm hOther), log_remove,
      log_record, packetStory_cons_of_not_concerns hOffered,
      log_record, packetStory_cons_of_not_concerns hCopied]
    exact ⟨rfl, rfl⟩
  offered := by
    intro head'
    rw [offeredFrom_termIo]
    exact offeredFrom_cons_offered head' ios2 true _
  lists := by
    intro head' _
    rw [if_pos hFilter, lists_termIo, lists_remove]
    rfl
  events := by
    intro r hMem
    rw [lists_termIo] at hMem
    exact List.mem_of_mem_erase hMem
  refused := by
    intro hRefused
    rw [hFilter] at hRefused
    cases hRefused

/- The packet cannot be copied; the event is fired. -/
theorem served_failed
    (buffer : Memory)
    (size : UWORD)
    (hLinked : s.Linked)
    (hMem : ios2 ∈ s.lists head)
    (hHead : head ≠ .euEvents)
    (hFilter : o.callFilterHook ios2 = true)
    (hCopy : o.copyToBuffer ios2 = false) :
    Served o head ios2 buffer size s
      ((((((s.setReq ios2 (describePacket buffer size)).record
        (.offered head ios2 false)).setErrorOnRequest ios2
          s2errNoResources s2werrBuffError).doEvent
            s2eventBuff).remove ios2).termIo ios2) := by
  have hOffered :
      (Event.offered head ios2 false).ConcernsPacketOf ios2 :=
    rfl
  have hNoEvent : ios2 ∉ s.lists .euEvents := fun hEvent =>
    hHead (hLinked.apart _ _ ios2 hMem hEvent)
  have hFailed :
      (((s.setReq ios2 (describePacket buffer size)).record
        (.offered head ios2 false)).setErrorOnRequest ios2
          s2errNoResources s2werrBuffError).Linked :=
    hLinked.congr rfl
  have hOwn :
      (((s.setReq ios2 (describePacket buffer size)).record
        (.offered head ios2 false)).setErrorOnRequest ios2
          s2errNoResources s2werrBuffError).reqs ios2 =
        o.endedRequest ios2 buffer size (s.reqs ios2) := by
    unfold Outcome.endedRequest setErrorOnRequest
    rw [if_neg (by simp [hCopy]), reqs_setReq, if_pos rfl,
      reqs_record, reqs_setReq, if_pos rfl]
  have hReqs :
      ∀ r, r ≠ ios2 →
        (((s.setReq ios2 (describePacket buffer size)).record
          (.offered head ios2 false)).setErrorOnRequest ios2
            s2errNoResources s2werrBuffError).reqs r =
          s.reqs r := by
    intro r hOther
    unfold setErrorOnRequest
    rw [reqs_setReq, if_neg hOther, reqs_record, reqs_setReq,
      if_neg hOther]
  have hLists :
      (((s.setReq ios2 (describePacket buffer size)).record
        (.offered head ios2 false)).setErrorOnRequest ios2
          s2errNoResources s2werrBuffError).lists = s.lists :=
    rfl
  have hLog :
      (((s.setReq ios2 (describePacket buffer size)).record
        (.offered head ios2 false)).setErrorOnRequest ios2
          s2errNoResources s2werrBuffError).log =
        .offered head ios2 false :: s.log := rfl
  generalize ((s.setReq ios2
    (describePacket buffer size)).record
      (.offered head ios2 false)).setErrorOnRequest ios2
        s2errNoResources s2werrBuffError = failed
    at hFailed hOwn hReqs hLists hLog ⊢
  have hSpares (r : APTR) (hNot : r ∉ s.lists .euEvents) :
      Spares r failed (failed.doEvent s2eventBuff) := by
    apply spares_doEvent
    rw [hLists]
    exact hNot
  exact
    { linked := by
        apply (linked_doEvent s2eventBuff hFailed).remove.congr
        rw [lists_termIo]
      story := by
        unfold Outcome.reading
        rw [if_pos hFilter, if_neg (by simp [hCopy]),
          packetStory_termIo, reqs_remove,
          (hSpares ios2 hNoEvent).reqs, hOwn, log_remove,
          packetStory_doEvent s2eventBuff (by
            rw [hLists]
            exact hNoEvent), hLog,
          packetStory_cons_of_concerns hOffered]
        rfl
      others := by
        intro r hOther hNot
        have hNone :
            ¬ (Event.offered head ios2 false).ConcernsPacketOf
              r :=
          fun hSame => hOther hSame.symm
        rw [reqs_termIo_of_ne _ _ _ hOther, reqs_remove,
          (hSpares r hNot).reqs, hReqs r hOther,
          packetStory_termIo_of_ne _ (Ne.symm hOther),
          log_remove, packetStory_doEvent s2eventBuff (by
            rw [hLists]
            exact hNot), hLog,
          packetStory_cons_of_not_concerns hNone]
        exact ⟨rfl, rfl⟩
      offered := by
        intro head'
        rw [offeredFrom_termIo, log_remove,
          offeredFrom_doEvent, hLog]
        exact offeredFrom_cons_offered head' ios2 false s.log
      lists := by
        intro head' hOther
        rw [if_pos hFilter, lists_termIo, lists_remove,
          lists_doEvent_of_ne s2eventBuff hFailed hOther,
          hLists]
      events := by
        intro r hIn
        rw [lists_termIo] at hIn
        have hFired := List.mem_of_mem_erase hIn
        rw [(firesExactly_doEvent s2eventBuff hFailed).lists,
          hLists] at hFired
        exact (List.mem_filter.mp hFired).1
      refused := by
        intro hRefused
        rw [hFilter] at hRefused
        cases hRefused }

theorem served_fulfillReadIORequest
    (buffer : Memory)
    (size : UWORD)
    (hLinked : s.Linked)
    (hMem : ios2 ∈ s.lists head)
    (hHead : head ≠ .euEvents)
    (hBm : (s.reqs ios2).bufferManagement ≠ 0) :
    Served o head ios2 buffer size s
      (fulfillReadIORequest o head ios2 buffer size s).2 := by
  unfold fulfillReadIORequest
  rw [if_pos hBm]
  dsimp only
  cases hFilter : o.callFilterHook ios2 with
  | false => exact served_refused buffer size hLinked hFilter
  | true =>
      cases hCopy : o.copyToBuffer ios2 with
      | false =>
          exact served_failed buffer size hLinked hMem hHead
            hFilter hCopy
      | true =>
          exact served_copied buffer size hLinked hFilter hCopy

/- A request without a buffer management is passed over. -/
theorem servedElsewhere_fulfillReadIORequest
    (o : Outcome)
    (buffer : Memory)
    (size : UWORD)
    (hLinked : s.Linked)
    (hMem : ios2 ∈ s.lists head)
    (hHead : head ≠ .euEvents) :
    ServedElsewhere head ios2 s
      (fulfillReadIORequest o head ios2 buffer size s).2 := by
  by_cases hBm : (s.reqs ios2).bufferManagement ≠ 0
  · exact (served_fulfillReadIORequest buffer size hLinked hMem
      hHead hBm).elsewhere hLinked hMem
  · unfold fulfillReadIORequest
    rw [if_neg hBm]
    exact
      { others := by
          intro r hOther _
          have hNot :
              ¬ (Event.offered head ios2
                false).ConcernsPacketOf r :=
            fun hSame => hOther hSame.symm
          exact ⟨rfl, packetStory_cons_of_not_concerns hNot _⟩
        offered := by
          intro head' hOther
          rw [log_record, offeredFrom_cons_offered,
            if_neg (Ne.symm hOther)]
          rfl
        lists := fun _ _ _ => rfl }

end Serving

------------------------------------------------------------
-- All Openers
------------------------------------------------------------

/- The packet is taken for this request of the list. -/
def TakenFor
    (o : Outcome)
    (buffer : Memory)
    (head : ListHead)
    (s : Driver)
    (r : APTR) : Prop :=
  firstMatching (packetTypeOf buffer) head s = some r ∧
    o.callFilterHook r = true

instance (o : Outcome) (buffer : Memory) (head : ListHead)
    (s : Driver) (r : APTR) :
    Decidable (TakenFor o buffer head s r) := by
  unfold TakenFor
  infer_instance

/-
  Each of the openers was asked for its oldest matching
  request, and nobody else was concerned.
-/
structure AsksExactly
    (o : Outcome)
    (buffer : Memory)
    (size : UWORD)
    (bms : List APTR)
    (s s' : Driver) : Prop where
  linked : s'.Linked
  served : ∀ bm ∈ bms, ∀ r,
    firstMatching (packetTypeOf buffer) (.bmRxQueue bm) s =
        some r →
      packetStory r s'.log =
          o.reading (.bmRxQueue bm) r buffer size (s.reqs r) ++
            packetStory r s.log ∧
        (o.callFilterHook r = false →
          s'.reqs r = describePacket buffer size (s.reqs r))
  spared : ∀ r, r ∉ s.lists .euEvents →
    (∀ bm ∈ bms, firstMatching (packetTypeOf buffer)
      (.bmRxQueue bm) s ≠ some r) →
        s'.reqs r = s.reqs r ∧
          packetStory r s'.log = packetStory r s.log
  offered : ∀ bm,
    offeredFrom (.bmRxQueue bm) s'.log =
      (if bm ∈ bms then
        (firstMatching (packetTypeOf buffer) (.bmRxQueue bm)
          s).toList
      else []) ++ offeredFrom (.bmRxQueue bm) s.log
  queues : ∀ bm,
    s'.lists (.bmRxQueue bm) =
      (s.lists (.bmRxQueue bm)).filter (fun r =>
        decide (¬ (bm ∈ bms ∧
          TakenFor o buffer (.bmRxQueue bm) s r)))
  orphans : s'.lists .euReadOrphan = s.lists .euReadOrphan
  events : ∀ r ∈ s'.lists .euEvents, r ∈ s.lists .euEvents

section Asking

variable {o : Outcome} {buffer : Memory} {size : UWORD}
variable {s s' s'' : Driver} {bm r : APTR} {bms : List APTR}

theorem asksExactly_nil (hLinked : s.Linked) :
    AsksExactly o buffer size [] s s where
  linked := hLinked
  served := fun _ hNone => absurd hNone List.not_mem_nil
  spared := fun _ _ _ => ⟨rfl, rfl⟩
  offered := fun _ => rfl
  queues := by
    intro bm
    simp
  orphans := rfl
  events := fun _ hMem => hMem

/- An opener without a matching request is passed over. -/
theorem AsksExactly.cons_none
    (hNone :
      firstMatching (packetTypeOf buffer) (.bmRxQueue bm) s =
        none)
    (hAsks : AsksExactly o buffer size bms s s') :
    AsksExactly o buffer size (bm :: bms) s s' where
  linked := hAsks.linked
  served := by
    intro bm' hIn r hFirst
    rcases List.mem_cons.mp hIn with rfl | hIn
    · rw [hNone] at hFirst
      cases hFirst
    · exact hAsks.served bm' hIn r hFirst
  spared := fun r hNot hOther =>
    hAsks.spared r hNot (fun bm' hIn =>
      hOther bm' (List.mem_cons_of_mem bm hIn))
  offered := by
    intro bm'
    rw [hAsks.offered]
    by_cases hSame : bm' = bm
    · subst hSame
      simp [hNone]
    · simp [hSame]
  queues := by
    intro bm'
    rw [hAsks.queues]
    apply List.filter_congr
    intro r _
    by_cases hSame : bm' = bm
    · subst hSame
      simp [TakenFor, hNone]
    · simp [hSame]
  orphans := hAsks.orphans
  events := hAsks.events

/- One opener is served, and then the others are asked. -/
theorem AsksExactly.cons_some
    (hLinked : s.Linked)
    (hFirst :
      firstMatching (packetTypeOf buffer) (.bmRxQueue bm) s =
        some r)
    (hNotIn : bm ∉ bms)
    (hServed :
      Served o (.bmRxQueue bm) r buffer size s s')
    (hNext : ∀ bm' ∈ bms,
      firstMatching (packetTypeOf buffer) (.bmRxQueue bm') s' =
        firstMatching (packetTypeOf buffer) (.bmRxQueue bm') s)
    (hAsks : AsksExactly o buffer size bms s' s'') :
    AsksExactly o buffer size (bm :: bms) s s'' := by
  have hMem : r ∈ s.lists (.bmRxQueue bm) :=
    List.mem_of_find?_eq_some hFirst
  have hApart :
      ∀ bm' ∈ bms, ∀ r' ∈ s.lists (.bmRxQueue bm'),
        r' ≠ r := by
    rintro bm' hIn r' hIn' rfl
    have hSame := hLinked.apart _ _ r' hIn' hMem
    cases hSame
    exact hNotIn hIn
  have hNoEvent :
      ∀ bm', ∀ r' ∈ s.lists (.bmRxQueue bm'),
        r' ∉ s.lists .euEvents := by
    intro bm' r' hIn' hEvent
    have hSame := hLinked.apart _ _ r' hIn' hEvent
    cases hSame
  have hRest :
      s''.reqs r = s'.reqs r ∧
        packetStory r s''.log = packetStory r s'.log := by
    apply hAsks.spared
    · exact fun hEvent =>
        hNoEvent bm r hMem (hServed.events r hEvent)
    · intro bm' hIn hAgain
      rw [hNext bm' hIn] at hAgain
      exact hApart bm' hIn r
        (List.mem_of_find?_eq_some hAgain) rfl
  exact
    { linked := hAsks.linked
      served := by
        intro bm' hIn r' hFirst'
        rcases List.mem_cons.mp hIn with rfl | hIn
        · rw [hFirst] at hFirst'
          cases hFirst'
          rw [hRest.2, hRest.1]
          exact ⟨hServed.story, hServed.refused⟩
        · have hMem' : r' ∈ s.lists (.bmRxQueue bm') :=
            List.mem_of_find?_eq_some hFirst'
          have hSame := hServed.others r'
            (hApart bm' hIn r' hMem') (hNoEvent bm' r' hMem')
          have hLater := hAsks.served bm' hIn r' (by
            rw [hNext bm' hIn]
            exact hFirst')
          rw [hSame.1, hSame.2] at hLater
          exact hLater
      spared := by
        intro r' hNot hOther
        have hDiffers : r' ≠ r := by
          rintro rfl
          exact hOther bm List.mem_cons_self hFirst
        have hSame := hServed.others r' hDiffers hNot
        have hLater := hAsks.spared r'
          (fun hEvent => hNot (hServed.events r' hEvent)) (by
            intro bm' hIn
            rw [hNext bm' hIn]
            exact hOther bm' (List.mem_cons_of_mem bm hIn))
        exact ⟨hLater.1.trans hSame.1, hLater.2.trans hSame.2⟩
      offered := by
        intro bm'
        rw [hAsks.offered, hServed.offered]
        by_cases hSame : bm' = bm
        · subst hSame
          simp [hNotIn, hFirst]
        · have hHead :
              ListHead.bmRxQueue bm ≠ .bmRxQueue bm' := by
            simpa using Ne.symm hSame
          by_cases hIn : bm' ∈ bms
          · simp [hSame, hHead, hIn, hNext bm' hIn]
          · simp [hSame, hHead, hIn]
      queues := by
        intro bm'
        rw [hAsks.queues, hServed.lists _ (by simp)]
        by_cases hSame : bm' = bm
        · subst hSame
          by_cases hFilter : o.callFilterHook r = true
          · rw [if_pos hFilter,
              (hLinked.once _).erase_eq_filter,
              List.filter_filter]
            apply List.filter_congr
            intro r' _
            by_cases hOwn : r' = r
            · subst hOwn
              simp [TakenFor, hFirst, hFilter]
            · simp [TakenFor, hFirst, hNotIn, hOwn, Ne.symm hOwn]
          · rw [if_neg hFilter]
            apply List.filter_congr
            intro r' _
            by_cases hOwn : r' = r
            · subst hOwn
              simp [TakenFor, hNotIn, hFilter]
            · simp [TakenFor, hFirst, hNotIn, Ne.symm hOwn]
        · have hKept :
              (if o.callFilterHook r = true then
                (s.lists (.bmRxQueue bm')).erase r
              else s.lists (.bmRxQueue bm')) =
                s.lists (.bmRxQueue bm') := by
            split
            · apply List.erase_of_not_mem
              intro hIn
              have hHead := hLinked.apart _ _ r hIn hMem
              cases hHead
              exact hSame rfl
            · rfl
          rw [hKept]
          apply List.filter_congr
          intro r' _
          by_cases hIn : bm' ∈ bms
          · simp [TakenFor, hSame, hIn, hNext bm' hIn]
          · simp [hSame, hIn]
      orphans := by
        rw [hAsks.orphans, hServed.lists _ (by simp)]
        split
        · apply List.erase_of_not_mem
          intro hIn
          have hHead := hLinked.apart _ _ r hIn hMem
          cases hHead
        · rfl
      events := fun r' hEvent =>
        hServed.events r' (hAsks.events r' hEvent) }

/- An opener is served; the read queues of the others are as
   they were. -/
theorem served_opener
    (o : Outcome)
    (buffer : Memory)
    (size : UWORD)
    (hLinked : s.Linked)
    (hMem : r ∈ s.lists (.bmRxQueue bm))
    (hBm : (s.reqs r).bufferManagement ≠ 0) :
    Served o (.bmRxQueue bm) r buffer size s
        (fulfillReadIORequest o (.bmRxQueue bm) r buffer size
          s).2 ∧
      ∀ bm', bm' ≠ bm →
        firstMatching (packetTypeOf buffer) (.bmRxQueue bm')
            (fulfillReadIORequest o (.bmRxQueue bm) r buffer
              size s).2 =
          firstMatching (packetTypeOf buffer) (.bmRxQueue bm')
            s ∧
        ∀ r' ∈ (fulfillReadIORequest o (.bmRxQueue bm) r buffer
            size s).2.lists (.bmRxQueue bm'),
          r' ∈ s.lists (.bmRxQueue bm') ∧
            (fulfillReadIORequest o (.bmRxQueue bm) r buffer
              size s).2.reqs r' = s.reqs r' := by
  have hServed :=
    served_fulfillReadIORequest (o := o) buffer size hLinked
      hMem (by simp) hBm
  have hAsked :=
    asked_fulfillReadIORequest (o := o) buffer size hLinked
      hMem (by simp)
  refine ⟨hServed, ?_⟩
  intro bm' hOther
  refine ⟨(hAsked.next_opener _ hLinked hMem hOther).1, ?_⟩
  intro r' hIn'
  rw [hAsked.lists (.bmRxQueue bm') (by simpa using hOther)
    (by simp)] at hIn'
  have hDiffers : r' ≠ r := by
    rintro rfl
    have hSame := hLinked.apart _ _ r' hIn' hMem
    cases hSame
    exact hOther rfl
  have hNoEvent : r' ∉ s.lists .euEvents := by
    intro hEvent
    have hSame := hLinked.apart _ _ r' hIn' hEvent
    cases hSame
  exact ⟨hIn', (hServed.others r' hDiffers hNoEvent).1⟩

theorem asksExactly_askOpeners
    (delivered : Bool)
    (hLinked : s.Linked)
    (hNodup : bms.Nodup)
    (hOwn : ∀ bm ∈ bms, ∀ r ∈ s.lists (.bmRxQueue bm),
      (s.reqs r).bufferManagement ≠ 0) :
    AsksExactly o buffer size bms s
      (askOpeners o buffer size bms delivered s).2 := by
  induction bms generalizing s delivered with
  | nil => exact asksExactly_nil hLinked
  | cons bm bms ih =>
      have hNodup' := List.nodup_cons.mp hNodup
      unfold askOpeners
      cases hFirst :
          firstMatching (packetTypeOf buffer) (.bmRxQueue bm)
            s with
      | none =>
          exact AsksExactly.cons_none hFirst
            (ih delivered hLinked hNodup'.2
              (fun bm' hIn =>
                hOwn bm' (List.mem_cons_of_mem bm hIn)))
      | some r =>
          have hMem : r ∈ s.lists (.bmRxQueue bm) :=
            List.mem_of_find?_eq_some hFirst
          rcases served_opener o buffer size hLinked hMem
              (hOwn bm List.mem_cons_self r hMem) with
            ⟨hServed, hOthers⟩
          have hOther : ∀ bm' ∈ bms, bm' ≠ bm := by
            rintro bm' hIn rfl
            exact hNodup'.1 hIn
          refine AsksExactly.cons_some hLinked hFirst hNodup'.1
            hServed ?_ (ih _ hServed.linked hNodup'.2 ?_)
          · intro bm' hIn
            exact (hOthers bm' (hOther bm' hIn)).1
          · intro bm' hIn r' hIn'
            rcases (hOthers bm' (hOther bm' hIn)).2 r' hIn' with
              ⟨hOld, hSame⟩
            rw [hSame]
            exact hOwn bm' (List.mem_cons_of_mem bm hIn) r' hOld

end Asking

------------------------------------------------------------
-- One Packet
------------------------------------------------------------

/- The request of an opener that a packet is offered to: its
   oldest matching one. -/
def Driver.chosen
    (s : Driver) (buffer : Memory) (bm : APTR) :
    Option APTR :=
  if bm ∈ s.unit.buffMgmt then
    firstMatching (packetTypeOf buffer) (.bmRxQueue bm) s
  else none

/- The request is the one that is chosen, and its filter
   accepts the packet. -/
def Driver.Takes
    (s : Driver)
    (o : Outcome)
    (buffer : Memory)
    (bm r : APTR) : Prop :=
  s.chosen buffer bm = some r ∧ o.callFilterHook r = true

instance (s : Driver) (o : Outcome) (buffer : Memory)
    (bm r : APTR) : Decidable (s.Takes o buffer bm r) := by
  unfold Driver.Takes
  infer_instance

/-
  The packet is offered to each opener at most once, to its
  oldest matching request; this request leaves the queue if
  its filter accepts, and all others stay in their order.
-/
structure DispatchesExactly
    (o : Outcome)
    (buffer : Memory)
    (size : UWORD)
    (s s' : Driver) : Prop where
  offered : ∀ bm,
    offeredFrom (.bmRxQueue bm) s'.log =
      (s.chosen buffer bm).toList ++
        offeredFrom (.bmRxQueue bm) s.log
  queues : ∀ bm,
    s'.lists (.bmRxQueue bm) =
      (s.lists (.bmRxQueue bm)).filter (fun r =>
        decide (¬ s.Takes o buffer bm r))
  story : ∀ bm, ∀ r ∈ s.lists (.bmRxQueue bm),
    packetStory r s'.log =
      (if s.chosen buffer bm = some r then
        o.reading (.bmRxQueue bm) r buffer size (s.reqs r)
      else []) ++ packetStory r s.log
  refused : ∀ bm, ∀ r ∈ s.lists (.bmRxQueue bm),
    s.chosen buffer bm = some r →
      o.callFilterHook r = false →
        s'.reqs r = describePacket buffer size (s.reqs r)
  spared : ∀ bm, ∀ r ∈ s.lists (.bmRxQueue bm),
    s.chosen buffer bm ≠ some r → s'.reqs r = s.reqs r

section Dispatching

variable {o : Outcome} {s : Driver}

theorem chosen_mem
    {buffer : Memory}
    {bm r : APTR}
    (hChosen : s.chosen buffer bm = some r) :
    r ∈ s.lists (.bmRxQueue bm) := by
  unfold Driver.chosen at hChosen
  split at hChosen
  · exact List.mem_of_find?_eq_some hChosen
  · cases hChosen

/- A request that an opener is asked for is the one chosen. -/
theorem chosen_of_first
    {buffer : Memory}
    {bm bm' r : APTR}
    (hLinked : s.Linked)
    (hMem : r ∈ s.lists (.bmRxQueue bm))
    (hOpen : bm' ∈ s.unit.buffMgmt)
    (hFirst : firstMatching (packetTypeOf buffer)
      (.bmRxQueue bm') s = some r) :
    s.chosen buffer bm = some r := by
  have hHead := hLinked.apart _ _ r hMem
    (List.mem_of_find?_eq_some hFirst)
  cases hHead
  unfold Driver.chosen
  rw [if_pos hOpen]
  exact hFirst

/- Asking the openers dispatches the packet. -/
theorem AsksExactly.dispatches
    {buffer : Memory}
    {size : UWORD}
    {s' : Driver}
    (hLinked : s.Linked)
    (hAsks : AsksExactly o buffer size s.unit.buffMgmt s s') :
    DispatchesExactly o buffer size s s' where
  offered := by
    intro bm
    rw [hAsks.offered]
    unfold Driver.chosen
    split <;> rfl
  queues := by
    intro bm
    rw [hAsks.queues]
    apply List.filter_congr
    intro r _
    unfold Driver.Takes Driver.chosen TakenFor
    by_cases hOpen : bm ∈ s.unit.buffMgmt
    · simp [hOpen]
    · simp [hOpen]
  story := by
    intro bm r hMem
    by_cases hChosen : s.chosen buffer bm = some r
    · rw [if_pos hChosen]
      unfold Driver.chosen at hChosen
      split at hChosen
      · rename_i hOpen
        exact (hAsks.served bm hOpen r hChosen).1
      · cases hChosen
    · rw [if_neg hChosen]
      refine (hAsks.spared r ?_ ?_).2
      · intro hEvent
        have hSame := hLinked.apart _ _ r hMem hEvent
        cases hSame
      · intro bm' hOpen hFirst
        exact hChosen
          (chosen_of_first hLinked hMem hOpen hFirst)
  refused := by
    intro bm r hMem hChosen hFilter
    unfold Driver.chosen at hChosen
    split at hChosen
    · rename_i hOpen
      exact (hAsks.served bm hOpen r hChosen).2 hFilter
    · cases hChosen
  spared := by
    intro bm r hMem hChosen
    refine (hAsks.spared r ?_ ?_).1
    · intro hEvent
      have hSame := hLinked.apart _ _ r hMem hEvent
      cases hSame
    · intro bm' hOpen hFirst
      exact hChosen (chosen_of_first hLinked hMem hOpen hFirst)

/- The orphan reader is asked afterwards, which concerns no
   reader of an opener. -/
theorem DispatchesExactly.then_elsewhere
    {buffer : Memory}
    {size : UWORD}
    {firstOrphan : APTR}
    {s' s'' : Driver}
    (hLinked : s.Linked)
    (hOrphan : firstOrphan ∈ s.lists .euReadOrphan)
    (hEvents : ∀ r ∈ s'.lists .euEvents,
      r ∈ s.lists .euEvents)
    (hDispatched : DispatchesExactly o buffer size s s')
    (hElsewhere :
      ServedElsewhere .euReadOrphan firstOrphan s' s'') :
    DispatchesExactly o buffer size s s'' := by
  have hOthers :
      ∀ bm, ∀ r ∈ s.lists (.bmRxQueue bm),
        s''.reqs r = s'.reqs r ∧
          packetStory r s''.log = packetStory r s'.log := by
    intro bm r hMem
    apply hElsewhere.others
    · rintro rfl
      have hSame := hLinked.apart _ _ r hMem hOrphan
      cases hSame
    · intro hEvent
      have hSame := hLinked.apart _ _ r hMem (hEvents r hEvent)
      cases hSame
  exact
    { offered := by
        intro bm
        rw [hElsewhere.offered _ (by simp)]
        exact hDispatched.offered bm
      queues := by
        intro bm
        rw [hElsewhere.lists _ (by simp) (by simp)]
        exact hDispatched.queues bm
      story := by
        intro bm r hMem
        rw [(hOthers bm r hMem).2]
        exact hDispatched.story bm r hMem
      refused := by
        intro bm r hMem hChosen hFilter
        rw [(hOthers bm r hMem).1]
        exact hDispatched.refused bm r hMem hChosen hFilter
      spared := by
        intro bm r hMem hChosen
        rw [(hOthers bm r hMem).1]
        exact hDispatched.spared bm r hMem hChosen }

theorem dispatchesExactly_onPktReceived
    (buffer : Memory)
    (size : UWORD)
    (hLinked : s.Linked)
    (hNodup : s.unit.buffMgmt.Nodup)
    (hOwn : ∀ bm ∈ s.unit.buffMgmt,
      ∀ r ∈ s.lists (.bmRxQueue bm),
        (s.reqs r).bufferManagement ≠ 0) :
    DispatchesExactly o buffer size s
      (onPktReceived o buffer size s) := by
  have hAsks :
      AsksExactly o buffer size s.unit.buffMgmt s
        (askOpeners o buffer size s.unit.buffMgmt false s).2 :=
    asksExactly_askOpeners false hLinked hNodup hOwn
  have hDispatched := hAsks.dispatches hLinked
  unfold onPktReceived
  dsimp only
  split
  · exact hDispatched
  · unfold askOrphan
    cases hOrphans :
        (askOpeners o buffer size s.unit.buffMgmt false
          s).2.lists .euReadOrphan with
    | nil => exact hDispatched
    | cons firstOrphan others =>
        have hIn :
            firstOrphan ∈ (askOpeners o buffer size
              s.unit.buffMgmt false s).2.lists
                .euReadOrphan := by
          rw [hOrphans]
          exact List.mem_cons_self
        have hElsewhere :=
          servedElsewhere_fulfillReadIORequest o buffer size
            hAsks.linked hIn (by simp)
        rw [hAsks.orphans] at hIn
        exact hDispatched.then_elsewhere hLinked hIn
          hAsks.events hElsewhere

end Dispatching

end KszDriver
