import KszDriver.Device.Conservation

/-
  Which packets are offered to orphan readers.

  The loop over the openers keeps the result of the last
  opener that had a matching request, so that a refusal by it
  hides that an opener before it took the packet.

  Main declarations:
    * `askedRequests`, `Accepts`
    * `OrphanRule`
    * `orphanRule_iff`
    * `not_orphanRule_of_lastRefuses`
-/

------------------------------------------------------------
-- What Is Offered
------------------------------------------------------------

namespace KszDriver

/- The packet is offered to a request of the list. -/
def Event.OffersTo (head : ListHead) (r : APTR) :
    Event → Prop
| .offered head' r' _ => head' = head ∧ r' = r
| _ => False

/- An opener took the packet. -/
def Event.Fulfilled : Event → Prop
| .offered (.bmRxQueue _) _ accepted => accepted = true
| _ => False

instance (head : ListHead) (r : APTR) (event : Event) :
    Decidable (event.OffersTo head r) := by
  cases event <;> unfold Event.OffersTo <;> infer_instance

instance (event : Event) : Decidable event.Fulfilled := by
  cases event with
  | offered head r accepted =>
      cases head <;> unfold Event.Fulfilled <;> infer_instance
  | _ =>
      unfold Event.Fulfilled
      infer_instance

/- The packet is offered to the first orphan reader exactly
   when no opener took it. -/
def OrphanRule (firstOrphan : APTR) (s s' : Driver) : Prop :=
  (∃ event ∈ s.since s',
      event.OffersTo .euReadOrphan firstOrphan) ↔
    ¬ ∃ event ∈ s.since s', event.Fulfilled

instance (firstOrphan : APTR) (s s' : Driver) :
    Decidable (OrphanRule firstOrphan s s') := by
  unfold OrphanRule
  infer_instance

/- The requests that the openers are asked for, in order. -/
def askedRequests
    (buffer : Memory) (bms : List APTR) (s : Driver) :
    List APTR :=
  bms.filterMap (fun bm =>
    firstMatching (packetTypeOf buffer) (.bmRxQueue bm) s)

/- The opener of a request takes the packet. -/
def Accepts (o : Outcome) (s : Driver) (r : APTR) : Prop :=
  (s.reqs r).bufferManagement ≠ 0 ∧
    o.callFilterHook r = true ∧ o.copyToBuffer r = true

instance (o : Outcome) (s : Driver) (r : APTR) :
    Decidable (Accepts o s r) := by
  unfold Accepts
  infer_instance

------------------------------------------------------------
-- History without Offers
------------------------------------------------------------

/- The event is no offer. -/
def Event.NoOffer (event : Event) : Prop :=
  ∀ head r accepted, event ≠ .offered head r accepted

/- The event is one that `DoEvent` leaves behind. -/
def Event.OfDoEvent : Event → Prop
| .fired _ => True
| .terminated _ _ => True
| _ => False

theorem Event.OfDoEvent.noOffer
    {event : Event}
    (hEvent : event.OfDoEvent) :
    event.NoOffer := by
  rintro head r accepted rfl
  exact hEvent

/- The history grows by `newer`. -/
def GrowsBy (newer : List Event) (s s' : Driver) : Prop :=
  s'.log = newer ++ s.log

theorem GrowsBy.trans
    {first second : List Event}
    {s s' s'' : Driver}
    (hFirst : GrowsBy first s s')
    (hSecond : GrowsBy second s' s'') :
    GrowsBy (second ++ first) s s'' := by
  unfold GrowsBy at hFirst hSecond ⊢
  rw [hSecond, hFirst, List.append_assoc]

/- Events are fired and requests are ended, no more. -/
theorem grows_doEventLoop
    (events : ULONG)
    (rs : List APTR)
    (s : Driver) :
    ∃ newer, GrowsBy newer s (Driver.doEventLoop events rs s) ∧
      ∀ event ∈ newer, event.OfDoEvent := by
  induction rs generalizing s with
  | nil => exact ⟨[], rfl, by simp⟩
  | cons r rs ih =>
      unfold Driver.doEventLoop
      split
      · rcases ih (((s.setErrorOnRequest r 0 events).remove
          r).termIo r) with ⟨newer, hGrows, hEvents⟩
        have hEnded :
            GrowsBy [.terminated r _] s
              (((s.setErrorOnRequest r 0 events).remove
                r).termIo r) :=
          Driver.log_termIo _ r
        refine ⟨_, hEnded.trans hGrows, ?_⟩
        intro event hMem
        rcases List.mem_append.mp hMem with hMem | hMem
        · exact hEvents event hMem
        · rw [List.mem_singleton.mp hMem]
          trivial
      · exact ih s

theorem grows_doEvent (events : ULONG) (s : Driver) :
    ∃ newer, GrowsBy newer s (s.doEvent events) ∧
      ∀ event ∈ newer, event.OfDoEvent := by
  rcases grows_doEventLoop events (s.lists .euEvents)
    (s.record (.fired events)) with ⟨newer, hGrows, hEvents⟩
  have hFired :
      GrowsBy [.fired events] s (s.record (.fired events)) :=
    rfl
  refine ⟨_, hFired.trans hGrows, ?_⟩
  intro event hMem
  rcases List.mem_append.mp hMem with hMem | hMem
  · exact hEvents event hMem
  · rw [List.mem_singleton.mp hMem]
    trivial

------------------------------------------------------------
-- One Request
------------------------------------------------------------

/- What asking one request does. -/
structure Asked
    (o : Outcome)
    (head : ListHead)
    (r : APTR)
    (s : Driver)
    (result : Bool × Driver) : Prop where
  accepted : result.1 = decide (Accepts o s r)
  offered : ∃ newer, GrowsBy newer s result.2 ∧
    ∀ event, ¬ event.NoOffer →
      (event ∈ newer ↔
        event = .offered head r (decide (Accepts o s r)))
  linked : result.2.Linked
  lists : ∀ head', head' ≠ head → head' ≠ .euEvents →
    result.2.lists head' = s.lists head'
  reqs : ∀ r', r' ≠ r → r' ∉ s.lists .euEvents →
    result.2.reqs r' = s.reqs r'

/- Membership of what is added when one offer is made. -/
theorem mem_offer_iff
    {newer : List Event}
    {offer : Event}
    (before after : List Event)
    (hNewer : newer = after ++ offer :: before)
    (hBefore : ∀ event ∈ before, event.NoOffer)
    (hAfter : ∀ event ∈ after, event.NoOffer) :
    ∀ event, ¬ event.NoOffer →
      (event ∈ newer ↔ event = offer) := by
  intro event hOffer
  rw [hNewer, List.mem_append, List.mem_cons]
  constructor
  · rintro (hMem | hSame | hMem)
    · exact absurd (hAfter event hMem) hOffer
    · exact hSame
    · exact absurd (hBefore event hMem) hOffer
  · intro hSame
    exact Or.inr (Or.inl hSame)

theorem grows_termIo (s : Driver) (r : APTR) :
    GrowsBy [.terminated r (s.reqs r)] s (s.termIo r) :=
  Driver.log_termIo s r

section Asking

open Driver

variable {o : Outcome} {s : Driver} {r : APTR}
variable {head : ListHead}

/- An opener that is not interested changes nothing but the
   description of the packet in its request. -/
theorem asked_refused
    (f : IOSana2Req → IOSana2Req)
    (hLinked : s.Linked)
    (hRefuses : ¬ Accepts o s r) :
    Asked o head r s
      (false, (s.setReq r f).record (.offered head r false))
      where
  accepted := by simp [hRefuses]
  offered := by
    refine ⟨[.offered head r false], rfl, ?_⟩
    rw [decide_eq_false hRefuses]
    exact mem_offer_iff [] [] rfl (by simp) (by simp)
  linked := hLinked.congr rfl
  lists := fun _ _ _ => rfl
  reqs := fun r' hOther _ => by
    rw [reqs_record, reqs_setReq, if_neg hOther]

/- An opener takes the packet. -/
theorem asked_taken
    (f : IOSana2Req → IOSana2Req)
    (bytes : List UBYTE)
    (hLinked : s.Linked)
    (hMem : r ∈ s.lists head)
    (hAccepts : Accepts o s r) :
    Asked o head r s
      (true,
        ((((s.setReq r f).record
          (.copiedToBuffer r bytes)).record
            (.offered head r true)).remove r).termIo r) where
  accepted := by simp [hAccepts]
  offered := by
    have hTaken :
        GrowsBy [.offered head r true, .copiedToBuffer r bytes]
          s ((((s.setReq r f).record
            (.copiedToBuffer r bytes)).record
              (.offered head r true)).remove r) := rfl
    refine ⟨_, hTaken.trans (grows_termIo _ r), ?_⟩
    rw [decide_eq_true hAccepts]
    apply mem_offer_iff [.copiedToBuffer r bytes]
      [.terminated r _] rfl
    · simp [Event.NoOffer]
    · simp [Event.NoOffer]
  linked := by
    apply hLinked.remove.congr
    rw [lists_termIo]
    rfl
  lists := fun head' hOther _ => by
    rw [lists_termIo]
    exact hLinked.lists_remove_of_ne hMem hOther
  reqs := fun r' hOther _ => by
    rw [reqs_termIo_of_ne _ _ _ hOther, reqs_remove,
      reqs_record, reqs_record, reqs_setReq, if_neg hOther]

/- The packet cannot be copied; the event is fired. -/
theorem asked_failed
    (f : IOSana2Req → IOSana2Req)
    (ioError : Int)
    (wireError events : ULONG)
    (hLinked : s.Linked)
    (hMem : r ∈ s.lists head)
    (hHead : head ≠ .euEvents)
    (hRefuses : ¬ Accepts o s r) :
    Asked o head r s
      (false,
        ((((((s.setReq r f).record
          (.offered head r false)).setErrorOnRequest r
            ioError wireError).doEvent events).remove
              r).termIo r)) := by
  have hLinked' :
      (((s.setReq r f).record
        (.offered head r false)).setErrorOnRequest r ioError
          wireError).Linked :=
    hLinked.congr rfl
  have hOffered :
      GrowsBy [.offered head r false] s
        (((s.setReq r f).record
          (.offered head r false)).setErrorOnRequest r ioError
            wireError) := rfl
  have hReqs :
      ∀ r', r' ≠ r →
        (((s.setReq r f).record
          (.offered head r false)).setErrorOnRequest r ioError
            wireError).reqs r' = s.reqs r' := by
    intro r' hOther
    unfold setErrorOnRequest
    rw [reqs_setReq, if_neg hOther, reqs_record, reqs_setReq,
      if_neg hOther]
  have hLists :
      (((s.setReq r f).record
        (.offered head r false)).setErrorOnRequest r ioError
          wireError).lists = s.lists := rfl
  generalize ((s.setReq r f).record
    (.offered head r false)).setErrorOnRequest r ioError
      wireError = failed at hLinked' hOffered hReqs hLists ⊢
  have hFired := linked_doEvent events hLinked'
  have hOthers : ∀ head', head' ≠ .euEvents →
      (failed.doEvent events).lists head' = s.lists head' := by
    intro head' hOther
    rw [lists_doEvent_of_ne events hLinked' hOther, hLists]
  have hIn : r ∈ (failed.doEvent events).lists head := by
    rw [hOthers head hHead]
    exact hMem
  rcases grows_doEvent events failed with
    ⟨newer, hGrows, hEvents⟩
  have hTaken :
      GrowsBy [] (failed.doEvent events)
        ((failed.doEvent events).remove r) := rfl
  exact
    { accepted := by simp [hRefuses]
      offered := by
        refine ⟨_, ((hOffered.trans hGrows).trans hTaken).trans
          (grows_termIo _ r), ?_⟩
        rw [decide_eq_false hRefuses]
        apply mem_offer_iff [] (.terminated r _ :: newer) rfl
        · simp
        · intro event hEvent
          rcases List.mem_cons.mp hEvent with rfl | hEvent
          · simp [Event.NoOffer]
          · exact (hEvents event hEvent).noOffer
      linked := by
        apply hFired.remove.congr
        rw [lists_termIo]
      lists := fun head' hOther hOther' => by
        rw [lists_termIo,
          hFired.lists_remove_of_ne hIn hOther,
          hOthers head' hOther']
      reqs := fun r' hOther hNotEvent => by
        rw [reqs_termIo_of_ne _ _ _ hOther, reqs_remove,
          (spares_doEvent failed events (by
            rw [hLists]
            exact hNotEvent)).reqs, hReqs r' hOther] }

theorem asked_fulfillReadIORequest
    (buffer : Memory)
    (size : UWORD)
    (hLinked : s.Linked)
    (hMem : r ∈ s.lists head)
    (hHead : head ≠ .euEvents) :
    Asked o head r s
      (fulfillReadIORequest o head r buffer size s) := by
  unfold fulfillReadIORequest
  by_cases hBm : (s.reqs r).bufferManagement ≠ 0
  · rw [if_pos hBm]
    dsimp only
    by_cases hFilter : o.callFilterHook r = true
    · rw [if_pos hFilter]
      by_cases hCopy : o.copyToBuffer r = true
      · rw [if_pos hCopy]
        exact asked_taken _ _ hLinked hMem
          ⟨hBm, hFilter, hCopy⟩
      · rw [if_neg hCopy]
        exact asked_failed _ _ _ _ hLinked hMem hHead
          (fun hAccepts => hCopy hAccepts.2.2)
    · rw [if_neg hFilter]
      exact asked_refused _ hLinked
        (fun hAccepts => hFilter hAccepts.2.1)
  · rw [if_neg hBm]
    have hSame : s.setReq r id = s := by
      simp [setReq]
    have hRefused :
        Asked o head r s
          (false,
            (s.setReq r id).record (.offered head r false)) :=
      asked_refused id hLinked (fun hAccepts => hBm hAccepts.1)
    rw [hSame] at hRefused
    exact hRefused

------------------------------------------------------------
-- All Openers
------------------------------------------------------------

/- What asking the openers does, the last one counting. -/
structure AskedAll
    (o : Outcome)
    (buffer : Memory)
    (bms : List APTR)
    (delivered : Bool)
    (s : Driver)
    (result : Bool × Driver) : Prop where
  delivered :
    result.1 =
      ((askedRequests buffer bms s).getLast?.map
        (fun r => decide (Accepts o s r))).getD delivered
  offered : ∃ newer, GrowsBy newer s result.2 ∧
    ∀ event, ¬ event.NoOffer →
      (event ∈ newer ↔ ∃ bm ∈ bms, ∃ r,
        firstMatching (packetTypeOf buffer) (.bmRxQueue bm) s =
          some r ∧
        event = .offered (.bmRxQueue bm) r
          (decide (Accepts o s r)))
  linked : result.2.Linked
  orphans :
    result.2.lists .euReadOrphan = s.lists .euReadOrphan

/- The request that is found depends on its list alone. -/
theorem firstMatching_congr
    {s' : Driver}
    {head : ListHead}
    (packetType : UWORD)
    (hLists : s'.lists head = s.lists head)
    (hReqs : ∀ r ∈ s.lists head, s'.reqs r = s.reqs r) :
    firstMatching packetType head s' =
      firstMatching packetType head s := by
  unfold firstMatching
  rw [hLists]
  generalize s.lists head = rs at hReqs
  induction rs with
  | nil => rfl
  | cons r rs ih =>
      rw [List.find?_cons, List.find?_cons,
        hReqs r List.mem_cons_self]
      split
      · rfl
      · exact ih (fun r' hMem =>
          hReqs r' (List.mem_cons_of_mem r hMem))

/- Asking one opener does not concern the next ones. -/
theorem Asked.next_opener
    {bm bm' : APTR}
    {result : Bool × Driver}
    (packetType : UWORD)
    (hLinked : s.Linked)
    (hMem : r ∈ s.lists (.bmRxQueue bm))
    (hAsked : Asked o (.bmRxQueue bm) r s result)
    (hOther : bm' ≠ bm) :
    firstMatching packetType (.bmRxQueue bm') result.2 =
        firstMatching packetType (.bmRxQueue bm') s ∧
      ∀ r' ∈ s.lists (.bmRxQueue bm'),
        (Accepts o result.2 r' ↔ Accepts o s r') := by
  have hHead : ListHead.bmRxQueue bm' ≠ .bmRxQueue bm := by
    simpa using hOther
  have hReqs :
      ∀ r' ∈ s.lists (.bmRxQueue bm'),
        result.2.reqs r' = s.reqs r' := by
    intro r' hIn
    apply hAsked.reqs
    · rintro rfl
      exact hHead (hLinked.apart _ _ r' hIn hMem)
    · intro hEvent
      have hSame := hLinked.apart _ _ r' hIn hEvent
      cases hSame
  constructor
  · exact firstMatching_congr packetType
      (hAsked.lists _ hHead (by simp)) hReqs
  · intro r' hIn
    unfold Accepts
    rw [hReqs r' hIn]

/- The requests that the next openers are asked for. -/
theorem Asked.askedRequests_eq
    {bm : APTR}
    {bms : List APTR}
    {result : Bool × Driver}
    (buffer : Memory)
    (hLinked : s.Linked)
    (hMem : r ∈ s.lists (.bmRxQueue bm))
    (hNotIn : bm ∉ bms)
    (hAsked : Asked o (.bmRxQueue bm) r s result) :
    askedRequests buffer bms result.2 =
        askedRequests buffer bms s ∧
      ∀ r' ∈ askedRequests buffer bms s,
        (Accepts o result.2 r' ↔ Accepts o s r') := by
  have hOther : ∀ bm' ∈ bms, bm' ≠ bm := by
    rintro bm' hIn rfl
    exact hNotIn hIn
  have hNext (bm' : APTR) (hIn : bm' ∈ bms) :=
    hAsked.next_opener (packetTypeOf buffer) hLinked hMem
      (hOther bm' hIn)
  constructor
  · exact List.filterMap_congr (fun bm' hIn =>
      (hNext bm' hIn).1)
  · intro r' hAskedFor
    rcases List.mem_filterMap.mp hAskedFor with
      ⟨bm', hIn, hFirst⟩
    exact (hNext bm' hIn).2 r'
      (List.mem_of_find?_eq_some hFirst)

/- One opener is asked, and then the others. -/
theorem AskedAll.cons
    {buffer : Memory}
    {bm : APTR}
    {bms : List APTR}
    {result final : Bool × Driver}
    {delivered : Bool}
    (hLinked : s.Linked)
    (hFirst :
      firstMatching (packetTypeOf buffer) (.bmRxQueue bm) s =
        some r)
    (hNotIn : bm ∉ bms)
    (hAsked : Asked o (.bmRxQueue bm) r s result)
    (hRest : AskedAll o buffer bms result.1 result.2 final) :
    AskedAll o buffer (bm :: bms) delivered s final := by
  have hMem : r ∈ s.lists (.bmRxQueue bm) :=
    List.mem_of_find?_eq_some hFirst
  have hEq :=
    hAsked.askedRequests_eq buffer hLinked hMem hNotIn
  have hOther : ∀ bm' ∈ bms, bm' ≠ bm := by
    rintro bm' hIn rfl
    exact hNotIn hIn
  have hNext (bm' : APTR) (hIn : bm' ∈ bms) :=
    hAsked.next_opener (packetTypeOf buffer) hLinked hMem
      (hOther bm' hIn)
  exact
    { delivered := by
        have hCons :
            askedRequests buffer (bm :: bms) s =
              r :: askedRequests buffer bms s := by
          simp only [askedRequests, List.filterMap_cons, hFirst]
        rw [hRest.delivered, hEq.1, hCons, List.getLast?_cons,
          hAsked.accepted]
        cases hLast :
            (askedRequests buffer bms s).getLast? with
        | none => rfl
        | some r' =>
            have hSame :=
              hEq.2 r' (List.mem_of_getLast? hLast)
            simp [hSame]
      offered := by
        rcases hAsked.offered with ⟨first, hGrows, hOffers⟩
        rcases hRest.offered with ⟨others, hMore, hOffers'⟩
        refine ⟨_, hGrows.trans hMore, ?_⟩
        intro event hOffer
        rw [List.mem_append, hOffers event hOffer,
          hOffers' event hOffer]
        constructor
        · rintro (⟨bm', hIn, r', hFirst', rfl⟩ | rfl)
          · rw [(hNext bm' hIn).1] at hFirst'
            refine ⟨bm', List.mem_cons_of_mem bm hIn, r',
              hFirst', ?_⟩
            simp [(hNext bm' hIn).2 r'
              (List.mem_of_find?_eq_some hFirst')]
          · exact ⟨bm, List.mem_cons_self, r, hFirst, rfl⟩
        · rintro ⟨bm', hIn, r', hFirst', rfl⟩
          rcases List.mem_cons.mp hIn with rfl | hIn
          · rw [hFirst] at hFirst'
            cases hFirst'
            exact Or.inr rfl
          · refine Or.inl ⟨bm', hIn, r', ?_, ?_⟩
            · rw [(hNext bm' hIn).1]
              exact hFirst'
            · simp [(hNext bm' hIn).2 r'
                (List.mem_of_find?_eq_some hFirst')]
      linked := hRest.linked
      orphans := by
        rw [hRest.orphans]
        exact hAsked.lists _ (by simp) (by simp) }

theorem askedAll_askOpeners
    (buffer : Memory)
    (size : UWORD)
    (bms : List APTR)
    (delivered : Bool)
    (hLinked : s.Linked)
    (hNodup : bms.Nodup) :
    AskedAll o buffer bms delivered s
      (askOpeners o buffer size bms delivered s) := by
  induction bms generalizing s delivered with
  | nil =>
      exact
        { delivered := rfl
          offered := ⟨[], rfl, by simp⟩
          linked := hLinked
          orphans := rfl }
  | cons bm bms ih =>
      have hNodup' := List.nodup_cons.mp hNodup
      unfold askOpeners
      cases hFirst :
          firstMatching (packetTypeOf buffer) (.bmRxQueue bm)
            s with
      | none =>
          have hRest := ih delivered hLinked hNodup'.2
          exact
            { delivered := by
                rw [hRest.delivered]
                simp only [askedRequests, List.filterMap_cons,
                  hFirst]
              offered := by
                rcases hRest.offered with
                  ⟨newer, hGrows, hOffers⟩
                refine ⟨newer, hGrows, ?_⟩
                intro event hOffer
                rw [hOffers event hOffer]
                simp [hFirst]
              linked := hRest.linked
              orphans := hRest.orphans }
      | some r =>
          have hMem : r ∈ s.lists (.bmRxQueue bm) :=
            List.mem_of_find?_eq_some hFirst
          have hAsked :
              Asked o (.bmRxQueue bm) r s
                (fulfillReadIORequest o (.bmRxQueue bm) r buffer
                  size s) :=
            asked_fulfillReadIORequest buffer size hLinked hMem
              (by simp)
          exact AskedAll.cons hLinked hFirst hNodup'.1 hAsked
            (ih _ hAsked.linked hNodup'.2)

------------------------------------------------------------
-- The Rule
------------------------------------------------------------

/- No opener takes the packet, or the last one asked does. -/
def LastAsked
    (o : Outcome)
    (buffer : Memory)
    (s : Driver) : Prop :=
  (∀ r ∈ askedRequests buffer s.unit.buffMgmt s,
    ¬ Accepts o s r) ∨
  ∃ r ∈ (askedRequests buffer s.unit.buffMgmt s).getLast?,
    Accepts o s r

instance (buffer : Memory) :
    Decidable (LastAsked o buffer s) := by
  unfold LastAsked
  infer_instance

/- Some opener takes the packet. -/
def SomeAccepts
    (o : Outcome)
    (buffer : Memory)
    (s : Driver) : Prop :=
  ∃ r ∈ askedRequests buffer s.unit.buffMgmt s, Accepts o s r

/- The offers of one packet: those to the openers, and one to
   the orphan reader if the last opener asked refused. -/
theorem offers_onPktReceived
    {firstOrphan : APTR}
    {others : List APTR}
    (buffer : Memory)
    (size : UWORD)
    (hLinked : s.Linked)
    (hNodup : s.unit.buffMgmt.Nodup)
    (hOrphans : s.lists .euReadOrphan = firstOrphan :: others) :
    ∃ newer accepted,
      GrowsBy newer s (onPktReceived o buffer size s) ∧
      ∀ event, ¬ event.NoOffer →
        (event ∈ newer ↔
          (∃ bm ∈ s.unit.buffMgmt, ∃ r,
            firstMatching (packetTypeOf buffer)
                (.bmRxQueue bm) s = some r ∧
            event = .offered (.bmRxQueue bm) r
              (decide (Accepts o s r))) ∨
          ((askOpeners o buffer size s.unit.buffMgmt false
              s).1 = false ∧
            event = .offered .euReadOrphan firstOrphan
              accepted)) := by
  have hAll :=
    askedAll_askOpeners (o := o) buffer size s.unit.buffMgmt
      false hLinked hNodup
  rcases hAll.offered with ⟨newer, hGrows, hOffers⟩
  unfold onPktReceived
  dsimp only
  cases hDelivered :
      (askOpeners o buffer size s.unit.buffMgmt false s).1 with
  | true =>
      refine ⟨newer, true, hGrows, ?_⟩
      intro event hOffer
      rw [hOffers event hOffer]
      simp
  | false =>
      have hWaits :
          (askOpeners o buffer size s.unit.buffMgmt false
            s).2.lists .euReadOrphan = firstOrphan :: others :=
        hAll.orphans.trans hOrphans
      have hAsked :=
        asked_fulfillReadIORequest (o := o) buffer size
          hAll.linked (hWaits ▸ List.mem_cons_self) (by simp)
      rcases hAsked.offered with ⟨last, hMore, hOffers'⟩
      unfold askOrphan
      rw [hWaits]
      refine ⟨last ++ newer,
        decide (Accepts o (askOpeners o buffer size
          s.unit.buffMgmt false s).2 firstOrphan),
        hGrows.trans hMore, ?_⟩
      intro event hOffer
      rw [List.mem_append, hOffers event hOffer,
        hOffers' event hOffer, Or.comm]
      simp

theorem someFulfilled_iff
    {firstOrphan : APTR}
    {others : List APTR}
    (buffer : Memory)
    (size : UWORD)
    (hLinked : s.Linked)
    (hNodup : s.unit.buffMgmt.Nodup)
    (hOrphans : s.lists .euReadOrphan = firstOrphan :: others) :
    (∃ event ∈ s.since (onPktReceived o buffer size s),
        event.Fulfilled) ↔
      SomeAccepts o buffer s := by
  rcases offers_onPktReceived (o := o) buffer size hLinked
    hNodup hOrphans with ⟨newer, accepted, hGrows, hOffers⟩
  rw [since_of_append hGrows]
  constructor
  · rintro ⟨event, hMem, hFulfilled⟩
    cases event with
    | offered head r taken =>
        rcases (hOffers _ (by simp [Event.NoOffer])).mp hMem with
          ⟨bm, hOpen, r', hFirst, hEvent⟩ | ⟨-, hEvent⟩
        · cases hEvent
          exact ⟨r, List.mem_filterMap.mpr ⟨bm, hOpen, hFirst⟩,
            of_decide_eq_true hFulfilled⟩
        · cases hEvent
          exact hFulfilled.elim
    | _ => exact hFulfilled.elim
  · rintro ⟨r, hAsked, hAccepts⟩
    rcases List.mem_filterMap.mp hAsked with
      ⟨bm, hOpen, hFirst⟩
    refine ⟨.offered (.bmRxQueue bm) r true, ?_, rfl⟩
    apply (hOffers _ (by simp [Event.NoOffer])).mpr
    refine Or.inl ⟨bm, hOpen, r, hFirst, ?_⟩
    rw [decide_eq_true hAccepts]

theorem orphanOffered_iff
    {firstOrphan : APTR}
    {others : List APTR}
    (buffer : Memory)
    (size : UWORD)
    (hLinked : s.Linked)
    (hNodup : s.unit.buffMgmt.Nodup)
    (hOrphans : s.lists .euReadOrphan = firstOrphan :: others) :
    (∃ event ∈ s.since (onPktReceived o buffer size s),
        event.OffersTo .euReadOrphan firstOrphan) ↔
      ¬ ∃ r ∈ (askedRequests buffer s.unit.buffMgmt
          s).getLast?, Accepts o s r := by
  have hAll :=
    askedAll_askOpeners (o := o) buffer size s.unit.buffMgmt
      false hLinked hNodup
  have hLast :
      (askOpeners o buffer size s.unit.buffMgmt false s).1 =
          false ↔
        ¬ ∃ r ∈ (askedRequests buffer s.unit.buffMgmt
          s).getLast?, Accepts o s r := by
    rw [hAll.delivered]
    cases (askedRequests buffer s.unit.buffMgmt s).getLast? with
    | none => simp
    | some r => simp
  rcases offers_onPktReceived (o := o) buffer size hLinked
    hNodup hOrphans with ⟨newer, accepted, hGrows, hOffers⟩
  rw [since_of_append hGrows, ← hLast]
  constructor
  · rintro ⟨event, hMem, hOrphan⟩
    cases event with
    | offered head r taken =>
        rcases (hOffers _ (by simp [Event.NoOffer])).mp hMem with
          ⟨bm, hOpen, r', hFirst, hEvent⟩ | ⟨hRefused, -⟩
        · cases hEvent
          cases hOrphan.1
        · exact hRefused
    | _ => exact hOrphan.elim
  · intro hRefused
    refine ⟨.offered .euReadOrphan firstOrphan accepted, ?_,
      rfl, rfl⟩
    exact (hOffers _ (by simp [Event.NoOffer])).mpr
      (Or.inr ⟨hRefused, rfl⟩)

/-
  Where somebody waits for orphan packets, the rule holds
  exactly when no opener takes the packet or the last one
  asked takes it.
-/
theorem orphanRule_iff
    {firstOrphan : APTR}
    {others : List APTR}
    (buffer : Memory)
    (size : UWORD)
    (hLinked : s.Linked)
    (hNodup : s.unit.buffMgmt.Nodup)
    (hOrphans : s.lists .euReadOrphan = firstOrphan :: others) :
    OrphanRule firstOrphan s (onPktReceived o buffer size s) ↔
      LastAsked o buffer s := by
  unfold OrphanRule LastAsked
  rw [orphanOffered_iff buffer size hLinked hNodup hOrphans,
    someFulfilled_iff buffer size hLinked hNodup hOrphans,
    not_iff_not]
  have hSome :
      (∃ r ∈ (askedRequests buffer s.unit.buffMgmt s).getLast?,
        Accepts o s r) → SomeAccepts o buffer s := by
    rintro ⟨r, hLast, hAccepts⟩
    exact ⟨r, List.mem_of_getLast? hLast, hAccepts⟩
  constructor
  · intro hIff
    by_cases hAny : SomeAccepts o buffer s
    · exact Or.inr (hIff.mpr hAny)
    · refine Or.inl ?_
      intro r hAsked hAccepts
      exact hAny ⟨r, hAsked, hAccepts⟩
  · rintro (hNone | hLast)
    · constructor
      · exact hSome
      · rintro ⟨r, hAsked, hAccepts⟩
        exact absurd hAccepts (hNone r hAsked)
    · exact ⟨hSome, fun _ => hLast⟩

end Asking

/- Two openers, both reading, and an orphan reader. -/
def twoReaders : List Op :=
  onlineSteps ++ [.openDevice 6 0#32 0#32 (plainOpen 41)] ++
    submitSteps 8 (plainRequest cmdRead) ++
    submitSteps 9
      { plainRequest cmdRead with bufferManagement := 41 } ++
    submitSteps 10 (plainRequest s2ReadOrphan)

/- The state of the device with the two openers. -/
def twoReadersDriver : Driver :=
  deviceMachine.run twoReaders
    (loadedDriver (idleRegisters 0x1800#16))

/- A packet that both openers take. -/
theorem orphanRule_bothTake :
    OrphanRule 10 twoReadersDriver
        (onPktReceived plainOutcome (fun _ => 0#8) 64#16
          twoReadersDriver) ↔
      LastAsked plainOutcome (fun _ => 0#8)
        twoReadersDriver := by
  have hReach :
      deviceMachine.Reach Machine.Free twoReadersDriver :=
    Machine.reach_run _
      (Machine.Reach.start (start_loadedDriver _))
      (by decide +kernel)
  have hOrphans :
      twoReadersDriver.lists .euReadOrphan = 10 :: [] := by
    decide +kernel
  exact orphanRule_iff _ _ (conserved_of_reach hReach).toLinked
    (by decide +kernel) hOrphans

/-
  The first opener takes the packet, the filter of the second
  refuses it: it is offered to the orphan reader as well.
-/
theorem not_orphanRule_of_lastRefuses :
    deviceMachine.Reach Machine.Free twoReadersDriver ∧
      (twoReadersDriver.lists .euReadOrphan).head? = some 10 ∧
      ¬ OrphanRule 10 twoReadersDriver
        (onPktReceived
          { plainOutcome with callFilterHook := fun r => r ≠ 9 }
          (fun _ => 0#8) 64#16 twoReadersDriver) := by
  refine ⟨?_, by decide +kernel, by decide +kernel⟩
  exact Machine.reach_run _
    (Machine.Reach.start (start_loadedDriver _))
    (by decide +kernel)

end KszDriver
