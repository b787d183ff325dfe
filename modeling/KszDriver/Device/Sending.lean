import KszDriver.Device.Conservation
import KszDriver.Nic.FrameFormat

/-
  What becomes of a packet in `sendAllPackets`: the one call
  of the low level driver that is made for it, if any, and
  how its request ends.

  Main declarations:
    * `story`
    * `sendCall`
    * `Sent`, `GivenUp`
    * `WriteStep`, `writeStep_next`
-/

------------------------------------------------------------
-- The Story of a Request
------------------------------------------------------------

namespace KszDriver

/- The event is about sending or ending this request. -/
def Event.Concerns (ios2 : APTR) : Event → Prop
| .terminated other _ => other = ios2
| .copiedFromBuffer other _ => other = ios2
| .sent other _ => other = ios2
| _ => False

instance decidableConcerns (ios2 : APTR) :
    (event : Event) → Decidable (event.Concerns ios2)
| .terminated other _ | .copiedFromBuffer other _
| .sent other _ =>
    inferInstanceAs (Decidable (other = ios2))
| .submitted _ | .queued _ _ | .fired _ | .offered _ _ _
| .copiedToBuffer _ _ =>
    isFalse id

/- The part of the history that is about this request. -/
def story (ios2 : APTR) (log : List Event) : List Event :=
  log.filter (fun event => decide (event.Concerns ios2))

theorem story_cons_of_concerns
    {ios2 : APTR}
    {event : Event}
    (hConcerns : event.Concerns ios2)
    (log : List Event) :
    story ios2 (event :: log) = event :: story ios2 log :=
  List.filter_cons_of_pos (by simpa using hConcerns)

theorem story_cons_of_not_concerns
    {ios2 : APTR}
    {event : Event}
    (hOther : ¬ event.Concerns ios2)
    (log : List Event) :
    story ios2 (event :: log) = story ios2 log :=
  List.filter_cons_of_neg (by simpa using hOther)

namespace Driver

theorem story_termIo (s : Driver) (ios2 : APTR) :
    story ios2 (s.termIo ios2).log =
      .terminated ios2 (s.reqs ios2) :: story ios2 s.log := by
  have hConcerns :
      (Event.terminated ios2 (s.reqs ios2)).Concerns ios2 :=
    rfl
  rw [log_termIo, story_cons_of_concerns hConcerns]

theorem story_termIo_of_ne
    (s : Driver)
    {ios2 other : APTR}
    (hOther : other ≠ ios2) :
    story ios2 (s.termIo other).log = story ios2 s.log := by
  have hNot :
      ¬ (Event.terminated other (s.reqs other)).Concerns
        ios2 :=
    hOther
  rw [log_termIo, story_cons_of_not_concerns hNot]

theorem story_doEventLoop
    {s : Driver}
    {ios2 : APTR}
    {rs : List APTR}
    (events : ULONG)
    (hOther : ios2 ∉ rs) :
    story ios2 (doEventLoop events rs s).log =
      story ios2 s.log := by
  induction rs generalizing s with
  | nil => rfl
  | cons other rs ih =>
      rw [List.mem_cons, not_or] at hOther
      unfold doEventLoop
      split
      · rw [ih hOther.2,
          story_termIo_of_ne _ (Ne.symm hOther.1)]
        rfl
      · exact ih hOther.2

/- An event is no part of the story of other requests. -/
theorem story_doEvent
    {s : Driver}
    {ios2 : APTR}
    (events : ULONG)
    (hOther : ios2 ∉ s.lists .euEvents) :
    story ios2 (s.doEvent events).log = story ios2 s.log := by
  have hNot : ¬ (Event.fired events).Concerns ios2 := id
  unfold doEvent
  rw [story_doEventLoop events hOther, log_record,
    story_cons_of_not_concerns hNot]

end Driver

open Driver

------------------------------------------------------------
-- The Call of the Low Level Driver
------------------------------------------------------------

/- The send buffer with a cooked packet copied into it. -/
def cookedBuffer (o : Outcome) (ios2 : APTR) (s : Driver) :
    Memory :=
  ((storeHeader ios2 s).copyFromBuffer o ios2
    etherPacketHeadSize).sendBuffer

/- The call that is made for a packet, if it comes to one. -/
def sendCall (o : Outcome) (ios2 : APTR) (s : Driver) :
    Option (NicM ErrorT) :=
  let req := s.reqs ios2
  let length := req.dataLength.toNat
  let buffer := cookedBuffer o ios2 s
  if req.Raw then
    if length > etherPacketHeadSize ∧
        (o.copyFromBuffer ios2).1 = true then
      some (ksz8851SendPacket
        (s.copyFromBuffer o ios2 0).sendBuffer length)
    else none
  else if length ≤ ethernetMtu then
    match dmaPacketBuffer o ios2 s with
    | some packet =>
        some (ksz8851SendPacketCooked req.dstAddr.memory
          s.unit.stAddr.memory req.packetTypeWord packet
          length)
    | none =>
        if (o.copyFromBuffer ios2).1 = true then
          some (ksz8851SendPacketCooked buffer
            (buffer.drop 6) (buffer.wordAt 12)
            (buffer.drop etherPacketHeadSize) length)
        else none
  else none

/- The events of copying the packet, if it was copied. -/
def Copied (ios2 : APTR) (events : List Event) : Prop :=
  ∀ event ∈ events,
    ∃ copied, event = .copiedFromBuffer ios2 copied

/- Copying terminates nothing. -/
theorem terminations_copied
    {ios2 : APTR}
    {events : List Event}
    (hCopied : Copied ios2 events) :
    terminations ios2 events = [] := by
  induction events with
  | nil => rfl
  | cons event events ih =>
      rcases hCopied event List.mem_cons_self with ⟨copied, rfl⟩
      exact ih (fun event hMem =>
        hCopied event (List.mem_cons_of_mem _ hMem))

/- The call was made; whatever it answered, the request is
   as it was. -/
structure Called
    (p : NicM ErrorT)
    (ios2 : APTR)
    (s s' : Driver) : Prop where
  req : s'.reqs ios2 = s.reqs ios2
  nic : s'.nic = (p.runOn s.nic).2
  lists : s'.lists = s.lists
  story : ∃ copies,
    (∀ event ∈ copies, event = .copiedFromBuffer ios2 true) ∧
      story ios2 s'.log =
        .sent ios2 (p.runOn s.nic).1 ::
          (copies ++ story ios2 s.log)

/- It did not come to a call, and the request says so. -/
structure Dropped (ios2 : APTR) (s s' : Driver) : Prop where
  req : (s'.reqs ios2).ioError ≠ 0
  nic : s'.nic = s.nic
  lists : s'.lists = s.lists
  story : ∃ copies,
    Copied ios2 copies ∧
      story ios2 s'.log = copies ++ story ios2 s.log

section Copying

variable (o : Outcome) (ios2 : APTR) (s : Driver)

theorem called_runSend
    {s₁ : Driver}
    {p : NicM ErrorT}
    (copies : List Event)
    (hCopies : ∀ event ∈ copies,
      event = .copiedFromBuffer ios2 true)
    (hReqs : s₁.reqs = s.reqs)
    (hNic : s₁.nic = s.nic)
    (hLists : s₁.lists = s.lists)
    (hLog : story ios2 s₁.log = copies ++ story ios2 s.log) :
    Called p ios2 s (s₁.runSend ios2 p) where
  req := congrFun hReqs ios2
  nic := by
    show (p.runOn s₁.nic).2 = _
    rw [hNic]
  lists := hLists
  story := by
    have hConcerns :
        (Event.sent ios2 (p.runOn s₁.nic).1).Concerns ios2 :=
      rfl
    refine ⟨copies, hCopies, ?_⟩
    show story ios2 (Event.sent ios2 (p.runOn s₁.nic).1 ::
      s₁.log) = _
    rw [story_cons_of_concerns hConcerns, hLog, hNic]

/- Copying is part of the story. -/
theorem story_copyFromBuffer (offset : Nat) :
    story ios2 (s.copyFromBuffer o ios2 offset).log =
      .copiedFromBuffer ios2 (o.copyFromBuffer ios2).1 ::
        story ios2 s.log := by
  have hConcerns :
      (Event.copiedFromBuffer ios2
        (o.copyFromBuffer ios2).1).Concerns ios2 :=
    rfl
  exact story_cons_of_concerns hConcerns s.log

/- A request that is marked as failed is dropped. -/
theorem dropped_setError
    {s₁ : Driver}
    {ioError : Int}
    (copies : List Event)
    (hError : ioError ≠ 0)
    (hCopies : Copied ios2 copies)
    (hNic : s₁.nic = s.nic)
    (hLists : s₁.lists = s.lists)
    (hLog : story ios2 s₁.log = copies ++ story ios2 s.log) :
    Dropped ios2 s
      (s₁.setErrorOnRequest ios2 ioError s2werrBuffError) where
  req := by
    simp [setErrorOnRequest, hError]
  nic := hNic
  lists := hLists
  story := ⟨copies, hCopies, hLog⟩

end Copying

/- What happens to a packet: one call, or the request is
   dropped with an error. -/
def Handled
    (o : Outcome) (ios2 : APTR) (s s' : Driver) : Prop :=
  (∃ p, sendCall o ios2 s = some p ∧ Called p ios2 s s') ∨
    (sendCall o ios2 s = none ∧ Dropped ios2 s s')

section Sends

variable (o : Outcome) (ios2 : APTR) {s : Driver}

/- One event for a copy that worked. -/
theorem copied_true :
    ∀ event ∈ [Event.copiedFromBuffer ios2 true],
      event = .copiedFromBuffer ios2 true := by
  intro event hMem
  exact List.mem_singleton.mp hMem

theorem copied_singleton (copied : Bool) :
    Copied ios2 [.copiedFromBuffer ios2 copied] := by
  intro event hMem
  exact ⟨copied, List.mem_singleton.mp hMem⟩

theorem copied_nil : Copied ios2 [] := by
  intro event hMem
  exact absurd hMem List.not_mem_nil

theorem handled_sendRaw
    (hRaw : (s.reqs ios2).Raw) :
    Handled o ios2 s (sendRaw o ios2 s) := by
  have hStory := story_copyFromBuffer o ios2 s 0
  unfold Handled sendCall sendRaw
  dsimp only
  rw [if_pos hRaw]
  by_cases hLong :
      (s.reqs ios2).dataLength.toNat > etherPacketHeadSize
  · rw [if_pos hLong]
    cases hCopy : (o.copyFromBuffer ios2).1 with
    | true =>
        rw [hCopy] at hStory
        rw [if_pos ⟨hLong, rfl⟩, if_pos rfl]
        refine Or.inl ⟨_, rfl, ?_⟩
        exact called_runSend ios2 s
          [.copiedFromBuffer ios2 true] (copied_true ios2) rfl
          rfl rfl hStory
    | false =>
        rw [hCopy] at hStory
        rw [if_neg (fun hBoth => Bool.false_ne_true hBoth.2),
          if_neg Bool.false_ne_true]
        refine Or.inr ⟨rfl, ?_⟩
        exact dropped_setError ios2 s
          [.copiedFromBuffer ios2 false] (by decide)
          (copied_singleton ios2 false) rfl rfl hStory
  · rw [if_neg hLong, if_neg (fun hBoth => hLong hBoth.1)]
    refine Or.inr ⟨rfl, ?_⟩
    exact dropped_setError ios2 s [] (by decide)
      (copied_nil ios2) rfl rfl rfl

theorem handled_sendCooked
    (hCooked : ¬ (s.reqs ios2).Raw) :
    Handled o ios2 s (sendCooked o ios2 s) := by
  have hStory :
      story ios2 ((storeHeader ios2 s).copyFromBuffer o ios2
          etherPacketHeadSize).log =
        .copiedFromBuffer ios2 (o.copyFromBuffer ios2).1 ::
          story ios2 s.log :=
    story_copyFromBuffer o ios2 (storeHeader ios2 s)
      etherPacketHeadSize
  unfold Handled sendCall sendCooked
  dsimp only
  rw [if_neg hCooked]
  by_cases hShort :
      (s.reqs ios2).dataLength.toNat ≤ ethernetMtu
  · rw [if_pos hShort, if_pos hShort]
    cases dmaPacketBuffer o ios2 s with
    | some packet =>
        refine Or.inl ⟨_, rfl, ?_⟩
        exact called_runSend ios2 s [] (by simp) rfl rfl rfl
          rfl
    | none =>
        unfold sendCopied
        dsimp only
        cases hCopy : (o.copyFromBuffer ios2).1 with
        | true =>
            rw [hCopy] at hStory
            rw [if_pos rfl, if_pos rfl]
            refine Or.inl ⟨_, rfl, ?_⟩
            exact called_runSend ios2 s
              [.copiedFromBuffer ios2 true] (copied_true ios2)
              rfl rfl rfl hStory
        | false =>
            rw [hCopy] at hStory
            rw [if_neg Bool.false_ne_true,
              if_neg Bool.false_ne_true]
            refine Or.inr ⟨rfl, ?_⟩
            exact dropped_setError ios2 s
              [.copiedFromBuffer ios2 false] (by decide)
              (copied_singleton ios2 false) rfl rfl hStory
  · rw [if_neg hShort, if_neg hShort]
    refine Or.inr ⟨rfl, ?_⟩
    exact dropped_setError ios2 s [] (by decide)
      (copied_nil ios2) rfl rfl rfl

end Sends

------------------------------------------------------------
-- The End of the Request
------------------------------------------------------------

/- The call was made, and the request ended as it was. -/
structure Sent
    (p : NicM ErrorT)
    (ios2 : APTR)
    (req : IOSana2Req)
    (s s' : Driver) : Prop where
  nic : s'.nic = (p.runOn s.nic).2
  story : ∃ copies,
    (∀ event ∈ copies, event = .copiedFromBuffer ios2 true) ∧
      story ios2 s'.log =
        .terminated ios2 req ::
          .sent ios2 (p.runOn s.nic).1 ::
            (copies ++ story ios2 s.log)

/- No call was made, and the request ended in an error. -/
structure GivenUp (ios2 : APTR) (s s' : Driver) : Prop where
  nic : s'.nic = s.nic
  story : ∃ req copies,
    req.ioError ≠ 0 ∧ Copied ios2 copies ∧
      story ios2 s'.log =
        .terminated ios2 req :: (copies ++ story ios2 s.log)

/- The two ways in which sending a packet ends. -/
def Ends
    (o : Outcome) (ios2 : APTR) (s s' : Driver) : Prop :=
  (∃ p, sendCall o ios2 s = some p ∧
    Sent p ios2 (s.reqs ios2) s s') ∨
  (sendCall o ios2 s = none ∧ GivenUp ios2 s s')

/- An event and the reply are all that follows. -/
theorem ends_of_handled
    {o : Outcome}
    {ios2 : APTR}
    {s s₁ s₂ : Driver}
    (hHandled : Handled o ios2 s s₁)
    (hReq : s₂.reqs ios2 = s₁.reqs ios2)
    (hNic : s₂.nic = s₁.nic)
    (hStory : story ios2 s₂.log = story ios2 s₁.log) :
    Ends o ios2 s (s₂.termIo ios2) := by
  have hSame : (s₂.termIo ios2).nic = s₂.nic :=
    nic_of_rest (rest_termIo s₂ ios2)
  rcases hHandled with ⟨p, hCall, hCalled⟩ | ⟨hNone, hDropped⟩
  · rcases hCalled.story with ⟨copies, hCopies, hLog⟩
    refine Or.inl ⟨p, hCall, ?_, copies, hCopies, ?_⟩
    · rw [hSame, hNic, hCalled.nic]
    · rw [story_termIo, hReq, hCalled.req, hStory, hLog]
  · rcases hDropped.story with ⟨copies, hCopies, hLog⟩
    refine Or.inr ⟨hNone, ?_,
      ⟨s₁.reqs ios2, copies, hDropped.req, hCopies, ?_⟩⟩
    · rw [hSame, hNic, hDropped.nic]
    · rw [story_termIo, hReq, hStory, hLog]

theorem ends_sendOne
    {o : Outcome}
    {ios2 : APTR}
    {s : Driver}
    (hFree : ios2 ∉ s.lists .euEvents) :
    Ends o ios2 s (sendOne o ios2 s) := by
  have hHandled :
      Handled o ios2 s
        (if (s.reqs ios2).Raw then sendRaw o ios2 s
          else sendCooked o ios2 s) := by
    by_cases hRaw : (s.reqs ios2).Raw
    · rw [if_pos hRaw]
      exact handled_sendRaw o ios2 hRaw
    · rw [if_neg hRaw]
      exact handled_sendCooked o ios2 hRaw
  have hLists :
      (if (s.reqs ios2).Raw then sendRaw o ios2 s
        else sendCooked o ios2 s).lists = s.lists := by
    split
    · exact lists_sendRaw o ios2 s
    · exact lists_sendCooked o ios2 s
  unfold sendOne
  dsimp only
  generalize (if (s.reqs ios2).Raw then sendRaw o ios2 s
    else sendCooked o ios2 s) = s₁ at hHandled hLists ⊢
  have hFree' : ios2 ∉ s₁.lists .euEvents := by
    rw [hLists]
    exact hFree
  split
  · exact ends_of_handled hHandled
      (spares_doEvent s₁ s2eventBuff hFree').reqs
      (nic_of_rest (rest_doEvent s₁ s2eventBuff))
      (story_doEvent s2eventBuff hFree')
  · exact ends_of_handled hHandled rfl rfl rfl

------------------------------------------------------------
-- Submitting a Write
------------------------------------------------------------

/- The commands that send a packet. -/
def IsWrite (command : UWORD) : Prop :=
  command = cmdWrite ∨ command = s2Broadcast ∨
    command = s2Multicast

instance (command : UWORD) : Decidable (IsWrite command) := by
  unfold IsWrite
  infer_instance

theorem performedNow_of_isWrite
    {command : UWORD}
    (hWrite : IsWrite command) :
    PerformedNow command := by
  rcases hWrite with rfl | rfl | rfl
  all_goals decide

/- Nothing waits in the transmit queue between two steps. -/
def txPolicy : Policy where
  place := fun head _ _ => head ≠ .euTx
  waits := fun _ _ => True
  lost := fun _ => True
  waits_calm := fun _ _ _ => trivial

theorem txPolicy_admits (s : Driver) (ios2 : APTR) :
    txPolicy.Admits s ios2 where
  write := fun _ _ _ => trivial
  read := fun _ _ _ => ⟨by simp [txPolicy], trivial⟩
  orphan := fun _ _ => ⟨by simp [txPolicy], trivial⟩
  event := fun _ => ⟨by simp [txPolicy], trivial⟩

theorem txPolicy_meets (s : Driver) (op : Op) :
    txPolicy.Meets s op := by
  cases op with
  | openDevice ios2 s2unit s2flags env =>
      exact ⟨fun _ _ _ _ => trivial, fun _ _ _ => trivial⟩
  | beginIo ios2 o =>
      exact ⟨fun _ => txPolicy_admits s ios2,
        fun _ => ⟨by simp [txPolicy], trivial⟩⟩
  | serviceMsgPort o =>
      exact fun r _ => txPolicy_admits s r
  | _ => trivial

theorem euTx_of_reach
    {s : Driver}
    (hReach : deviceMachine.Reach Machine.Free s) :
    s.lists .euTx = [] := by
  have hCon : s.Conserved txPolicy [] :=
    hReach.invariant
      (fun _ hStart => Driver.Start.conserved hStart txPolicy)
      (fun s op hAllowed _ hCon =>
        hCon.next hAllowed (txPolicy_meets s op))
  apply List.eq_nil_iff_forall_not_mem.mpr
  intro r hMem
  exact hCon.placed .euTx r hMem rfl

/- A write request as the transmit queue is given it. -/
def writeRequest (req : IOSana2Req) : IOSana2Req :=
  { req with
    ioError := 0
    dstAddr :=
      if req.ioCommand = s2Broadcast then broadcastAddress
      else req.dstAddr
    ioFlags := req.ioFlags &&& ~~~iofQuick
    lnType := ntMessage }

/- The packet is about to be sent. -/
structure Readied (ios2 : APTR) (s s' : Driver) : Prop where
  req : s'.reqs ios2 = writeRequest (s.reqs ios2)
  nic : s'.nic = s.nic
  unit : s'.unit = s.unit
  bms : s'.bms = s.bms
  sendBuffer : s'.sendBuffer = s.sendBuffer
  story : story ios2 s'.log = story ios2 s.log
  free : ios2 ∉ s'.lists .euEvents

/- The request as the switch of `PerformIO` hands it on. -/
def Driver.dispatched (s : Driver) (ios2 : APTR) : Driver :=
  let s :=
    (s.record (.submitted ios2)).setReq ios2
      (fun req => { req with ioError := 0 })
  if (s.reqs ios2).ioCommand = s2Broadcast then
    s.setReq ios2
      (fun req => { req with dstAddr := broadcastAddress })
  else s

theorem deviceBeginIo_of_isWrite
    {o : Outcome}
    {ios2 : APTR}
    {s : Driver}
    (hWrite : IsWrite (s.reqs ios2).ioCommand) :
    deviceBeginIo o ios2 s =
      devCmdWritePacket o ios2 (s.dispatched ios2) := by
  have hNow :
      PerformedNow
        ((s.record (.submitted ios2)).reqs ios2).ioCommand :=
    performedNow_of_isWrite hWrite
  unfold deviceBeginIo
  dsimp only
  rw [if_pos hNow]
  unfold performIo dispatched
  rcases hWrite with hCommand | hCommand | hCommand
  · simp [hCommand, dispatch, cmdWrite, s2Broadcast]
  · simp [hCommand, dispatch, cmdWrite, cmdRead, s2Broadcast,
      broadcastPacket]
  · simp [hCommand, dispatch, cmdWrite, cmdRead, s2Broadcast,
      s2Multicast]

/- Dispatching changes the request alone. -/
structure Dispatched (ios2 : APTR) (s s' : Driver) : Prop where
  req : s'.reqs ios2 =
    { s.reqs ios2 with
      ioError := 0
      dstAddr :=
        if (s.reqs ios2).ioCommand = s2Broadcast then
          broadcastAddress
        else (s.reqs ios2).dstAddr }
  lists : s'.lists = s.lists
  rest : s'.rest = s.rest
  story : KszDriver.story ios2 s'.log =
    KszDriver.story ios2 s.log

theorem dispatched_dispatched (ios2 : APTR) (s : Driver) :
    Dispatched ios2 s (s.dispatched ios2) := by
  have hNot : ¬ (Event.submitted ios2).Concerns ios2 := id
  have hStory := story_cons_of_not_concerns hNot s.log
  unfold dispatched
  dsimp only
  split
  · rename_i hBroadcast
    have hCommand : (s.reqs ios2).ioCommand = s2Broadcast := by
      simpa using hBroadcast
    exact
      { req := by simp [hCommand]
        lists := rfl
        rest := rfl
        story := hStory }
  · rename_i hOther
    have hCommand : (s.reqs ios2).ioCommand ≠ s2Broadcast := by
      simpa using hOther
    exact
      { req := by simp [hCommand]
        lists := rfl
        rest := rfl
        story := hStory }

/- A request in the empty transmit queue is sent at once. -/
theorem sendAllPackets_putMsg
    {o : Outcome}
    {ios2 : APTR}
    {s : Driver}
    (hEmpty : s.lists .euTx = []) :
    sendAllPackets o (s.putMsg .euTx ios2) =
      sendOne o ios2 ((s.putMsg .euTx ios2).remove ios2) := by
  have hQueue : (s.putMsg .euTx ios2).lists .euTx = [ios2] := by
    simp [putMsg, hEmpty]
  unfold sendAllPackets
  rw [hQueue]
  rfl

theorem readied_putMsg
    {ios2 : APTR}
    {s s' : Driver}
    (hDispatched : Dispatched ios2 s s')
    (hFree : ios2 ∉ s.lists .euEvents) :
    Readied ios2 s
      (((s'.setReq ios2 (fun req =>
        { req with
          ioFlags := req.ioFlags &&& ~~~iofQuick
          lnType := ntMessage })).putMsg .euTx ios2).remove
            ios2) where
  req := by
    simp [putMsg, hDispatched.req, writeRequest]
  nic := nic_of_rest hDispatched.rest
  unit := unit_of_rest hDispatched.rest
  bms := congrArg Rest.bms hDispatched.rest
  sendBuffer := congrArg Rest.sendBuffer hDispatched.rest
  story := by
    have hNot : ¬ (Event.queued ios2 .euTx).Concerns ios2 := id
    exact (story_cons_of_not_concerns hNot s'.log).trans
      hDispatched.story
  free := by
    intro hMem
    apply hFree
    rw [← hDispatched.lists]
    exact List.mem_of_mem_erase hMem

/- A packet that is too long is not even queued. -/
theorem givenUp_tooLong
    {ios2 : APTR}
    {s s' : Driver}
    (hDispatched : Dispatched ios2 s s')
    (hFree : ios2 ∉ s.lists .euEvents) :
    GivenUp ios2 s
      ((s'.termWithError ios2 s2errMtuExceeded
        s2werrGenericError).doEvent s2eventTx) := by
  have hFree' :
      ios2 ∉ (s'.termWithError ios2 s2errMtuExceeded
        s2werrGenericError).lists .euEvents := by
    unfold termWithError
    rw [lists_termIo]
    exact hDispatched.lists ▸ hFree
  refine ⟨?_, ?_⟩
  · rw [nic_of_rest (rest_doEvent _ _),
      nic_of_rest (rest_termWithError _ _ _ _),
      nic_of_rest hDispatched.rest]
  · have hError :
        ((s'.setErrorOnRequest ios2 s2errMtuExceeded
          s2werrGenericError).reqs ios2).ioError ≠ 0 := by
      simp [setErrorOnRequest, s2errMtuExceeded]
    refine ⟨_, [], hError, copied_nil ios2, ?_⟩
    rw [story_doEvent s2eventTx hFree', List.nil_append,
      ← hDispatched.story]
    exact story_termIo _ ios2

/- What submitting a write comes to while the unit is online. -/
inductive WriteStep
    (o : Outcome) (ios2 : APTR) (s s' : Driver) : Prop where
| tooLong
    (hLong : ¬ (s.reqs ios2).dataLength ≤ s.unit.mtu)
    (hGivenUp : GivenUp ios2 s s')
| sends
    (s₁ : Driver)
    (hFits : (s.reqs ios2).dataLength ≤ s.unit.mtu)
    (hReadied : Readied ios2 s s₁)
    (hEnds : Ends o ios2 s₁ s')

theorem writeStep_next
    {o : Outcome}
    {ios2 : APTR}
    {s : Driver}
    (hReach : deviceMachine.Reach Machine.Free s)
    (hOnline : s.Online)
    (hOwned : s.Owned ios2)
    (hWrite : IsWrite (s.reqs ios2).ioCommand) :
    WriteStep o ios2 s (s.next (.beginIo ios2 o)) := by
  have hCon := conserved_of_reach hReach
  have hFree : ∀ head, ios2 ∉ s.lists head :=
    fun head hMem => hOwned (hCon.outstanding hMem)
  have hDispatched := dispatched_dispatched ios2 s
  have hUnit := unit_of_rest hDispatched.rest
  have hOnline' : (s.dispatched ios2).Online := by
    unfold Online
    rw [hUnit]
    exact hOnline
  show WriteStep o ios2 s (deviceBeginIo o ios2 s)
  rw [deviceBeginIo_of_isWrite hWrite]
  unfold devCmdWritePacket
  rw [if_pos hOnline', hUnit, hDispatched.req]
  dsimp only
  by_cases hFits : (s.reqs ios2).dataLength ≤ s.unit.mtu
  · rw [if_pos hFits, sendAllPackets_putMsg (by
      rw [lists_setReq, hDispatched.lists]
      exact euTx_of_reach hReach)]
    have hReadied :=
      readied_putMsg hDispatched (hFree .euEvents)
    exact .sends _ hFits hReadied (ends_sendOne hReadied.free)
  · rw [if_neg hFits]
    exact .tooLong hFits
      (givenUp_tooLong hDispatched (hFree .euEvents))

end KszDriver
