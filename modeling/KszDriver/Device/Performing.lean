import KszDriver.Device.Waiting

/-
  Performing a command ends the request, or queues it where
  its command belongs, and thins the lists otherwise.  Only a
  request that configures the unit is ended as such.

  Main declarations:
    * `Joins`, `Performs`
    * `Holding.performIo`
    * `Orderly.onPktReceived`
-/

------------------------------------------------------------
-- Sending
------------------------------------------------------------

namespace KszDriver

namespace Driver

variable {s s' : Driver} {ios2 : APTR}

theorem thins_copyFromBuffer
    (o : Outcome) (ios2 : APTR) (offset : Nat) :
    Thins s (s.copyFromBuffer o ios2 offset) :=
  thins_noted (.copiedFromBuffer ios2 (o.copyFromBuffer ios2).1)
    trivial rfl rfl rfl

theorem thins_runSend (ios2 : APTR) (p : NicM ErrorT) :
    Thins s (s.runSend ios2 p) :=
  thins_noted (.sent ios2 (p.runOn s.nic).1) trivial
    rfl rfl rfl

theorem Holding.sendRaw
    (hHold : Holding ios2 s)
    (o : Outcome) :
    Thins s (sendRaw o ios2 s) := by
  have hCopied : Thins s (s.copyFromBuffer o ios2 0) :=
    thins_copyFromBuffer o ios2 0
  exact Thins.ite
    (fun _ => Thins.ite
      (fun _ => hCopied.trans (thins_runSend ios2 _))
      (fun _ => hCopied.trans
        (thins_setReq (hCopied.free hHold.free) _)))
    (fun _ => thins_setReq hHold.free _)

theorem Holding.sendCopied
    (hHold : Holding ios2 s)
    (o : Outcome) :
    Thins s (sendCopied o ios2 s) := by
  have hStored : Thins s (storeHeader ios2 s) :=
    Thins.of_same rfl rfl rfl
  have hCopied :=
    hStored.trans
      (thins_copyFromBuffer o ios2 etherPacketHeadSize)
  exact Thins.ite
    (fun _ => hCopied.trans (thins_runSend ios2 _))
    (fun _ => hCopied.trans
      (thins_setReq (hCopied.free hHold.free) _))

theorem Holding.sendCooked
    (hHold : Holding ios2 s)
    (o : Outcome) :
    Thins s (sendCooked o ios2 s) := by
  unfold KszDriver.sendCooked
  apply Thins.ite
  · intro _
    cases dmaPacketBuffer o ios2 s with
    | some packet => exact thins_runSend ios2 _
    | none => exact hHold.sendCopied o
  · intro _
    exact thins_setReq hHold.free _

/- Sending leaves the command of the request. -/
theorem ioCommand_sendRaw (o : Outcome) (s : Driver) :
    ((sendRaw o ios2 s).reqs ios2).ioCommand =
      (s.reqs ios2).ioCommand := by
  unfold sendRaw
  dsimp only
  split
  · split
    · rfl
    · rw [setErrorOnRequest, reqs_setReq, if_pos rfl]
      rfl
  · rw [setErrorOnRequest, reqs_setReq, if_pos rfl]

theorem ioCommand_sendCooked (o : Outcome) (s : Driver) :
    ((sendCooked o ios2 s).reqs ios2).ioCommand =
      (s.reqs ios2).ioCommand := by
  unfold sendCooked sendCopied
  dsimp only
  split
  · split
    · rfl
    · split
      · rfl
      · rw [setErrorOnRequest, reqs_setReq, if_pos rfl]
        rfl
  · rw [setErrorOnRequest, reqs_setReq, if_pos rfl]

theorem Holding.sendOne
    (hHold : Holding ios2 s)
    (o : Outcome)
    (hOther : (s.reqs ios2).ioCommand ≠ s2ConfigInterface) :
    Thins s (sendOne o ios2 s) := by
  have hSent :
      Thins s (if (s.reqs ios2).Raw then
          KszDriver.sendRaw o ios2 s
        else KszDriver.sendCooked o ios2 s) :=
    Thins.ite (fun _ => hHold.sendRaw o)
      (fun _ => hHold.sendCooked o)
  have hCommand :
      ((if (s.reqs ios2).Raw then KszDriver.sendRaw o ios2 s
        else KszDriver.sendCooked o ios2 s).reqs
          ios2).ioCommand = (s.reqs ios2).ioCommand := by
    split
    · exact ioCommand_sendRaw o s
    · exact ioCommand_sendCooked o s
  unfold KszDriver.sendOne
  dsimp only
  generalize (if (s.reqs ios2).Raw then
      KszDriver.sendRaw o ios2 s
    else KszDriver.sendCooked o ios2 s) = sent
    at hSent hCommand ⊢
  rw [← hCommand] at hOther
  have hHold' := hHold.thins hSent
  split
  · have hFired := hHold'.toOrderly.doEvent s2eventBuff
    apply (hSent.trans hFired).trans
    apply thins_termIo (hFired.free hHold'.free)
    have hSpared :=
      spares_doEvent sent s2eventBuff (hHold'.free .euEvents)
    rw [hSpared.reqs]
    exact fun hConfigures => hOther hConfigures.1
  · exact hSent.trans (thins_termIo hHold'.free
      (fun hConfigures => hOther hConfigures.1))

/- The transmit queue is drained. -/
theorem Orderly.sendLoop
    (o : Outcome)
    {rs : List APTR}
    (hOrderly : s.Orderly)
    (hNodup : rs.Nodup)
    (hMem : ∀ r ∈ rs, r ∈ s.lists .euTx) :
    Thins s (sendLoop o rs s) := by
  induction rs generalizing s with
  | nil => exact Thins.refl
  | cons ios2 rs ih =>
      have hHold := hOrderly.remove ios2
      have hOther := hOrderly.not_config
        (hMem ios2 List.mem_cons_self) (by decide)
      have hSent := hHold.sendOne o hOther
      have hTurn := (thins_remove ios2).trans hSent
      apply hTurn.trans
      apply ih (hOrderly.thins hTurn)
        (List.nodup_cons.mp hNodup).2
      rw [lists_sendOne_of_ne hHold.toLinked (by decide)]
      exact Linked.forall_mem_remove hNodup hMem

/- Whoever the loop comes to leaves the queue. -/
theorem not_mem_euTx_sendLoop
    (o : Outcome)
    {rs : List APTR}
    {r : APTR}
    (hOrderly : s.Orderly)
    (hNodup : rs.Nodup)
    (hMem : ∀ r ∈ rs, r ∈ s.lists .euTx)
    (hIn : r ∈ rs) :
    r ∉ (KszDriver.sendLoop o rs s).lists .euTx := by
  induction rs generalizing s with
  | nil => exact absurd hIn List.not_mem_nil
  | cons ios2 rs ih =>
      have hHold := hOrderly.remove ios2
      have hOther := hOrderly.not_config
        (hMem ios2 List.mem_cons_self) (by decide)
      have hTurn := hHold.sendOne o hOther
      have hNext := hHold.thins hTurn
      have hTail := (List.nodup_cons.mp hNodup).2
      have hRest :
          ∀ r ∈ rs, r ∈ (KszDriver.sendOne o ios2
            (s.remove ios2)).lists .euTx := by
        rw [lists_sendOne_of_ne hHold.toLinked (by decide)]
        exact Linked.forall_mem_remove hNodup hMem
      rcases List.mem_cons.mp hIn with hFirst | hLater
      · rw [hFirst]
        exact (hNext.toOrderly.sendLoop o hTail hRest).free
          hNext.free .euTx
      · exact ih hNext.toOrderly hTail hRest hLater

theorem Orderly.sendAllPackets
    (hOrderly : s.Orderly)
    (o : Outcome) :
    Thins s (sendAllPackets o s) :=
  hOrderly.sendLoop o (hOrderly.once .euTx) (fun _ hIn => hIn)

theorem Orderly.euTx_sendAllPackets
    (hOrderly : s.Orderly)
    (o : Outcome) :
    (KszDriver.sendAllPackets o s).lists .euTx = [] := by
  apply List.eq_nil_iff_forall_not_mem.mpr
  intro r hMem
  have hIn :=
    ((hOrderly.sendAllPackets o).lists .euTx).mem hMem
  exact not_mem_euTx_sendLoop o hOrderly
    (hOrderly.once .euTx) (fun _ hIn => hIn) hIn hMem

------------------------------------------------------------
-- Joining a List
------------------------------------------------------------

/-
  From `s` to `s'` a request has joined a list that is for
  it.  One that joins the list of events waits for nothing
  that holds already.
-/
structure Joins
    (head : ListHead)
    (ios2 : APTR)
    (s s' : Driver) : Prop where
  lists : s'.lists = (s.addTail head ios2).lists
  others : ∀ r, r ≠ ios2 → s'.reqs r = s.reqs r
  pending : (s'.reqs ios2).lnType = ntMessage
  isFor : head.IsFor (s'.reqs ios2).waiter
  log : NoneConfigured s s'
  rest : s'.rest = s.rest
  calm : head = .euEvents →
    ¬ AlreadyHolds (s'.reqs ios2).wireError s

theorem Joins.mem_iff
    {head head' : ListHead}
    {r : APTR}
    (hJoins : Joins head ios2 s s') :
    r ∈ s'.lists head' ↔
      r ∈ s.lists head' ∨ (r = ios2 ∧ head' = head) := by
  rw [hJoins.lists, lists_addTail]
  by_cases hHead : head' = head
  · subst hHead
    simp
  · simp [hHead]

/- Whoever waited before waits for the same thing still. -/
theorem Joins.reqs_of_mem
    {head head' : ListHead}
    {r : APTR}
    (hHold : Holding ios2 s)
    (hJoins : Joins head ios2 s s')
    (hMem : r ∈ s.lists head') :
    s'.reqs r = s.reqs r := by
  apply hJoins.others
  intro hSame
  exact hHold.free head' (hSame ▸ hMem)

theorem Joins.orderly
    {head : ListHead}
    (hHold : Holding ios2 s)
    (hJoins : Joins head ios2 s s') :
    s'.Orderly where
  once := by
    intro head'
    rw [hJoins.lists, lists_addTail]
    split
    · rw [List.nodup_append]
      refine ⟨hHold.once head, by simp, ?_⟩
      intro r hIn r' hIn' hSame
      rw [List.mem_singleton] at hIn'
      exact hHold.free head (hIn' ▸ hSame ▸ hIn)
    · exact hHold.once head'
  apart := by
    intro head₁ head₂ r hIn₁ hIn₂
    rcases hJoins.mem_iff.mp hIn₁ with h₁ | ⟨hSame₁, hHead₁⟩
    · rcases hJoins.mem_iff.mp hIn₂ with h₂ | ⟨hSame₂, hHead₂⟩
      · exact hHold.apart head₁ head₂ r h₁ h₂
      · exact absurd (hSame₂ ▸ h₁) (hHold.free head₁)
    · rcases hJoins.mem_iff.mp hIn₂ with h₂ | ⟨-, hHead₂⟩
      · exact absurd (hSame₁ ▸ h₂) (hHold.free head₂)
      · rw [hHead₁, hHead₂]
  pending := by
    intro head' r hMem
    rcases hJoins.mem_iff.mp hMem with hOld | ⟨hSame, -⟩
    · rw [hJoins.reqs_of_mem hHold hOld]
      exact hHold.pending head' r hOld
    · rw [hSame]
      exact hJoins.pending
  isFor := by
    intro head' r hMem
    rcases hJoins.mem_iff.mp hMem with hOld | ⟨hSame, hHead⟩
    · rw [hJoins.reqs_of_mem hHold hOld]
      exact hHold.isFor head' r hOld
    · rw [hSame, hHead]
      exact hJoins.isFor

/- A request is changed and put into a list. -/
theorem joins_addTail
    {head : ListHead}
    (f : IOSana2Req → IOSana2Req)
    (hPending : (f (s.reqs ios2)).lnType = ntMessage)
    (hFor : head.IsFor (f (s.reqs ios2)).waiter)
    (hCalm : head = .euEvents →
      ¬ AlreadyHolds (f (s.reqs ios2)).wireError s) :
    Joins head ios2 s
      ((s.setReq ios2 f).addTail head ios2) where
  lists := rfl
  others := by
    intro r hOther
    rw [reqs_addTail, reqs_setReq, if_neg hOther]
  pending := by
    rw [reqs_addTail, reqs_setReq, if_pos rfl]
    exact hPending
  isFor := by
    rw [reqs_addTail, reqs_setReq, if_pos rfl]
    exact hFor
  log := by
    apply NoneConfigured.of_cons (.queued ios2 head)
    · rfl
    · intro r req hEvent
      cases hEvent
  rest := rfl
  calm := by
    rw [reqs_addTail, reqs_setReq, if_pos rfl]
    exact hCalm

/- What a handler may do with the request it holds. -/
inductive Performs (ios2 : APTR) (s s' : Driver) : Prop where
| ends (hThins : Thins s s')
| waits (head : ListHead) (hJoins : Joins head ios2 s s')
| configures
    (mid : Driver)
    (hThins : Thins s mid)
    (hOwn : mid.reqs ios2 = s.reqs ios2)
    (hUnit : mid.unit.stAddr = (s.reqs ios2).srcAddr)
    (hDone : s' = mid.termIo ios2)

theorem Performs.ite
    {c : Prop} [Decidable c]
    {s₁ s₂ : Driver}
    (hThen : c → Performs ios2 s s₁)
    (hElse : ¬ c → Performs ios2 s s₂) :
    Performs ios2 s (if c then s₁ else s₂) := by
  by_cases hCond : c
  · rw [if_pos hCond]
    exact hThen hCond
  · rw [if_neg hCond]
    exact hElse hCond

theorem Performs.orderly
    (hHold : Holding ios2 s)
    (hPerforms : Performs ios2 s s') :
    s'.Orderly := by
  cases hPerforms with
  | ends hThins => exact hHold.toOrderly.thins hThins
  | waits head hJoins => exact hJoins.orderly hHold
  | configures mid hThins hOwn hUnit hDone =>
      rw [hDone]
      exact (hHold.toOrderly.thins hThins).keeps
        (keeps_termIo (hThins.free hHold.free))

------------------------------------------------------------
-- Transfers
------------------------------------------------------------

theorem Holding.devCmdWritePacket
    (hHold : Holding ios2 s)
    (o : Outcome)
    (hWrite : IsWrite (s.reqs ios2).ioCommand) :
    Thins s (devCmdWritePacket o ios2 s) := by
  have hOther := ne_s2ConfigInterface_of_isWrite hWrite
  unfold KszDriver.devCmdWritePacket
  apply Thins.ite
  · intro _
    apply Thins.ite
    · intro _
      have hCleared := thins_setReq hHold.free (fun req =>
        { req with
          ioFlags := req.ioFlags &&& ~~~iofQuick
          lnType := ntMessage })
      have hHold' := hHold.thins hCleared
      dsimp only
      generalize hState : s.setReq ios2 _ = t
        at hCleared hHold' ⊢
      have hCommand : IsWrite (t.reqs ios2).ioCommand := by
        rw [← hState, reqs_setReq, if_pos rfl]
        exact hWrite
      have hJoins : Joins .euTx ios2 t (t.putMsg .euTx ios2) :=
        joins_addTail (fun req =>
          { req with lnType := ntMessage }) rfl hCommand
          (fun hHead => by cases hHead)
      have hOrderly := hJoins.orderly hHold'
      have hSent := hOrderly.sendAllPackets o
      have hEmpty := hOrderly.euTx_sendAllPackets o
      have hMember :
          ∀ head, ∀ r ∈ (sendAllPackets o
              (t.putMsg .euTx ios2)).lists head,
            head ≠ .euTx ∧ r ∈ t.lists head := by
        intro head r hMem
        have hHead : head ≠ .euTx := by
          intro hTx
          rw [hTx, hEmpty] at hMem
          exact List.not_mem_nil hMem
        refine ⟨hHead, ?_⟩
        have hIn := (hSent.lists head).mem hMem
        rcases hJoins.mem_iff.mp hIn with hOld | ⟨-, hTx⟩
        · exact hOld
        · exact absurd hTx hHead
      apply hCleared.trans
      exact
        { lists := by
            intro head
            by_cases hHead : head = .euTx
            · rw [hHead, hEmpty]
              exact List.nil_sublist _
            · have hThinned := hSent.lists head
              rw [hJoins.lists, lists_addTail,
                if_neg hHead] at hThinned
              exact hThinned
          waiter := by
            intro head r hMem
            rw [hSent.waiter head r hMem,
              hJoins.reqs_of_mem hHold' (hMember head r hMem).2]
          log := hJoins.log.trans hSent.log }
    · intro _
      have hEnded : Thins s (s.termWithError ios2
          s2errMtuExceeded s2werrGenericError) :=
        thins_termWithError hHold.free (by decide)
      exact hEnded.trans
        ((hHold.thins hEnded).toOrderly.doEvent s2eventTx)
  · intro _
    exact thins_termWithError hHold.free (by decide)

theorem Holding.broadcastPacket
    (hHold : Holding ios2 s)
    (o : Outcome)
    (hWrite : IsWrite (s.reqs ios2).ioCommand) :
    Thins s (broadcastPacket o ios2 s) := by
  have hMarked := thins_setReq hHold.free
    (fun req => { req with dstAddr := broadcastAddress })
  apply hMarked.trans
  apply (hHold.thins hMarked).devCmdWritePacket o
  rw [reqs_setReq, if_pos rfl]
  exact hWrite

theorem Holding.devCmdReadPacket
    (hHold : Holding ios2 s)
    (hRead : (s.reqs ios2).ioCommand = cmdRead) :
    Performs ios2 s (devCmdReadPacket ios2 s) :=
  Performs.ite
    (fun _ => Performs.ite
      (fun _ => .waits _ (joins_addTail
        (fun req => { req with lnType := ntMessage }) rfl
        ⟨hRead, rfl⟩ (fun hHead => by cases hHead)))
      (fun _ =>
        .ends (thins_termWithError hHold.free (by decide))))
    (fun _ =>
      .ends (thins_termWithError hHold.free (by decide)))

theorem Holding.devCmdReadOrphan
    (hHold : Holding ios2 s)
    (hOrphan : (s.reqs ios2).ioCommand = s2ReadOrphan) :
    Performs ios2 s (devCmdReadOrphan ios2 s) :=
  Performs.ite
    (fun _ => .waits .euReadOrphan (joins_addTail
      (fun req => { req with lnType := ntMessage }) rfl
      hOrphan (fun hHead => by cases hHead)))
    (fun _ =>
      .ends (thins_termWithError hHold.free (by decide)))

/- The request for an event comes from the port of the unit,
   where it was marked as pending. -/
theorem Holding.devCmdOnEvent
    (hHold : Holding ios2 s)
    (hEvent : (s.reqs ios2).ioCommand = s2OnEvent)
    (hPending : (s.reqs ios2).lnType = ntMessage) :
    Performs ios2 s (devCmdOnEvent ios2 s) := by
  unfold KszDriver.devCmdOnEvent
  apply Performs.ite
  · intro _
    have hMarked := thins_setReq hHold.free (fun req =>
      { req with
        ioError := 0
        wireError :=
          req.wireError &&&
            (s2eventOnline ||| s2eventOffline) })
    apply Performs.ends
    apply hMarked.trans
    apply thins_termIo (hMarked.free hHold.free)
    rw [reqs_setReq, if_pos rfl]
    intro hConfigures
    have hCommand : (s.reqs ios2).ioCommand =
      s2ConfigInterface := hConfigures.1
    rw [hEvent] at hCommand
    exact absurd hCommand (by decide)
  · intro hNot
    have hJoins : Joins .euEvents ios2 s
        ((s.setReq ios2 id).addTail .euEvents ios2) :=
      joins_addTail id hPending hEvent (fun _ => hNot)
    have hSame : s.setReq ios2 id = s := by
      unfold Driver.setReq
      rw [id_eq, Function.update_eq_self]
    rw [hSame] at hJoins
    exact .waits .euEvents hJoins

------------------------------------------------------------
-- Online and Offline
------------------------------------------------------------

theorem thins_setUnit
    (f : DeviceDriverUnit → DeviceDriverUnit) :
    Thins s (s.setUnit f) :=
  Thins.of_same rfl rfl rfl

theorem thins_runNic
    {α : Type}
    (p : NicM α) :
    Thins s (s.runNic p) :=
  Thins.of_same rfl rfl rfl

/- The unit when it goes online, before it fires the event. -/
def started (s : Driver) : Driver :=
  let s := s.runNic (setInterface
    (fun iface => { iface with onPacketReceived := true }))
  let s := s.runNic ksz8851Init
  let s := s.runNic ksz8851Online
  s.setUnit (fun u =>
    { u with
      lowLevelDriverSignalNumber := s.nic.iface.sigNumber
      state := u.state ||| etherufOnline })

theorem goOnline_eq (s : Driver) :
    KszDriver.goOnline s = s.started.doEvent s2eventOnline :=
  rfl

theorem online_started (s : Driver) :
    s.started.Online := by
  unfold started Online setUnit
  dsimp only
  rw [BitVec.or_comm]
  apply online_or
  decide

theorem thins_started : Thins s s.started := by
  have hRun :=
    ((thins_runNic (s := s) (setInterface (fun iface =>
      { iface with onPacketReceived := true }))).trans
        (thins_runNic ksz8851Init)).trans
          (thins_runNic ksz8851Online)
  unfold started
  exact hRun.trans (thins_setUnit _)

theorem Orderly.goOnline
    (hOrderly : s.Orderly) :
    Thins s (goOnline s) := by
  rw [goOnline_eq]
  exact thins_started.trans
    ((hOrderly.thins thins_started).doEvent s2eventOnline)

/- Going online ends nobody but who waits for it. -/
theorem reqs_goOnline
    (hFree : s.Free ios2) :
    (KszDriver.goOnline s).reqs ios2 = s.reqs ios2 := by
  have hSpared := spares_doEvent s.started s2eventOnline
    (thins_started.free hFree .euEvents)
  rw [goOnline_eq, hSpared.reqs]
  unfold started
  rfl

theorem Orderly.goOffline
    (hOrderly : s.Orderly) :
    Thins s (goOffline s) := by
  have hSwitched : Thins s (s.setUnit (fun u =>
      { u with state := u.state &&& ~~~etherufOnline })) :=
    Thins.of_same rfl rfl rfl
  have hFired :=
    (hOrderly.thins hSwitched).doEvent s2eventOffline
  have hFlushed :=
    ((hOrderly.thins hSwitched).thins hFired).flushRequests
  have hStopped := (hSwitched.trans hFired).trans hFlushed
  exact hStopped.trans (Thins.of_same rfl rfl rfl)

/- An abort of lists spares who is in none. -/
theorem reqs_flushRequests
    (hOrderly : s.Orderly)
    (hFree : s.Free ios2) :
    (KszDriver.flushRequests s).reqs ios2 = s.reqs ios2 := by
  rw [flushRequests_eq]
  exact (spares_abortHeads hOrderly.toLinked
    (fun head _ => hFree head)).reqs

theorem reqs_goOffline
    (hHold : Holding ios2 s) :
    (KszDriver.goOffline s).reqs ios2 = s.reqs ios2 := by
  have hSwitched : Thins s (s.setUnit (fun u =>
      { u with state := u.state &&& ~~~etherufOnline })) :=
    Thins.of_same rfl rfl rfl
  have hHold' := hHold.thins hSwitched
  have hFired := hHold'.toOrderly.doEvent s2eventOffline
  have hFlushed := hHold'.thins hFired
  exact (reqs_flushRequests hFlushed.toOrderly
    hFlushed.free).trans
      (spares_doEvent _ s2eventOffline
        (hHold'.free .euEvents)).reqs

theorem Holding.devCmdOnline
    (hHold : Holding ios2 s)
    (hOther : (s.reqs ios2).ioCommand ≠ s2ConfigInterface) :
    Thins s (devCmdOnline ios2 s) := by
  unfold KszDriver.devCmdOnline
  apply Thins.ite
  · intro _
    apply Thins.ite
    · intro _
      exact thins_termIo hHold.free
        (fun hConfigures => hOther hConfigures.1)
    · intro _
      have hStarted := hHold.toOrderly.goOnline
      apply hStarted.trans
      apply thins_termIo (hStarted.free hHold.free)
      rw [reqs_goOnline hHold.free]
      exact fun hConfigures => hOther hConfigures.1
  · intro _
    exact thins_termWithError hHold.free (by decide)

theorem Holding.devCmdOffline
    (hHold : Holding ios2 s)
    (hOther : (s.reqs ios2).ioCommand ≠ s2ConfigInterface) :
    Thins s (devCmdOffline (some ios2) s) := by
  unfold KszDriver.devCmdOffline
  dsimp only
  split
  · have hStopped := hHold.toOrderly.goOffline
    apply hStopped.trans
    apply thins_termIo (hStopped.free hHold.free)
    rw [reqs_goOffline hHold]
    exact fun hConfigures => hOther hConfigures.1
  · exact thins_termIo hHold.free
      (fun hConfigures => hOther hConfigures.1)

/- Going online leaves the address of the unit. -/
theorem stAddr_goOnline (s : Driver) :
    (KszDriver.goOnline s).unit.stAddr = s.unit.stAddr := by
  rw [goOnline_eq, unit_of_rest (rest_doEvent _ _)]
  unfold started
  rfl

/- The unit takes the address of the request. -/
def configured (s : Driver) (ios2 : APTR) : Driver :=
  let s := s.setUnit (fun u =>
    { u with stAddr := (s.reqs ios2).srcAddr })
  let s := s.runNic (ksz8851SetNetworkAddress s.unit.stAddr)
  s.setUnit (fun u =>
    { u with state := u.state ||| etherufConfig })

theorem devCmdConfigInterface_of_not_configured
    (hNot : ¬ s.Configured) :
    devCmdConfigInterface ios2 s =
      KszDriver.devCmdOnline ios2 (s.configured ios2) :=
  if_neg hNot

theorem thins_configured (ios2 : APTR) :
    Thins s (s.configured ios2) := by
  have hRun :=
    (thins_setUnit (s := s) (fun u =>
      { u with stAddr := (s.reqs ios2).srcAddr })).trans
        (thins_runNic (ksz8851SetNetworkAddress
          (s.reqs ios2).srcAddr))
  unfold configured
  exact hRun.trans (thins_setUnit _)

/- Setting the configuration bit leaves the online bit. -/
theorem online_configured (s : Driver) (ios2 : APTR) :
    (s.configured ios2).Online ↔ s.Online := by
  have hState : (s.configured ios2).unit.state =
      s.unit.state ||| etherufConfig := rfl
  have hApart : etherufConfig &&& etherufOnline = 0#32 := by
    decide
  rw [Online, Online, hState, BitVec.and_or_distrib_right,
    hApart, BitVec.or_zero]

/- Setting the bit makes the unit configured. -/
theorem configured_configured (s : Driver) (ios2 : APTR) :
    (s.configured ios2).Configured := by
  have hState : (s.configured ios2).unit.state =
      s.unit.state ||| etherufConfig := rfl
  rw [Configured, hState, BitVec.or_comm]
  intro hNone
  have hBit := congrArg (fun b => b.getLsbD 0) hNone
  simp [etherufConfig] at hBit

/- The request that configures the unit is ended last. -/
theorem Holding.exists_configures
    (hHold : Holding ios2 s)
    (hNot : ¬ s.Configured) :
    ∃ mid, Thins s mid ∧ mid.reqs ios2 = s.reqs ios2 ∧
      mid.unit.stAddr = (s.reqs ios2).srcAddr ∧
      devCmdConfigInterface ios2 s = mid.termIo ios2 := by
  rw [devCmdConfigInterface_of_not_configured hNot]
  have hThins := thins_configured (s := s) ios2
  have hOwn : (s.configured ios2).reqs ios2 =
      s.reqs ios2 := rfl
  have hUnit : (s.configured ios2).unit.stAddr =
      (s.reqs ios2).srcAddr := rfl
  have hDone := configured_configured s ios2
  generalize s.configured ios2 = t
    at hThins hOwn hUnit hDone ⊢
  have hHold' := hHold.thins hThins
  unfold KszDriver.devCmdOnline
  rw [if_pos hDone]
  by_cases hOnline : t.Online
  · rw [if_pos hOnline]
    exact ⟨t, hThins, hOwn, hUnit, rfl⟩
  · rw [if_neg hOnline]
    refine ⟨KszDriver.goOnline t,
      hThins.trans hHold'.toOrderly.goOnline, ?_, ?_, rfl⟩
    · rw [reqs_goOnline hHold'.free, hOwn]
    · rw [stAddr_goOnline, hUnit]

theorem Holding.devCmdConfigInterface
    (hHold : Holding ios2 s) :
    Performs ios2 s (devCmdConfigInterface ios2 s) := by
  by_cases hDone : s.Configured
  · unfold KszDriver.devCmdConfigInterface
    rw [if_pos hDone]
    exact .ends (thins_termWithError hHold.free (by decide))
  · rcases hHold.exists_configures hDone with
      ⟨mid, hThins, hOwn, hUnit, hLast⟩
    exact .configures mid hThins hOwn hUnit hLast

------------------------------------------------------------
-- Other Commands
------------------------------------------------------------

/- The request is ended after changes that concern no list. -/
theorem Holding.termIo_of_same
    {t : Driver}
    (hHold : Holding ios2 s)
    (hOther : (s.reqs ios2).ioCommand ≠ s2ConfigInterface)
    (hReqs : t.reqs = s.reqs)
    (hLists : t.lists = s.lists)
    (hLog : t.log = s.log) :
    Thins s (t.termIo ios2) := by
  have hSame : Thins s t := Thins.of_same hReqs hLists hLog
  apply hSame.trans
  apply thins_termIo (hSame.free hHold.free)
  rw [hReqs]
  exact fun hConfigures => hOther hConfigures.1

theorem Holding.devCmdFlush
    (hHold : Holding ios2 s)
    (hOther : (s.reqs ios2).ioCommand ≠ s2ConfigInterface) :
    Thins s (devCmdFlush (some ios2) s) := by
  have hFlushed := hHold.toOrderly.flushRequests
  apply hFlushed.trans
  apply thins_termIo (hFlushed.free hHold.free)
  rw [reqs_flushRequests hHold.toOrderly hHold.free]
  exact fun hConfigures => hOther hConfigures.1

/- So it is after a change of the request itself. -/
theorem Holding.termIo_marked
    {t : Driver}
    (hHold : Holding ios2 s)
    (hOther : (s.reqs ios2).ioCommand ≠ s2ConfigInterface)
    (hReqs : t.reqs = s.reqs)
    (hLists : t.lists = s.lists)
    (hLog : t.log = s.log)
    (f : IOSana2Req → IOSana2Req)
    (hCommand : ∀ req, (f req).ioCommand = req.ioCommand) :
    Thins s ((t.setReq ios2 f).termIo ios2) := by
  have hSame : Thins s t := Thins.of_same hReqs hLists hLog
  have hFree := hSame.free hHold.free
  have hMarked := thins_setReq hFree f
  apply (hSame.trans hMarked).trans
  apply thins_termIo (hMarked.free hFree)
  rw [reqs_setReq, if_pos rfl, hReqs]
  intro hConfigures
  exact hOther ((hCommand _).symm.trans hConfigures.1)

theorem Holding.devCmdGetStationAddress
    (hHold : Holding ios2 s)
    (hOther : (s.reqs ios2).ioCommand ≠ s2ConfigInterface) :
    Thins s (devCmdGetStationAddress ios2 s) :=
  hHold.termIo_marked hOther rfl rfl rfl _ (fun _ => rfl)

theorem Holding.devCmdDeviceQuery
    (hHold : Holding ios2 s)
    (hOther : (s.reqs ios2).ioCommand ≠ s2ConfigInterface) :
    Thins s (devCmdDeviceQuery ios2 s) :=
  Thins.ite
    (fun _ => Thins.ite
      (fun _ => hHold.termIo_of_same hOther rfl rfl rfl)
      (fun _ => thins_termWithError hHold.free (by decide)))
    (fun _ => thins_termWithError hHold.free (by decide))

theorem Holding.devCmdStats
    (hHold : Holding ios2 s)
    (hOther : (s.reqs ios2).ioCommand ≠ s2ConfigInterface) :
    Thins s (devCmdStats ios2 s) :=
  Thins.ite
    (fun _ => hHold.termIo_of_same hOther rfl rfl rfl)
    (fun _ => thins_termWithError hHold.free (by decide))

theorem Holding.devCmdNsDeviceQuery
    (hHold : Holding ios2 s)
    (hOther : (s.reqs ios2).ioCommand ≠ s2ConfigInterface) :
    Thins s (devCmdNsDeviceQuery ios2 s) := by
  unfold KszDriver.devCmdNsDeviceQuery
  dsimp only
  split
  · apply hHold.termIo_marked hOther
    · rfl
    · rfl
    · rfl
    · exact fun _ => rfl
  · apply hHold.termIo_marked hOther
    · rfl
    · rfl
    · rfl
    · exact fun _ => rfl

theorem Holding.devCmdTrackType
    (hHold : Holding ios2 s)
    (o : Outcome)
    (hOther : (s.reqs ios2).ioCommand ≠ s2ConfigInterface) :
    Thins s (devCmdTrackType o ios2 s) :=
  Thins.ite
    (fun _ => thins_termWithError hHold.free (by decide))
    (fun _ => Thins.ite
      (fun _ => hHold.termIo_of_same hOther rfl rfl rfl)
      (fun _ => hHold.termIo_of_same hOther rfl rfl rfl))

theorem Holding.devCmdUnTrackType
    (hHold : Holding ios2 s)
    (hOther : (s.reqs ios2).ioCommand ≠ s2ConfigInterface) :
    Thins s (devCmdUnTrackType ios2 s) :=
  Thins.ite
    (fun _ => hHold.termIo_of_same hOther rfl rfl rfl)
    (fun _ => thins_termWithError hHold.free (by decide))

------------------------------------------------------------
-- Dispatch
------------------------------------------------------------

theorem Holding.dispatch
    (hHold : Holding ios2 s)
    (o : Outcome)
    (hPending :
      (s.reqs ios2).ioCommand = s2OnEvent →
        (s.reqs ios2).lnType = ntMessage) :
    Performs ios2 s
      (dispatch o (s.reqs ios2).ioCommand ios2 s) := by
  by_cases hConfig :
      (s.reqs ios2).ioCommand = s2ConfigInterface
  · rw [hConfig, dispatch_s2ConfigInterface]
    exact hHold.devCmdConfigInterface
  have hOther := hConfig
  unfold KszDriver.dispatch
  refine Performs.ite (fun h => ?_) fun _ => ?_
  · exact .ends (hHold.devCmdWritePacket o (Or.inl h))
  refine Performs.ite (fun h => ?_) fun _ => ?_
  · exact hHold.devCmdReadPacket h
  refine Performs.ite (fun h => ?_) fun _ => ?_
  · exact .ends (hHold.broadcastPacket o (Or.inr (Or.inl h)))
  refine Performs.ite (fun h => ?_) fun _ => ?_
  · exact .ends
      (hHold.devCmdWritePacket o (Or.inr (Or.inr h)))
  refine Performs.ite
    (fun _ => .ends (hHold.devCmdFlush hOther)) fun _ => ?_
  refine Performs.ite (fun h => ?_) fun _ => ?_
  · exact hHold.devCmdOnEvent h (hPending h)
  refine Performs.ite
    (fun _ => .ends (hHold.devCmdOnline hOther)) fun _ => ?_
  refine Performs.ite
    (fun _ => .ends (hHold.devCmdOffline hOther)) fun _ => ?_
  refine Performs.ite
    (fun _ => .ends (hHold.devCmdDeviceQuery hOther))
    fun _ => ?_
  refine Performs.ite
    (fun _ => .ends (hHold.devCmdGetStationAddress hOther))
    fun _ => ?_
  refine Performs.ite (fun h => absurd h hConfig) fun _ => ?_
  refine Performs.ite (fun h => ?_) fun _ => ?_
  · exact hHold.devCmdReadOrphan h
  refine Performs.ite
    (fun _ => .ends (hHold.devCmdStats hOther)) fun _ => ?_
  refine Performs.ite
    (fun _ => .ends (hHold.devCmdTrackType o hOther))
    fun _ => ?_
  refine Performs.ite
    (fun _ => .ends (hHold.devCmdUnTrackType hOther))
    fun _ => ?_
  refine Performs.ite
    (fun _ => .ends (hHold.devCmdStats hOther)) fun _ => ?_
  refine Performs.ite
    (fun _ => .ends (hHold.devCmdNsDeviceQuery hOther))
    fun _ => ?_
  exact .ends (thins_termWithError hHold.free (by decide))

/- A command starts by resetting the error. -/
def resetError (s : Driver) (ios2 : APTR) : Driver :=
  s.setReq ios2 (fun req => { req with ioError := 0 })

theorem thins_resetError
    (ios2 : APTR) :
    Thins s (s.resetError ios2) :=
  thins_setReq_of_waiter ios2 _ rfl

theorem Holding.performIo
    (hHold : Holding ios2 s)
    (o : Outcome)
    (hPending :
      (s.reqs ios2).ioCommand = s2OnEvent →
        (s.reqs ios2).lnType = ntMessage) :
    Performs ios2 (s.resetError ios2)
      (performIo o ios2 s) := by
  have hReset :=
    hHold.thins (thins_resetError (s := s) ios2)
  have hSame : (s.resetError ios2).reqs ios2 =
      { s.reqs ios2 with ioError := 0 } := by
    unfold resetError
    rw [reqs_setReq, if_pos rfl]
  have hDone := hReset.dispatch o (by
    rw [hSame]
    exact hPending)
  rw [hSame] at hDone
  exact hDone

------------------------------------------------------------
-- Received Packets
------------------------------------------------------------

/- It does not matter when a request is unlinked that waits
   for no event. -/
theorem remove_retire
    (s : Driver)
    (ios2 other : APTR)
    (f : IOSana2Req → IOSana2Req) :
    (s.retire other f).remove ios2 =
      (s.remove ios2).retire other f := by
  have hLists :
      ((s.setReq other f).remove other).remove ios2 =
        ((s.remove ios2).setReq other f).remove other := by
    unfold Driver.remove Driver.setReq
    dsimp only
    congr 1
    funext head
    exact List.erase_comm other ios2
  have hEnd (t : Driver) :
      (t.termIo other).remove ios2 =
        (t.remove ios2).termIo other := by
    unfold Driver.termIo
    dsimp only
    rw [reqs_remove]
    split <;> rfl
  unfold retire
  rw [hEnd, hLists]

theorem remove_doEventLoop
    (events : ULONG)
    (rs : List APTR)
    (s : Driver)
    (ios2 : APTR) :
    (Driver.doEventLoop events rs s).remove ios2 =
      Driver.doEventLoop events rs (s.remove ios2) := by
  induction rs generalizing s with
  | nil => rfl
  | cons other rs ih =>
      by_cases hAwaits : (s.reqs other).Awaits events
      · rw [doEventLoop_cons_of_awaits rs hAwaits,
          doEventLoop_cons_of_awaits rs
            (show ((s.remove ios2).reqs other).Awaits events
              from hAwaits),
          ih, remove_retire]
      · rw [doEventLoop_cons_of_not_awaits rs hAwaits,
          doEventLoop_cons_of_not_awaits rs
            (show ¬ ((s.remove ios2).reqs other).Awaits events
              from hAwaits),
          ih]

theorem remove_doEvent
    {events : ULONG}
    (hOther : ios2 ∉ s.lists .euEvents) :
    (s.doEvent events).remove ios2 =
      (s.remove ios2).doEvent events := by
  have hSame :
      (s.lists .euEvents).erase ios2 = s.lists .euEvents :=
    List.erase_of_not_mem hOther
  unfold Driver.doEvent
  rw [remove_doEventLoop, lists_remove, hSame]
  rfl

theorem Orderly.fulfillReadIORequest
    {head : ListHead}
    (hOrderly : s.Orderly)
    (o : Outcome)
    (buffer : Memory)
    (size : UWORD)
    (hMem : ios2 ∈ s.lists head)
    (hEvents : head ≠ .euEvents)
    (hPort : head ≠ .unitMsgPort) :
    Thins s (fulfillReadIORequest o head ios2 buffer size
      s).2 := by
  have hOther := hOrderly.not_config hMem hPort
  have hDescribed :
      Thins s (s.setReq ios2 (describePacket buffer size)) :=
    thins_setReq_of_waiter ios2 _ rfl
  have hOffered (t : Driver) (accepted : Bool) :
      Thins t (t.record (.offered head ios2 accepted)) :=
    thins_noted (.offered head ios2 accepted) trivial
      rfl rfl rfl
  have hNotEvent : ios2 ∉ s.lists .euEvents := by
    intro hIn
    exact hEvents (hOrderly.apart head _ ios2 hMem hIn)
  unfold KszDriver.fulfillReadIORequest
  split
  · dsimp only
    split
    · split
      · have hNoted (t : Driver) (bytes : List UBYTE) :
            Thins t (t.record (.copiedToBuffer ios2 bytes)) :=
          thins_noted (.copiedToBuffer ios2 bytes) trivial
            rfl rfl rfl
        have hCopied :=
          (hDescribed.trans (hNoted _ (deliveredBytes buffer
            size (s.reqs ios2)))).trans (hOffered _ true)
        have hHold := (hOrderly.thins hCopied).remove ios2
        apply (hCopied.trans (thins_remove ios2)).trans
        apply thins_termIo hHold.free
        simp only [reqs_remove, reqs_record, reqs_setReq,
          if_true]
        exact fun hConfigures => hOther hConfigures.1
      · have hFailed :=
          hDescribed.trans (hOffered _ false)
        dsimp only
        generalize hState : (s.setReq ios2
          (describePacket buffer size)).record
            (.offered head ios2 false) = t at hFailed ⊢
        have hNotEvent' :
            ios2 ∉ (t.setErrorOnRequest ios2 s2errNoResources
              s2werrBuffError).lists .euEvents := by
          rw [← hState]
          exact hNotEvent
        have hCommand :
            (t.reqs ios2).ioCommand ≠ s2ConfigInterface := by
          rw [← hState, reqs_record, reqs_setReq, if_pos rfl]
          exact hOther
        rw [remove_doEvent hNotEvent']
        -- the request is unlinked before it is marked
        have hTaken := (hOrderly.thins hFailed).remove ios2
        have hMarked := thins_setReq hTaken.free (fun req =>
          { req with
            wireError := s2werrBuffError
            ioError := s2errNoResources })
        have hHold := hTaken.thins hMarked
        have hFired := hHold.toOrderly.doEvent s2eventBuff
        apply ((hFailed.trans (thins_remove ios2)).trans
          hMarked).trans
        apply hFired.trans
        apply thins_termIo (hFired.free hHold.free)
        rw [(spares_doEvent _ s2eventBuff
          (hHold.free .euEvents)).reqs, reqs_setReq,
          if_pos rfl]
        exact fun hConfigures => hCommand hConfigures.1
    · exact hDescribed.trans (hOffered _ false)
  · exact hOffered s false

theorem Orderly.onPktReceived
    (hOrderly : s.Orderly)
    (o : Outcome)
    (buffer : Memory)
    (size : UWORD) :
    Thins s (onPktReceived o buffer size s) := by
  apply onPktReceived_rule (I := Thins s)
  · intro t head r hMem hEvents hPort hThins
    exact hThins.trans ((hOrderly.thins
      hThins).fulfillReadIORequest o buffer size hMem hEvents
        hPort)
  · exact Thins.refl

end Driver

end KszDriver
