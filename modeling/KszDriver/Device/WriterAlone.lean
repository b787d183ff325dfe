import KszDriver.Device.WriterSteps
import Mathlib.Logic.Relation

/-
  A task that nobody interrupts does what `DeviceBeginIO` does
  when it is one step.

  Main declarations:
    * `Writers.Alone`
    * `Writers.Comes`
    * `Writers.comes_sendAllPackets`
    * `Writers.comes_submit`
-/

------------------------------------------------------------
-- Steps of One Task
------------------------------------------------------------

namespace KszDriver

namespace Writers

variable {n : Nat} {s s' : Writers n} {t : Fin n}

/- Only this task takes steps. -/
def Alone (t : Fin n) : Writers n → Writers n → Prop :=
  Relation.ReflTransGen (fun s s' => s' = s.step t)

theorem Alone.refl (s : Writers n) : Alone t s s :=
  Relation.ReflTransGen.refl

/- One step and then others. -/
theorem Alone.head
    {s₁ : Writers n}
    (hStep : s.step t = s₁)
    (hAlone : Alone t s₁ s') :
    Alone t s s' :=
  Relation.ReflTransGen.head hStep.symm hAlone

theorem Alone.trans
    {s'' : Writers n}
    (hFirst : Alone t s s')
    (hSecond : Alone t s' s'') :
    Alone t s s'' :=
  Relation.ReflTransGen.trans hFirst hSecond

/- The task comes to a stage, with the driver as `d`. -/
def Comes
    (t : Fin n) (s : Writers n) (stage : Stage) (d : Driver) :
    Prop :=
  ∃ s', Alone t s s' ∧ s'.stage t = stage ∧
    s'.outcome = s.outcome ∧ s'.driver = d

/- The task comes there through another stage. -/
theorem Comes.through
    {stage stage₁ : Stage}
    {d d₁ : Driver}
    (hFirst : Comes t s stage₁ d₁)
    (hSecond : ∀ s', s'.stage t = stage₁ →
      s'.outcome = s.outcome → s'.driver = d₁ →
        Comes t s' stage d) :
    Comes t s stage d := by
  rcases hFirst with ⟨s₁, hAlone₁, hStage₁, hOutcome₁, hDriver₁⟩
  rcases hSecond s₁ hStage₁ hOutcome₁ hDriver₁ with
    ⟨s₂, hAlone₂, hStage₂, hOutcome₂, hDriver₂⟩
  exact ⟨s₂, hAlone₁.trans hAlone₂, hStage₂,
    hOutcome₂.trans hOutcome₁, hDriver₂⟩

/- One step moves the task there. -/
theorem comes_of_step
    {stage : Stage}
    {d : Driver}
    (hStage : (s.step t).stage t = stage)
    (hOutcome : (s.step t).outcome = s.outcome)
    (hDriver : (s.step t).driver = d) :
    Comes t s stage d :=
  ⟨s.step t, Alone.head rfl (Alone.refl _), hStage, hOutcome,
    hDriver⟩

/- A step that is a move. -/
theorem comes_of_move
    {stage : Stage}
    {d : Driver}
    (hStep : s.step t = s.move t stage d) :
    Comes t s stage d := by
  apply comes_of_step
  · rw [hStep]
    exact Function.update_self _ _ _
  · rw [hStep]
    rfl
  · rw [hStep]
    rfl

theorem comes_of_call
    {ios2 : APTR}
    {p : NicM ErrorT}
    (hStep : s.step t = s.call t ios2 p) :
    Comes t s (.reporting ios2) (s.driver.runSend ios2 p) := by
  apply comes_of_step
  · rw [hStep]
    exact Function.update_self _ _ _
  · rw [hStep]
    rfl
  · rw [hStep]
    rfl

theorem comes_of_reply
    {ios2 : APTR}
    {stage : Stage}
    (hStep : s.step t = s.reply t ios2 stage) :
    Comes t s stage (s.driver.termIo ios2) := by
  apply comes_of_step
  · rw [hStep]
    exact Function.update_self _ _ _
  · rw [hStep]
    rfl
  · rw [hStep]
    rfl

------------------------------------------------------------
-- One Packet
------------------------------------------------------------

section Packet

variable {ios2 : APTR} {rest : List APTR}

/- `CopyFromBuffer`, and the call if it worked. -/
theorem comes_copied
    {offset : Nat}
    {stage : Stage}
    {sent : Driver}
    (hStep : s.step t = s.copied t ios2 offset stage)
    (hSent : ∀ s', s'.stage t = stage →
      s'.outcome = s.outcome →
        s'.driver =
            s.driver.copyFromBuffer s.outcome ios2 offset →
          Comes t s' (.reporting ios2) sent) :
    Comes t s (.reporting ios2)
      (if (s.outcome.copyFromBuffer ios2).1 then sent
      else
        (s.driver.copyFromBuffer s.outcome ios2
          offset).setErrorOnRequest ios2 s2errNoResources
            s2werrBuffError) := by
  unfold copied at hStep
  dsimp only at hStep
  split
  · rename_i hCopied
    rw [if_pos hCopied] at hStep
    exact (comes_of_move hStep).through hSent
  · rename_i hFailed
    rw [if_neg hFailed] at hStep
    exact comes_of_move hStep

theorem comes_sendRaw
    (hStage : s.stage t = .copyingRaw ios2)
    (hLong : (s.driver.reqs ios2).dataLength.toNat >
      etherPacketHeadSize) :
    Comes t s (.reporting ios2)
      (sendRaw s.outcome ios2 s.driver) := by
  unfold sendRaw
  dsimp only
  rw [if_pos hLong]
  have hCopy :
      s.step t = s.copied t ios2 0 (.sendingRaw ios2) := by
    unfold step
    rw [hStage]
  apply comes_copied hCopy
  · intro s' hStage' hOutcome hDriver
    have hStep :
        s'.step t =
          s'.call t ios2
            (ksz8851SendPacket s'.driver.sendBuffer
              (s'.driver.reqs ios2).dataLength.toNat) := by
      unfold step
      rw [hStage']
    have hCall := comes_of_call hStep
    rw [hDriver] at hCall
    exact hCall

/- The header, stored step by step. -/
theorem comes_storeHeader
    (hStage : s.stage t = .storingDst ios2) :
    Comes t s (.copying ios2) (storeHeader ios2 s.driver) := by
  rw [storeHeader_eq]
  have hDst :
      s.step t =
        s.move t (.storingSrc ios2)
          (storeDst ios2 s.driver) := by
    unfold step
    rw [hStage]
  refine (comes_of_move hDst).through ?_
  intro s₁ hStage₁ _ hDriver₁
  have hSrc :
      s₁.step t =
        s₁.move t (.storingType ios2) (storeSrc s₁.driver) := by
    unfold step
    rw [hStage₁]
  rw [← hDriver₁]
  refine (comes_of_move hSrc).through ?_
  intro s₂ hStage₂ _ hDriver₂
  have hType :
      s₂.step t =
        s₂.move t (.copying ios2) (storeType ios2 s₂.driver) := by
    unfold step
    rw [hStage₂]
  rw [← hDriver₂]
  exact comes_of_move hType

theorem comes_sendCopied
    (hStage : s.stage t = .storingDst ios2) :
    Comes t s (.reporting ios2)
      (sendCopied s.outcome ios2 s.driver) := by
  refine (comes_storeHeader hStage).through ?_
  intro s₁ hStage₁ hOutcome₁ hDriver₁
  unfold sendCopied
  dsimp only
  rw [← hDriver₁, ← hOutcome₁]
  have hCopy :
      s₁.step t =
        s₁.copied t ios2 etherPacketHeadSize
          (.sending ios2) := by
    unfold step
    rw [hStage₁]
  apply comes_copied hCopy
  · intro s₂ hStage₂ hOutcome₂ hDriver₂
    have hStep :
        s₂.step t =
          s₂.call t ios2
            (ksz8851SendPacketCooked s₂.driver.sendBuffer
              (s₂.driver.sendBuffer.drop 6)
              (s₂.driver.sendBuffer.wordAt 12)
              (s₂.driver.sendBuffer.drop etherPacketHeadSize)
              (s₂.driver.reqs ios2).dataLength.toNat) := by
      unfold step
      rw [hStage₂]
    have hCall := comes_of_call hStep
    rw [hDriver₂] at hCall
    rw [hDriver₁] at hCall ⊢
    exact hCall

/- A packet that was taken from the queue comes to its call
   or is marked as failed. -/
theorem comes_fetched
    {d : Driver}
    (hStep : s.step t = s.fetched t ios2 d) :
    Comes t s (.reporting ios2)
      (if (d.reqs ios2).Raw then sendRaw s.outcome ios2 d
      else sendCooked s.outcome ios2 d) := by
  unfold fetched at hStep
  dsimp only at hStep
  split
  · rename_i hRaw
    rw [if_pos hRaw] at hStep
    by_cases hLong :
        (d.reqs ios2).dataLength.toNat > etherPacketHeadSize
    · rw [if_pos hLong] at hStep
      refine (comes_of_move hStep).through ?_
      intro s₁ hStage₁ hOutcome₁ hDriver₁
      rw [← hDriver₁, ← hOutcome₁]
      apply comes_sendRaw hStage₁
      rw [hDriver₁]
      exact hLong
    · rw [if_neg hLong] at hStep
      unfold sendRaw
      dsimp only
      rw [if_neg hLong]
      exact comes_of_move hStep
  · rename_i hCooked
    rw [if_neg hCooked] at hStep
    unfold sendCooked
    dsimp only
    by_cases hShort :
        (d.reqs ios2).dataLength.toNat ≤ ethernetMtu
    · rw [if_pos hShort] at hStep ⊢
      cases hPacket : dmaPacketBuffer s.outcome ios2 d with
      | some packet =>
          rw [hPacket] at hStep
          refine (comes_of_move hStep).through ?_
          intro s₁ hStage₁ _ hDriver₁
          rw [← hDriver₁]
          apply comes_of_call
          unfold step
          rw [hStage₁]
      | none =>
          rw [hPacket] at hStep
          refine (comes_of_move hStep).through ?_
          intro s₁ hStage₁ hOutcome₁ hDriver₁
          rw [← hDriver₁, ← hOutcome₁]
          exact comes_sendCopied hStage₁
    · rw [if_neg hShort] at hStep ⊢
      exact comes_of_move hStep

/- The body of the loop of `sendAllPackets`. -/
theorem comes_sendOne
    (hStage : s.stage t = .draining)
    (hQueue : s.driver.lists .euTx = ios2 :: rest) :
    Comes t s .draining
      (sendOne s.outcome ios2 (s.driver.remove ios2)) := by
  have hFetch :
      s.step t = s.fetched t ios2 (s.driver.remove ios2) := by
    unfold step
    rw [hStage]
    dsimp only
    rw [hQueue]
  refine (comes_fetched hFetch).through ?_
  intro s₁ hStage₁ _ hDriver₁
  unfold sendOne
  dsimp only
  rw [← hDriver₁]
  have hReport :
      s₁.step t =
        s₁.move t (.replying ios2)
          (if (s₁.driver.reqs ios2).wireError ≠ 0#32 then
            s₁.driver.doEvent s2eventBuff
          else s₁.driver) := by
    unfold step
    rw [hStage₁]
  refine (comes_of_move hReport).through ?_
  intro s₂ hStage₂ _ hDriver₂
  rw [← hDriver₂]
  apply comes_of_reply
  unfold step
  rw [hStage₂]

end Packet

------------------------------------------------------------
-- All Packets
------------------------------------------------------------

/- The loop ends when the queue is empty. -/
theorem comes_sendLoop
    {held : List APTR}
    (rs : List APTR)
    (hCon : s.driver.Conserved custodyPolicy held)
    (hStage : s.stage t = .draining)
    (hQueue : s.driver.lists .euTx = rs) :
    Comes t s .idle (sendLoop s.outcome rs s.driver) := by
  induction rs generalizing s with
  | nil =>
      apply comes_of_move
      unfold step
      rw [hStage]
      dsimp only
      rw [hQueue]
      rfl
  | cons ios2 rest ih =>
      have hMem : ios2 ∈ s.driver.lists .euTx := by
        rw [hQueue]
        exact List.mem_cons_self
      have hTaken := hCon.remove hMem
      refine (comes_sendOne hStage hQueue).through ?_
      intro s₁ hStage₁ hOutcome₁ hDriver₁
      unfold sendLoop
      rw [← hDriver₁, ← hOutcome₁]
      apply ih _ hStage₁
      · rw [hDriver₁, lists_sendOne_of_ne hTaken.toLinked
          (by decide), Driver.lists_remove, hQueue,
          List.erase_cons_head]
      · rw [hDriver₁]
        exact hTaken.sendOne s.outcome

/- A task that is not interrupted sends all packets. -/
theorem comes_sendAllPackets
    {held : List APTR}
    (hCon : s.driver.Conserved custodyPolicy held)
    (hStage : s.stage t = .draining) :
    Comes t s .idle (sendAllPackets s.outcome s.driver) :=
  comes_sendLoop _ hCon hStage rfl

------------------------------------------------------------
-- Submitting Alone
------------------------------------------------------------

/- Only the answers for the request itself matter. -/
section Answers

variable (o o' : Outcome) (ios2 : APTR) (d : Driver)

theorem copyFromBuffer_withRequest (offset : Nat) :
    d.copyFromBuffer (o.withRequest ios2 o') ios2 offset =
      d.copyFromBuffer o' ios2 offset := by
  simp [Driver.copyFromBuffer, Outcome.withRequest]

theorem sendRaw_withRequest :
    sendRaw (o.withRequest ios2 o') ios2 d =
      sendRaw o' ios2 d := by
  unfold sendRaw
  rw [copyFromBuffer_withRequest]
  simp [Outcome.withRequest]

theorem sendCooked_withRequest :
    sendCooked (o.withRequest ios2 o') ios2 d =
      sendCooked o' ios2 d := by
  have hPacket :
      dmaPacketBuffer (o.withRequest ios2 o') ios2 d =
        dmaPacketBuffer o' ios2 d := by
    simp [dmaPacketBuffer, Outcome.withRequest]
  have hCopied :
      sendCopied (o.withRequest ios2 o') ios2 d =
        sendCopied o' ios2 d := by
    unfold sendCopied
    rw [copyFromBuffer_withRequest]
    simp [Outcome.withRequest]
  unfold sendCooked
  rw [hPacket, hCopied]

theorem sendOne_withRequest :
    sendOne (o.withRequest ios2 o') ios2 d =
      sendOne o' ios2 d := by
  unfold sendOne
  rw [sendRaw_withRequest, sendCooked_withRequest]

end Answers

section Submission

variable {ios2 : APTR} {held : List APTR}

/- A request that is turned down. -/
theorem comes_rejected
    (hStage : s.stage t = .rejecting ios2 none) :
    Comes t s .idle (s.driver.termIo ios2) := by
  apply comes_of_reply
  unfold step
  rw [hStage]

theorem comes_announced
    {event : ULONG}
    (hStage : s.stage t = .rejecting ios2 (some event)) :
    Comes t s .idle
      ((s.driver.termIo ios2).doEvent event) := by
  have hReply :
      s.step t = s.reply t ios2 (.announcing event) := by
    unfold step
    rw [hStage]
  refine (comes_of_reply hReply).through ?_
  intro s₁ hStage₁ _ hDriver₁
  rw [← hDriver₁]
  apply comes_of_move
  unfold step
  rw [hStage₁]

/- A request that is the only one in the queue. -/
theorem comes_queued
    {o o' : Outcome}
    (hCon : s.driver.Conserved custodyPolicy (ios2 :: held))
    (hEmpty : s.driver.lists .euTx = [])
    (hOutcome : s.outcome = o.withRequest ios2 o')
    (hStage : s.stage t = .queueing ios2) :
    Comes t s .idle
      (sendAllPackets o' (s.driver.putMsg .euTx ios2)) := by
  have hPut :
      s.step t =
        s.move t .draining (s.driver.putMsg .euTx ios2) := by
    unfold step
    rw [hStage]
  have hQueued :
      (s.driver.putMsg .euTx ios2).Conserved custodyPolicy
        held :=
    hCon.putMsg ⟨trivial, trivial⟩
  refine (comes_of_move hPut).through ?_
  intro s₁ hStage₁ hOutcome₁ hDriver₁
  rw [← hDriver₁] at hQueued
  have hSent := comes_sendAllPackets hQueued hStage₁
  rw [hOutcome₁, hOutcome, hDriver₁,
    sendAllPackets_putMsg hEmpty, sendOne_withRequest] at hSent
  rw [sendAllPackets_putMsg hEmpty]
  exact hSent

/- A task that is not interrupted does what `DeviceBeginIO`
   does in one step. -/
theorem comes_submit
    {req : IOSana2Req}
    (o : Outcome)
    (hCon : s.driver.Conserved custodyPolicy held)
    (hOwned : s.driver.Owned ios2)
    (hEmpty : s.driver.lists .euTx = [])
    (hWrite : IsWrite req.ioCommand) :
    ∃ s', Alone t (s.submit t ios2 req o) s' ∧
      s'.stage t = .idle ∧
      s'.driver =
        (s.driver.setReq ios2 (fun _ => req)).next
          (.beginIo ios2 o) := by
  have hSubmits := submits_dispatched hOwned req
  have hCommand :
      IsWrite ((s.driver.setReq ios2 (fun _ => req)).reqs
        ios2).ioCommand := by
    rw [Driver.reqs_setReq, if_pos rfl]
    exact hWrite
  have hComes :
      Comes t (s.submit t ios2 req o) .idle
        (deviceBeginIo o ios2
          (s.driver.setReq ios2 (fun _ => req))) := by
    rw [deviceBeginIo_of_isWrite hCommand]
    unfold submit devCmdWritePacket
    dsimp only
    split
    · split
      · have hQueued :=
          hSubmits.setReq
            (f := fun req =>
              { req with
                ioFlags := req.ioFlags &&& ~~~iofQuick
                lnType := ntMessage })
            (Or.inr (core_clearQuick _))
        apply comes_queued (hQueued.conserved held hCon)
        · exact (congrFun hQueued.lists _).trans hEmpty
        · rfl
        · exact Function.update_self _ _ _
      · exact comes_announced (Function.update_self _ _ _)
    · exact comes_rejected (Function.update_self _ _ _)
  rcases hComes with ⟨s', hAlone, hStage, -, hDriver⟩
  exact ⟨s', hAlone, hStage, hDriver⟩

end Submission

end Writers

end KszDriver
