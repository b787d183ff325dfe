import KszDriver.Device.WriterRules

/-
  The steps of the client tasks, one lemma a stage.

  The stores of a task extend what it is sure of, part by
  part, until the send buffer holds its packet.  The call then
  sends the frame that the client asked for.

  Main declarations:
    * `Touches`
    * `Writers.Sound.move`
    * `Writers.Sound.submit`
    * `Writers.Sound.step`
-/

------------------------------------------------------------
-- Changes to One Request
------------------------------------------------------------

namespace KszDriver

/- Of the requests that wait for no event this one alone may
   have changed. -/
structure Touches
    (mine : Option APTR) (d d' : Driver) : Prop where
  reqs : ∀ r, mine ≠ some r → r ∉ d.lists .euEvents →
    d'.reqs r = d.reqs r
  unit : d'.unit = d.unit
  bms : d'.bms = d.bms

section Touching

variable (d : Driver) (ios2 : APTR) (mine : Option APTR)

theorem touches_of_reqs
    {d d' : Driver}
    (hReqs : d'.reqs = d.reqs)
    (hRest : d'.rest = d.rest) :
    Touches mine d d' where
  reqs := fun _ _ _ => congrFun hReqs _
  unit := Driver.unit_of_rest hRest
  bms := congrArg Driver.Rest.bms hRest

theorem touches_setReq (f : IOSana2Req → IOSana2Req) :
    Touches (some ios2) d (d.setReq ios2 f) where
  reqs := by
    intro r hOther _
    rw [Driver.reqs_setReq, if_neg]
    rintro rfl
    exact hOther rfl
  unit := rfl
  bms := rfl

theorem touches_termIo :
    Touches (some ios2) d (d.termIo ios2) where
  reqs := by
    intro r hOther _
    apply Driver.reqs_termIo_of_ne
    rintro rfl
    exact hOther rfl
  unit := Driver.unit_of_rest (Driver.rest_termIo d ios2)
  bms := congrArg Driver.Rest.bms (Driver.rest_termIo d ios2)

theorem touches_doEvent (events : ULONG) :
    Touches mine d (d.doEvent events) where
  reqs := fun _ _ hFree =>
    (Driver.spares_doEvent d events hFree).reqs
  unit := Driver.unit_of_rest (Driver.rest_doEvent d events)
  bms := congrArg Driver.Rest.bms (Driver.rest_doEvent d events)

theorem touches_putMsg (head : ListHead) :
    Touches (some ios2) d (d.putMsg head ios2) where
  reqs := (touches_setReq d ios2 (fun req =>
    { req with lnType := ntMessage })).reqs
  unit := rfl
  bms := rfl

end Touching

theorem Touches.trans
    {mine : Option APTR}
    {d d' d'' : Driver}
    (hFirst : Touches mine d d')
    (hSecond : Touches mine d' d'')
    (hEvents : ∀ r ∈ d'.lists .euEvents,
      r ∈ d.lists .euEvents) :
    Touches mine d d'' where
  reqs := fun r hOther hFree =>
    (hSecond.reqs r hOther
      (fun hMem => hFree (hEvents r hMem))).trans
        (hFirst.reqs r hOther hFree)
  unit := hSecond.unit.trans hFirst.unit
  bms := hSecond.bms.trans hFirst.bms

namespace Writers

section Moves

variable {n : Nat} {s s' : Writers n} {t : Fin n}
variable {stage : Stage} {d : Driver} {ios2 : APTR}
variable {mine : Option APTR}

/- Going on gives no frame to the chip and ends nothing. -/
theorem Unmixed.move (hUnmixed : s.Unmixed) :
    (s.move t stage d).Unmixed :=
  ⟨hUnmixed.own, hUnmixed.settled, hUnmixed.told⟩

/- A step touches the request that the task works on or
   takes. -/
theorem advances_of_touches
    (hGoes : s'.stage = Function.update s.stage t stage)
    (hOutcome : s'.outcome = s.outcome)
    (hAccounts : ∀ r, mine ≠ some r →
      s'.accounts r = s.accounts r)
    (hTouches : Touches mine s.driver s'.driver)
    (hMine : mine = (s.stage t).request ∨ mine = stage.request)
    (hBuffer : (s.stage t).stores = false →
      s'.driver.sendBuffer = s.driver.sendBuffer)
    (hBuilds : stage.builds = true →
      (s.stage t).builds = true ∨ (s.stage t).stores = true) :
    Advances t stage s s' where
  goes := hGoes
  leaves := by
    intro r _ hBefore hAfter hFree
    have hOther : mine ≠ some r := by
      rcases hMine with rfl | rfl
      · exact hBefore
      · exact hAfter
    exact
      { req := hTouches.reqs r hOther hFree
        unit := hTouches.unit
        bms := hTouches.bms
        dma := by rw [hOutcome]
        copy := by rw [hOutcome]
        account := hAccounts r hOther }
  buffer := hBuffer
  builds := hBuilds

namespace Sound

/- A step that calls neither driver nor client. -/
theorem move
    (hSound : s.Sound)
    (hTouches : Touches mine s.driver d)
    (hMine : mine = (s.stage t).request ∨ mine = stage.request)
    (hApart : (s.stage t).stores = true → s.HasBuffer t)
    (hBuffer : (s.stage t).stores = false →
      d.sendBuffer = s.driver.sendBuffer)
    (hBuilds : stage.builds = true →
      (s.stage t).builds = true ∨ (s.stage t).stores = true)
    (hCustody : ∃ held, (s.move t stage d).Custody held)
    (hQueued : ∀ r ∈ d.lists .euTx,
      r ∈ s.driver.lists .euTx ∨ (s.move t stage d).Ready r)
    (hDoing : (s.move t stage d).Doing stage) :
    (s.move t stage d).Sound :=
  hSound.advance
    (advances_of_touches rfl rfl (fun _ _ => rfl) hTouches
      hMine hBuffer hBuilds)
    hApart hCustody hQueued hDoing hSound.unmixed.move

/- A step of a task that goes on with its request. -/
theorem keep
    (hSound : s.Sound)
    (hSame : stage.request = (s.stage t).request)
    (hTouches : Touches stage.request s.driver d)
    (hApart : (s.stage t).stores = true → s.HasBuffer t)
    (hBuffer : (s.stage t).stores = false →
      d.sendBuffer = s.driver.sendBuffer)
    (hBuilds : stage.builds = true →
      (s.stage t).builds = true ∨ (s.stage t).stores = true)
    (hLists : d.lists .euTx = s.driver.lists .euTx)
    (hCon : ∀ held,
      s.driver.Conserved custodyPolicy held →
        d.Conserved custodyPolicy held)
    (hDoing : (s.move t stage d).Doing stage) :
    (s.move t stage d).Sound := by
  rcases hSound.custody with ⟨held, hHeld⟩
  refine hSound.move hTouches (Or.inr rfl) hApart hBuffer
    hBuilds
    ⟨held, hHeld.keep rfl hSame (hCon held hHeld.conserved)⟩
    ?_ hDoing
  intro r hMem
  rw [hLists] at hMem
  exact Or.inl hMem

end Sound

end Moves

------------------------------------------------------------
-- The Transmit Queue
------------------------------------------------------------

section Queueing

variable {n : Nat} {s : Writers n} {t : Fin n}
variable {ios2 : APTR}

/- What a task at a stage is sure of. -/
theorem Sound.doing_of_stage
    {stage : Stage}
    (hSound : s.Sound)
    (hStage : s.stage t = stage) :
    s.Doing stage := by
  have hDoing := hSound.doing t
  rw [hStage] at hDoing
  exact hDoing

/- Only the node type of the request has changed. -/
theorem Ready.putMsg
    {stage : Stage}
    (hReady : s.Ready ios2) :
    (s.move t stage (s.driver.putMsg .euTx ios2)).Ready
      ios2 where
  frame := by
    have hReq :
        (s.driver.putMsg .euTx ios2).reqs ios2 =
          { s.driver.reqs ios2 with lnType := ntMessage } := by
      simp [Driver.putMsg]
    show (s.accounts ios2).frame = FrameOf s.outcome ios2
      ((s.driver.putMsg .euTx ios2).reqs ios2)
      (s.driver.putMsg .euTx ios2)
    have hFrame :
        FrameOf s.outcome ios2
            { s.driver.reqs ios2 with lnType := ntMessage }
            s.driver =
          FrameOf s.outcome ios2 (s.driver.reqs ios2)
            s.driver := rfl
    rw [hReady.frame, hReq, ← hFrame]
    symm
    refine frameOf_congr _ ?_ ?_ ?_ rfl rfl
    · rfl
    · rfl
    · rw [hReq]
  calls := hReady.calls

theorem Sound.queue
    (hSound : s.Sound)
    (hStage : s.stage t = .queueing ios2) :
    (s.move t .draining
      (s.driver.putMsg .euTx ios2)).Sound := by
  have hReady : s.Ready ios2 := hSound.doing_of_stage hStage
  have hRequest : (s.stage t).request = some ios2 := by
    rw [hStage]
    rfl
  rcases hSound.custody with ⟨held, hHeld⟩
  refine hSound.move (touches_putMsg s.driver ios2 .euTx)
    (Or.inl hRequest.symm) ?_ (fun _ => rfl) ?_ ?_ ?_ trivial
  · intro hStores
    rw [hStage] at hStores
    cases hStores
  · intro hBuilds
    cases hBuilds
  · exact ⟨_, hHeld.release rfl hRequest rfl
      (fun rest hCon => hCon.putMsg ⟨trivial, trivial⟩)⟩
  · intro r hMem
    have hLists :
        (s.driver.putMsg .euTx ios2).lists .euTx =
          s.driver.lists .euTx ++ [ios2] := by
      simp [Driver.putMsg]
    rw [hLists, List.mem_append, List.mem_singleton] at hMem
    rcases hMem with hBefore | rfl
    · exact Or.inl hBefore
    · exact Or.inr hReady.putMsg

/- Nothing is left to send. -/
theorem Sound.drained
    (hSound : s.Sound)
    (hStage : s.stage t = .draining) :
    (s.move t .idle s.driver).Sound := by
  refine hSound.keep ?_ (touches_of_reqs _ rfl rfl) ?_
    (fun _ => rfl) ?_ rfl (fun _ hCon => hCon) trivial
  · rw [hStage]
    rfl
  · intro hStores
    rw [hStage] at hStores
    cases hStores
  · intro hBuilds
    cases hBuilds

/- The task takes a request from the queue. -/
theorem Sound.take
    {stage : Stage}
    {d : Driver}
    (hSound : s.Sound)
    (hStage : s.stage t = .draining)
    (hMem : ios2 ∈ s.driver.lists .euTx)
    (hRequest : stage.request = some ios2)
    (hBuilds : stage.builds = false)
    (hTouches :
      Touches (some ios2) (s.driver.remove ios2) d)
    (hBuffer : d.sendBuffer = s.driver.sendBuffer)
    (hLists : d.lists = (s.driver.remove ios2).lists)
    (hCon : ∀ held,
      (s.driver.remove ios2).Conserved custodyPolicy held →
        d.Conserved custodyPolicy held)
    (hDoing : (s.move t stage d).Doing stage) :
    (s.move t stage d).Sound := by
  have hRemoved :
      Touches (some ios2) s.driver (s.driver.remove ios2) :=
    touches_of_reqs _ rfl rfl
  have hTaken : Touches (some ios2) s.driver d :=
    hRemoved.trans hTouches
      (fun _ hIn => List.mem_of_mem_erase hIn)
  rcases hSound.custody with ⟨held, hHeld⟩
  refine hSound.move hTaken (Or.inr hRequest.symm) ?_
    (fun _ => hBuffer) ?_ ?_ ?_ hDoing
  · intro hStores
    rw [hStage] at hStores
    cases hStores
  · intro hBuilder
    rw [hBuilds] at hBuilder
    cases hBuilder
  · refine ⟨ios2 :: held, hHeld.take rfl ?_ hRequest ?_⟩
    · rw [hStage]
      rfl
    · exact hCon _ (hHeld.conserved.remove hMem)
  · intro r hIn
    rw [hLists] at hIn
    exact Or.inl (List.mem_of_mem_erase hIn)

/- A request that failed is not said to be sent. -/
theorem doing_fail
    {ioError : Int}
    {d : Driver}
    (hError : ioError ≠ 0) :
    (s.fail t ios2 ioError d).Doing (.reporting ios2) := by
  intro hNone
  have hReq :
      ((s.fail t ios2 ioError d).driver.reqs ios2).ioError =
        ioError := by
    simp [fail, move, Driver.setErrorOnRequest]
  rw [hReq] at hNone
  exact absurd hNone hError

theorem Sound.fetched
    (hSound : s.Sound)
    (hStage : s.stage t = .draining)
    (hMem : ios2 ∈ s.driver.lists .euTx) :
    (s.fetched t ios2 (s.driver.remove ios2)).Sound := by
  have hReady : s.Ready ios2 := hSound.queued ios2 hMem
  have hLeaves (stage : Stage) :
      Leaves ios2 s (s.move t stage (s.driver.remove ios2)) :=
    ⟨rfl, rfl, rfl, rfl, rfl, rfl⟩
  have hGoesOn (stage : Stage)
      (hRequest : stage.request = some ios2)
      (hBuilds : stage.builds = false)
      (hDoing :
        (s.move t stage (s.driver.remove ios2)).Doing stage) :
      (s.move t stage (s.driver.remove ios2)).Sound :=
    hSound.take hStage hMem hRequest hBuilds
      (touches_of_reqs _ rfl rfl) rfl rfl (fun _ hCon => hCon)
      hDoing
  have hFails :
      (s.fail t ios2 s2errMtuExceeded
        (s.driver.remove ios2)).Sound :=
    hSound.take hStage hMem rfl rfl (touches_setReq _ _ _) rfl
      rfl (fun _ hCon => hCon.setError _ _ _)
      (doing_fail (by decide))
  unfold Writers.fetched
  dsimp only
  split
  · rename_i hRaw
    split
    · exact hGoesOn _ rfl rfl
        { toReady := hReady.leaves (hLeaves _)
          raw := hRaw }
    · exact hFails
  · rename_i hCooked
    split
    · rename_i hShort
      split
      · rename_i packet hPacket
        exact hGoesOn _ rfl rfl
          { toReady := hReady.leaves (hLeaves _)
            cooked := hCooked
            short := hShort
            packet := hPacket }
      · rename_i hPacket
        exact hGoesOn _ rfl rfl
          { toReady := hReady.leaves (hLeaves _)
            cooked := hCooked
            short := hShort
            packet := hPacket }
    · exact hFails

end Queueing

------------------------------------------------------------
-- The Stores
------------------------------------------------------------

section Storing

variable {n : Nat} {s : Writers n} {t : Fin n}
variable {ios2 : APTR}

/- A store of the task that has the send buffer. -/
theorem Sound.store
    {stage : Stage}
    {m : Memory}
    (hSound : s.Sound)
    (hApart : s.HasBuffer t)
    (hStores : (s.stage t).stores = true)
    (hSame : stage.request = (s.stage t).request)
    (hDoing :
      (s.move t stage
        { s.driver with sendBuffer := m }).Doing stage) :
    (s.move t stage { s.driver with sendBuffer := m }).Sound := by
  refine hSound.keep hSame ?_ (fun _ => hApart) ?_
    (fun _ => Or.inr hStores) rfl
    (fun _ hCon => hCon.of_rest rfl rfl rfl) hDoing
  · exact ⟨fun _ _ _ => rfl, rfl, rfl⟩
  · intro hNot
    rw [hStores] at hNot
    cases hNot

/- A store changes the send buffer alone. -/
theorem leaves_store
    (stage : Stage)
    (m : Memory) :
    Leaves ios2 s
      (s.move t stage { s.driver with sendBuffer := m }) :=
  ⟨rfl, rfl, rfl, rfl, rfl, rfl⟩

theorem Sound.storeDst
    (hSound : s.Sound)
    (hApart : s.HasBuffer t)
    (hStage : s.stage t = .storingDst ios2) :
    (s.move t (.storingSrc ios2)
      (storeDst ios2 s.driver)).Sound := by
  have hReady : s.ReadyCooked ios2 none :=
    hSound.doing_of_stage hStage
  exact hSound.store hApart (by rw [hStage]; rfl)
    (by rw [hStage]; rfl)
    { toReadyCooked := hReady.leaves (leaves_store _ _)
      dst := Memory.bytes_copyInto_zero _ _ }

theorem Sound.storeSrc
    (hSound : s.Sound)
    (hApart : s.HasBuffer t)
    (hStage : s.stage t = .storingSrc ios2) :
    (s.move t (.storingType ios2)
      (storeSrc s.driver)).Sound := by
  have hHas : s.HasDst ios2 := hSound.doing_of_stage hStage
  refine hSound.store hApart (by rw [hStage]; rfl)
    (by rw [hStage]; rfl)
    { toReadyCooked :=
        hHas.toReadyCooked.leaves (leaves_store _ _)
      dst := ?_
      src := Memory.bytes_copyInto _ _ }
  refine Eq.trans (Memory.bytes_congr ?_) hHas.dst
  intro i hIn
  exact Memory.copyInto_before _ _ hIn

theorem Sound.storeType
    (hSound : s.Sound)
    (hApart : s.HasBuffer t)
    (hStage : s.stage t = .storingType ios2) :
    (s.move t (.copying ios2)
      (storeType ios2 s.driver)).Sound := by
  have hHas : s.HasSrc ios2 := hSound.doing_of_stage hStage
  refine hSound.store hApart (by rw [hStage]; rfl)
    (by rw [hStage]; rfl)
    { toReadyCooked :=
        hHas.toReadyCooked.leaves (leaves_store _ _)
      dst := ?_
      src := ?_
      type := wordOf_bytes _ }
  · refine Eq.trans (Memory.bytes_congr ?_) hHas.dst
    intro i hIn
    exact Memory.storeTwo_before _ _ _ (by omega)
  · refine Eq.trans (Memory.bytes_congr ?_) hHas.src
    intro i hIn
    exact Memory.storeTwo_before _ _ _ (by omega)

/- `CopyFromBuffer` is the last store. -/
theorem Sound.copied
    {offset : Nat}
    {stage : Stage}
    (hSound : s.Sound)
    (hApart : s.HasBuffer t)
    (hStores : (s.stage t).stores = true)
    (hRequest : (s.stage t).request = some ios2)
    (hSame : stage.request = some ios2)
    (hDoing :
      (s.move t stage
        (s.driver.copyFromBuffer s.outcome ios2
          offset)).Doing stage) :
    (s.copied t ios2 offset stage).Sound := by
  have hNot : (s.stage t).stores = false → False := by
    intro hNot
    rw [hStores] at hNot
    cases hNot
  unfold Writers.copied
  dsimp only
  split
  · refine hSound.keep (hSame.trans hRequest.symm)
      ⟨fun _ _ _ => rfl, rfl, rfl⟩ (fun _ => hApart)
      (fun h => (hNot h).elim) (fun _ => Or.inr hStores) rfl
      (fun _ hCon => hCon.copyFromBuffer _ _ _) hDoing
  · refine hSound.keep hRequest.symm ?_ (fun _ => hApart)
      (fun h => (hNot h).elim) (fun _ => Or.inr hStores) rfl
      (fun _ hCon =>
        (hCon.copyFromBuffer _ _ _).setError _ _ _)
      (doing_fail (by decide))
    exact
      { reqs := (touches_setReq
          (s.driver.copyFromBuffer s.outcome ios2 offset) ios2
          _).reqs
        unit := rfl
        bms := rfl }

theorem Sound.copyRaw
    (hSound : s.Sound)
    (hApart : s.HasBuffer t)
    (hStage : s.stage t = .copyingRaw ios2) :
    (s.copied t ios2 0 (.sendingRaw ios2)).Sound := by
  have hReady : s.ReadyRaw ios2 := hSound.doing_of_stage hStage
  have hLeaves :
      Leaves ios2 s
        (s.move t (.sendingRaw ios2)
          (s.driver.copyFromBuffer s.outcome ios2 0)) :=
    ⟨rfl, rfl, rfl, rfl, rfl, rfl⟩
  exact hSound.copied hApart (by rw [hStage]; rfl)
    (by rw [hStage]; rfl) rfl
    { toReadyRaw := hReady.leaves hLeaves
      payload := Memory.bytes_copyInto_zero _ _ }

theorem Sound.copyCooked
    (hSound : s.Sound)
    (hApart : s.HasBuffer t)
    (hStage : s.stage t = .copying ios2) :
    (s.copied t ios2 etherPacketHeadSize
      (.sending ios2)).Sound := by
  have hHas : s.HasHeader ios2 := hSound.doing_of_stage hStage
  have hLeaves :
      Leaves ios2 s
        (s.move t (.sending ios2)
          (s.driver.copyFromBuffer s.outcome ios2
            etherPacketHeadSize)) :=
    ⟨rfl, rfl, rfl, rfl, rfl, rfl⟩
  have hHead :
      ∀ i, i < 14 →
        (s.driver.copyFromBuffer s.outcome ios2
          etherPacketHeadSize).sendBuffer i =
            s.driver.sendBuffer i :=
    fun _ hIn => Memory.copyInto_before _ _ hIn
  refine hSound.copied hApart (by rw [hStage]; rfl)
    (by rw [hStage]; rfl) rfl
    { toReadyCooked := hHas.toReadyCooked.leaves hLeaves
      dst := ?_
      src := ?_
      type := ?_
      payload := Memory.bytes_copyInto _ _ }
  · refine Eq.trans (Memory.bytes_congr ?_) hHas.dst
    intro i hIn
    exact hHead i (by omega)
  · refine Eq.trans (Memory.bytes_congr ?_) hHas.src
    intro i hIn
    exact hHead (6 + i) (by omega)
  · refine Eq.trans ?_ hHas.type
    exact congrArg₂ wordOf (hHead 12 (by omega))
      (hHead 13 (by omega))

end Storing

------------------------------------------------------------
-- Calls and Replies
------------------------------------------------------------

section Calling

variable {n : Nat} {s : Writers n} {t : Fin n}
variable {ios2 : APTR} {p : NicM ErrorT}

/- A frame that was given once is the own one. -/
theorem own_of_givenOnce
    {a : Account}
    (hGiven : a.GivenOnce) :
    a.Own := by
  rcases hGiven with ⟨c, hCalls, hGives⟩
  intro c' hMem
  rw [hCalls, List.mem_singleton] at hMem
  rw [hMem]
  exact Or.inr hGives

theorem own_of_calls
    {a : Account}
    (hCalls : a.calls = []) :
    a.Own := by
  intro c hMem
  rw [hCalls] at hMem
  cases hMem

/- The call sends the frame that the client asked for. -/
theorem givenOnce_call
    (hReady : s.Ready ios2)
    (hTransmits :
      Transmits p (s.accounts ios2).frame s.driver.nic) :
    ((s.call t ios2 p).accounts ios2).GivenOnce := by
  have hAccount :
      (s.call t ios2 p).accounts ios2 =
        { frame := (s.accounts ios2).frame
          calls :=
            [{ before := s.driver.nic
               after := (p.runOn s.driver.nic).2 }] } := by
    simp [call, hReady.calls]
  rw [hAccount]
  exact ⟨_, rfl, hTransmits.2⟩

theorem accounts_call_of_ne
    {r : APTR}
    (hOther : some ios2 ≠ some r) :
    (s.call t ios2 p).accounts r = s.accounts r := by
  have hNe : r ≠ ios2 := by
    rintro rfl
    exact hOther rfl
  exact Function.update_of_ne hNe _ _

theorem Unmixed.call
    (hUnmixed : s.Unmixed)
    (hGiven : ((s.call t ios2 p).accounts ios2).GivenOnce) :
    (s.call t ios2 p).Unmixed where
  own := by
    intro r
    by_cases hSame : some ios2 = some r
    · cases hSame
      exact own_of_givenOnce hGiven
    · rw [accounts_call_of_ne hSame]
      exact hUnmixed.own r
  settled := hUnmixed.settled
  told := hUnmixed.told

theorem Sound.call
    (hSound : s.Sound)
    (hRequest : (s.stage t).request = some ios2)
    (hStores : (s.stage t).stores = false)
    (hReady : s.Ready ios2)
    (hTransmits :
      Transmits p (s.accounts ios2).frame s.driver.nic) :
    (s.call t ios2 p).Sound := by
  have hGiven := givenOnce_call (t := t) hReady hTransmits
  have hTouches :
      Touches (some ios2) s.driver (s.call t ios2 p).driver :=
    ⟨fun _ _ _ => rfl, rfl, rfl⟩
  rcases hSound.custody with ⟨held, hHeld⟩
  refine hSound.advance
    (advances_of_touches rfl rfl
      (fun r hOther => accounts_call_of_ne hOther) hTouches
      (Or.inl hRequest.symm) (fun _ => rfl)
      (fun hBuilds => (nomatch hBuilds)))
    ?_ ⟨held, hHeld.keep rfl hRequest.symm ?_⟩
    (fun r hMem => Or.inl hMem) (fun _ => hGiven)
    (hSound.unmixed.call hGiven)
  · intro hNot
    rw [hStores] at hNot
    cases hNot
  · exact hHeld.conserved.runSend ios2 p

/- The frame of a raw packet is its bytes. -/
theorem Sound.sendRaw
    (hSound : s.Sound)
    (hStage : s.stage t = .sendingRaw ios2)
    (hAccepts :
      LowLevelAccepts (s.driver.reqs ios2) s.driver.nic) :
    (s.call t ios2
      (ksz8851SendPacket s.driver.sendBuffer
        (s.driver.reqs ios2).dataLength.toNat)).Sound := by
  have hHas : s.HasRawPacket ios2 :=
    hSound.doing_of_stage hStage
  apply hSound.call (by rw [hStage]; rfl) (by rw [hStage]; rfl)
    hHas.toReady
  unfold LowLevelAccepts at hAccepts
  rw [if_pos hHas.raw] at hAccepts
  apply transmits_raw _ hAccepts
  rw [hHas.frame]
  unfold FrameOf
  rw [if_pos hHas.raw]
  exact hHas.payload.symm

/- The frame of a cooked packet is put together from its
   parts. -/
theorem ReadyCooked.transmits
    {packet : Option Memory}
    {dst src payload : Memory}
    (hReady : s.ReadyCooked ios2 packet)
    (hAccepts :
      LowLevelAccepts (s.driver.reqs ios2) s.driver.nic)
    (hDst : dst.bytes 6 =
      (s.driver.reqs ios2).dstAddr.memory.bytes 6)
    (hSrc : src.bytes 6 =
      s.driver.unit.stAddr.memory.bytes 6)
    (hPayload :
      payload.bytes (s.driver.reqs ios2).dataLength.toNat =
        (payloadOf s.outcome ios2 s.driver).bytes
          (s.driver.reqs ios2).dataLength.toNat) :
    Transmits
      (ksz8851SendPacketCooked dst src
        (s.driver.reqs ios2).packetTypeWord payload
        (s.driver.reqs ios2).dataLength.toNat)
      (s.accounts ios2).frame s.driver.nic := by
  unfold LowLevelAccepts at hAccepts
  rw [if_neg hReady.cooked] at hAccepts
  apply transmits_cooked _ _ _ _ hReady.short hAccepts
  intro frame hFrame
  rw [hReady.frame]
  unfold FrameOf
  rw [if_neg hReady.cooked]
  exact hFrame.congr hDst hSrc hPayload

theorem Sound.sendCooked
    (hSound : s.Sound)
    (hStage : s.stage t = .sending ios2)
    (hAccepts :
      LowLevelAccepts (s.driver.reqs ios2) s.driver.nic) :
    (s.call t ios2
      (ksz8851SendPacketCooked s.driver.sendBuffer
        (s.driver.sendBuffer.drop 6)
        (s.driver.sendBuffer.wordAt 12)
        (s.driver.sendBuffer.drop etherPacketHeadSize)
        (s.driver.reqs ios2).dataLength.toNat)).Sound := by
  have hHas : s.HasPacket ios2 := hSound.doing_of_stage hStage
  apply hSound.call (by rw [hStage]; rfl) (by rw [hStage]; rfl)
    hHas.toReady
  rw [hHas.type]
  apply hHas.toReadyCooked.transmits hAccepts hHas.dst hHas.src
  rw [hHas.payload]
  unfold payloadOf
  rw [hHas.packet]

theorem Sound.sendDma
    {packet : Memory}
    (hSound : s.Sound)
    (hStage : s.stage t = .sendingDma ios2 packet)
    (hAccepts :
      LowLevelAccepts (s.driver.reqs ios2) s.driver.nic) :
    (s.call t ios2
      (ksz8851SendPacketCooked
        (s.driver.reqs ios2).dstAddr.memory
        s.driver.unit.stAddr.memory
        (s.driver.reqs ios2).packetTypeWord packet
        (s.driver.reqs ios2).dataLength.toNat)).Sound := by
  have hReady : s.ReadyCooked ios2 (some packet) :=
    hSound.doing_of_stage hStage
  apply hSound.call (by rw [hStage]; rfl) (by rw [hStage]; rfl)
    hReady.toReady
  apply hReady.transmits hAccepts rfl rfl
  unfold payloadOf
  rw [hReady.packet]

/- Events are told to other clients. -/
theorem Sound.report
    (hSound : s.Sound)
    (hStage : s.stage t = .reporting ios2) :
    (s.move t (.replying ios2)
      (if (s.driver.reqs ios2).wireError ≠ 0#32 then
        s.driver.doEvent s2eventBuff
      else s.driver)).Sound := by
  have hTold :
      (s.driver.reqs ios2).ioError = 0 →
        (s.accounts ios2).GivenOnce :=
    hSound.doing_of_stage hStage
  have hStores : (s.stage t).stores = true → s.HasBuffer t := by
    intro hStores
    rw [hStage] at hStores
    cases hStores
  have hRequest : some ios2 = (s.stage t).request := by
    rw [hStage]
    rfl
  rcases hSound.custody with ⟨held, hHeld⟩
  have hFree : ios2 ∉ s.driver.lists .euEvents :=
    hHeld.conserved.heldApart ios2
      ((hHeld.held ios2).mpr ⟨t, hRequest.symm⟩) _
  split
  · refine hSound.keep hRequest (touches_doEvent _ _ _)
      hStores ?_ (fun hBuilds => (nomatch hBuilds)) ?_
      (fun _ hCon => hCon.doEvent _) ?_
    · intro _
      exact congrArg Driver.Rest.sendBuffer
        (Driver.rest_doEvent _ _)
    · exact Driver.lists_doEvent_of_ne _
        hHeld.conserved.toLinked (by decide)
    · have hReq :
          (s.driver.doEvent s2eventBuff).reqs ios2 =
            s.driver.reqs ios2 :=
        (Driver.spares_doEvent _ _ hFree).reqs
      show ((s.driver.doEvent s2eventBuff).reqs ios2).ioError =
        0 → (s.accounts ios2).GivenOnce
      rw [hReq]
      exact hTold
  · exact hSound.keep hRequest (touches_of_reqs _ rfl rfl)
      hStores (fun _ => rfl) (fun hBuilds => (nomatch hBuilds))
      rfl (fun _ hCon => hCon) hTold

theorem Sound.announce
    {event : ULONG}
    (hSound : s.Sound)
    (hStage : s.stage t = .announcing event) :
    (s.move t .idle (s.driver.doEvent event)).Sound := by
  rcases hSound.custody with ⟨held, hHeld⟩
  refine hSound.keep ?_ (touches_doEvent _ _ _) ?_ ?_
    (fun hBuilds => (nomatch hBuilds)) ?_
    (fun _ hCon => hCon.doEvent _) trivial
  · rw [hStage]
    rfl
  · intro hStores
    rw [hStage] at hStores
    cases hStores
  · intro _
    exact congrArg Driver.Rest.sendBuffer
      (Driver.rest_doEvent _ _)
  · exact Driver.lists_doEvent_of_ne _
      hHeld.conserved.toLinked (by decide)

/- A reply tells the truth if the task knows it. -/
theorem Unmixed.reply
    {stage : Stage}
    (hUnmixed : s.Unmixed)
    (hTold : (s.driver.reqs ios2).ioError = 0 →
      (s.accounts ios2).GivenOnce) :
    (s.reply t ios2 stage).Unmixed where
  own := hUnmixed.own
  settled := by
    intro e hMem
    rcases List.mem_cons.mp hMem with rfl | hMem
    · exact hUnmixed.own ios2
    · exact hUnmixed.settled e hMem
  told := by
    intro e hMem
    rcases List.mem_cons.mp hMem with rfl | hMem
    · exact hTold
    · exact hUnmixed.told e hMem

theorem Sound.reply
    {stage : Stage}
    (hSound : s.Sound)
    (hRequest : (s.stage t).request = some ios2)
    (hStores : (s.stage t).stores = false)
    (hNone : stage.request = none)
    (hBuilds : stage.builds = false)
    (hTold : (s.driver.reqs ios2).ioError = 0 →
      (s.accounts ios2).GivenOnce)
    (hDoing : (s.reply t ios2 stage).Doing stage) :
    (s.reply t ios2 stage).Sound := by
  rcases hSound.custody with ⟨held, hHeld⟩
  refine hSound.advance
    (advances_of_touches rfl rfl (fun _ _ => rfl)
      (touches_termIo s.driver ios2) (Or.inl hRequest.symm)
      ?_ ?_)
    ?_ ⟨_, hHeld.release rfl hRequest hNone
      (fun _ hCon => hCon.termIo)⟩ ?_ hDoing
    (hSound.unmixed.reply hTold)
  · intro _
    exact congrArg Driver.Rest.sendBuffer
      (Driver.rest_termIo _ _)
  · intro hBuilder
    rw [hBuilds] at hBuilder
    cases hBuilder
  · intro hNot
    rw [hStores] at hNot
    cases hNot
  · intro r hMem
    change r ∈ (s.driver.termIo ios2).lists .euTx at hMem
    rw [Driver.lists_termIo] at hMem
    exact Or.inl hMem

end Calling

------------------------------------------------------------
-- Submitting
------------------------------------------------------------

section Submitting

variable {n : Nat} {s : Writers n} {t : Fin n}
variable {ios2 : APTR} {req : IOSana2Req} {o : Outcome}

/- What submitting has changed when the request is about to
   be queued or rejected. -/
structure Submits
    (ios2 : APTR) (d d' : Driver) : Prop where
  reqs : ∀ r, r ≠ ios2 → d'.reqs r = d.reqs r
  rest : d'.rest = d.rest
  lists : d'.lists = d.lists
  conserved : ∀ held, d.Conserved custodyPolicy held →
    d'.Conserved custodyPolicy (ios2 :: held)

/- The task has taken the request from the client. -/
theorem Sound.accept
    {stage : Stage}
    {d : Driver}
    {a : Account}
    (hSound : s.Sound)
    (hOwned : s.driver.Owned ios2)
    (hIdle : s.stage t = .idle)
    (hSubmits : Submits ios2 s.driver d)
    (hRequest : stage.request = some ios2)
    (hBuilds : stage.builds = false)
    (hCalls : a.calls = [])
    (hDoing :
      ({ s with
        outcome := s.outcome.withRequest ios2 o
        accounts := Function.update s.accounts ios2 a }.move t
          stage d).Doing stage) :
    ({ s with
      outcome := s.outcome.withRequest ios2 o
      accounts := Function.update s.accounts ios2 a }.move t
        stage d).Sound := by
  rcases hSound.custody with ⟨held, hHeld⟩
  refine hSound.advance
    { goes := rfl
      leaves := ?_
      buffer := ?_
      builds := ?_ }
    ?_ ⟨ios2 :: held, hHeld.take rfl ?_ hRequest ?_⟩ ?_ hDoing
    { own := ?_
      settled := hSound.unmixed.settled
      told := hSound.unmixed.told }
  · intro r hDue _ _ _
    have hOther : r ≠ ios2 := by
      rintro rfl
      exact hOwned hDue
    exact
      { req := hSubmits.reqs r hOther
        unit := Driver.unit_of_rest hSubmits.rest
        bms := congrArg Driver.Rest.bms hSubmits.rest
        dma := Function.update_of_ne hOther _ _
        copy := Function.update_of_ne hOther _ _
        account := Function.update_of_ne hOther _ _ }
  · intro _
    exact congrArg Driver.Rest.sendBuffer hSubmits.rest
  · intro hBuilder
    rw [hBuilds] at hBuilder
    cases hBuilder
  · intro hStores
    rw [hIdle] at hStores
    cases hStores
  · rw [hIdle]
    rfl
  · exact hSubmits.conserved held hHeld.conserved
  · intro r hMem
    change r ∈ d.lists .euTx at hMem
    rw [hSubmits.lists] at hMem
    exact Or.inl hMem
  · intro r
    by_cases hSame : r = ios2
    · subst hSame
      apply own_of_calls
      exact (congrArg Account.calls
        (Function.update_self r a s.accounts)).trans hCalls
    · show (Function.update s.accounts ios2 a r).Own
      rw [Function.update_of_ne hSame]
      exact hSound.unmixed.own r

/- `DeviceBeginIO` up to the command itself. -/
theorem submits_dispatched
    {d : Driver}
    (hOwned : d.Owned ios2)
    (req : IOSana2Req) :
    Submits ios2 d
      ((d.setReq ios2 (fun _ => req)).dispatched ios2) where
  reqs := by
    intro r hOther
    unfold Driver.dispatched
    dsimp only
    split <;> simp [hOther]
  rest := (dispatched_dispatched _ _).rest
  lists := (dispatched_dispatched _ _).lists
  conserved := by
    intro held hCon
    have hEntered :=
      (hCon.setReq_of_owned hOwned (fun _ => req)).submit hOwned
    have hReset :=
      hEntered.setReq_of_core ios2
        (fun req => { req with ioError := 0 }) rfl
    unfold Driver.dispatched
    dsimp only
    split
    · exact hReset.setReq_of_core ios2
        (fun req =>
          { req with dstAddr := broadcastAddress }) rfl
    · exact hReset

/- The command goes on to change the request. -/
theorem Submits.setReq
    {d d' : Driver}
    {f : IOSana2Req → IOSana2Req}
    (hSubmits : Submits ios2 d d')
    (hCore : (f (d'.reqs ios2)).core =
        (d'.reqs ios2).core ∨
      (f (d'.reqs ios2)).core = (d'.reqs ios2).core.calm) :
    Submits ios2 d (d'.setReq ios2 f) where
  reqs := by
    intro r hOther
    rw [Driver.reqs_setReq, if_neg hOther]
    exact hSubmits.reqs r hOther
  rest := hSubmits.rest
  lists := hSubmits.lists
  conserved := by
    intro held hCon
    have hEntered := hSubmits.conserved held hCon
    rcases hCore with hCore | hCore
    · exact hEntered.setReq_of_core ios2 f hCore
    · exact hEntered.setReq_calm f hCore

/- The quick bit of a write request is cleared. -/
theorem core_clearQuick (req : IOSana2Req) :
    { req with
      ioFlags := req.ioFlags &&& ~~~iofQuick
      lnType := ntMessage }.core = req.core.calm := by
  simp [IOSana2Req.core, IOSana2Req.Quick, Core.calm,
    calm_flags]

/- The request that is queued asks for the frame that the
   client asked for. -/
theorem frameOf_queued
    {client d : Driver}
    (hDispatched : Dispatched ios2 client d) :
    FrameOf (s.outcome.withRequest ios2 o) ios2
        { d.reqs ios2 with
          ioFlags := (d.reqs ios2).ioFlags &&& ~~~iofQuick
          lnType := ntMessage }
        (d.setReq ios2 (fun req =>
          { req with
            ioFlags := req.ioFlags &&& ~~~iofQuick
            lnType := ntMessage })) =
      RequestedFrame o ios2 client := by
  rw [hDispatched.req]
  unfold RequestedFrame
  refine frameOf_congr _ ?_ ?_ ?_ ?_ ?_
  · exact Driver.unit_of_rest hDispatched.rest
  · exact congrArg Driver.Rest.bms hDispatched.rest
  · simp [hDispatched.req]
  · exact Function.update_self _ _ _
  · exact Function.update_self _ _ _

/- A request in error when it is turned down. -/
theorem doing_rejecting
    {event : Option ULONG}
    {ioError : Int}
    {wireError : ULONG}
    {d : Driver}
    (hError : ioError ≠ 0) :
    (s.move t (.rejecting ios2 event)
      (d.setErrorOnRequest ios2 ioError wireError)).Doing
        (.rejecting ios2 event) := by
  show ((d.setErrorOnRequest ios2 ioError wireError).reqs
    ios2).ioError ≠ 0
  simpa [Driver.setErrorOnRequest] using hError

theorem Sound.submit
    (hSound : s.Sound)
    (hOwned : s.driver.Owned ios2)
    (hIdle : s.stage t = .idle) :
    (s.submit t ios2 req o).Sound := by
  have hSubmits := submits_dispatched hOwned req
  have hDispatched :=
    dispatched_dispatched ios2
      (s.driver.setReq ios2 (fun _ => req))
  unfold Writers.submit
  dsimp only
  split
  · split
    · refine hSound.accept hOwned hIdle
        (hSubmits.setReq (Or.inr (core_clearQuick _))) rfl rfl
        rfl ?_
      exact
        { frame := by
            simp only [Writers.move, Function.update_self,
              Driver.reqs_setReq, if_pos]
            exact (frameOf_queued hDispatched).symm
          calls := by
            simp [Writers.move] }
    · exact hSound.accept hOwned hIdle
        (hSubmits.setReq (Or.inl rfl)) rfl rfl rfl
        (doing_rejecting (by decide))
  · exact hSound.accept hOwned hIdle
      (hSubmits.setReq (Or.inl rfl)) rfl rfl rfl
      (doing_rejecting (by decide))

end Submitting

------------------------------------------------------------
-- Every Step
------------------------------------------------------------

section Stepping

variable {n : Nat} {s : Writers n} {t : Fin n}

/- One case a stage. -/
theorem Sound.step
    (hSound : s.Sound)
    (hApart : WritesApart s (.step t)) :
    (s.step t).Sound := by
  have hStores := hApart.1
  have hAccepts := hApart.2
  unfold Writers.calling at hAccepts
  unfold Writers.step
  cases hStage : s.stage t with
  | idle => exact hSound
  | queueing ios2 => exact hSound.queue hStage
  | rejecting ios2 event =>
      have hError : (s.driver.reqs ios2).ioError ≠ 0 :=
        hSound.doing_of_stage hStage
      apply hSound.reply
      · rw [hStage]
        rfl
      · rw [hStage]
        rfl
      · cases event <;> rfl
      · cases event <;> rfl
      · exact fun hNone => absurd hNone hError
      · cases event <;> trivial
  | announcing event => exact hSound.announce hStage
  | draining =>
      dsimp only
      split
      · exact hSound.drained hStage
      · rename_i ios2 rest hQueue
        apply hSound.fetched hStage
        rw [hQueue]
        exact List.mem_cons_self
  | copyingRaw ios2 =>
      exact hSound.copyRaw (hStores (by rw [hStage]; rfl))
        hStage
  | sendingRaw ios2 =>
      rw [hStage] at hAccepts
      exact hSound.sendRaw hStage (hAccepts ios2 rfl)
  | storingDst ios2 =>
      exact hSound.storeDst (hStores (by rw [hStage]; rfl))
        hStage
  | storingSrc ios2 =>
      exact hSound.storeSrc (hStores (by rw [hStage]; rfl))
        hStage
  | storingType ios2 =>
      exact hSound.storeType (hStores (by rw [hStage]; rfl))
        hStage
  | copying ios2 =>
      exact hSound.copyCooked (hStores (by rw [hStage]; rfl))
        hStage
  | sending ios2 =>
      rw [hStage] at hAccepts
      exact hSound.sendCooked hStage (hAccepts ios2 rfl)
  | sendingDma ios2 packet =>
      rw [hStage] at hAccepts
      exact hSound.sendDma hStage (hAccepts ios2 rfl)
  | reporting ios2 => exact hSound.report hStage
  | replying ios2 =>
      apply hSound.reply
      · rw [hStage]
        rfl
      · rw [hStage]
        rfl
      · rfl
      · rfl
      · exact hSound.doing_of_stage hStage
      · trivial

end Stepping

end Writers

end KszDriver
