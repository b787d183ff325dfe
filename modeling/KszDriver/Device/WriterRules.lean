import KszDriver.Device.Writers

/-
  What holds between any two steps of the client tasks.

  Each task is sure of the request that it works on, and of
  the send buffer from its first store on; nobody else changes
  either.

  Main declarations:
    * `Writers.Ready`, `Writers.Doing`
    * `Writers.Custody`
    * `Writers.Sound`
    * `Leaves`, `Writers.Sound.advance`
-/

------------------------------------------------------------
-- What a Task Is Sure of
------------------------------------------------------------

namespace KszDriver

namespace Writers

variable {n : Nat}

/- The request still asks for the frame that the client asked
   for, and no call has been made for it. -/
structure Ready (s : Writers n) (ios2 : APTR) : Prop where
  frame : (s.accounts ios2).frame =
    FrameOf s.outcome ios2 (s.driver.reqs ios2) s.driver
  calls : (s.accounts ios2).calls = []

/- A packet that is to be sent as it is. -/
structure ReadyRaw (s : Writers n) (ios2 : APTR) : Prop
    extends s.Ready ios2 where
  raw : (s.driver.reqs ios2).Raw

/- A packet that is sent in parts, from a packet buffer of the
   client or, without one, from `sendBuffer`. -/
structure ReadyCooked
    (s : Writers n) (ios2 : APTR) (packet : Option Memory) :
    Prop extends s.Ready ios2 where
  cooked : ¬ (s.driver.reqs ios2).Raw
  short : (s.driver.reqs ios2).dataLength.toNat ≤ ethernetMtu
  packet : dmaPacketBuffer s.outcome ios2 s.driver = packet

/- The parts of a packet that `sendBuffer` holds already. -/
structure HasDst (s : Writers n) (ios2 : APTR) : Prop
    extends s.ReadyCooked ios2 none where
  dst : s.driver.sendBuffer.bytes 6 =
    (s.driver.reqs ios2).dstAddr.memory.bytes 6

structure HasSrc (s : Writers n) (ios2 : APTR) : Prop
    extends s.HasDst ios2 where
  src : (s.driver.sendBuffer.drop 6).bytes 6 =
    s.driver.unit.stAddr.memory.bytes 6

structure HasHeader (s : Writers n) (ios2 : APTR) : Prop
    extends s.HasSrc ios2 where
  type : s.driver.sendBuffer.wordAt 12 =
    (s.driver.reqs ios2).packetTypeWord

structure HasPacket (s : Writers n) (ios2 : APTR) : Prop
    extends s.HasHeader ios2 where
  payload :
    (s.driver.sendBuffer.drop etherPacketHeadSize).bytes
        (s.driver.reqs ios2).dataLength.toNat =
      (s.outcome.copyFromBuffer ios2).2.bytes
        (s.driver.reqs ios2).dataLength.toNat

structure HasRawPacket (s : Writers n) (ios2 : APTR) : Prop
    extends s.ReadyRaw ios2 where
  payload :
    s.driver.sendBuffer.bytes
        (s.driver.reqs ios2).dataLength.toNat =
      (s.outcome.copyFromBuffer ios2).2.bytes
        (s.driver.reqs ios2).dataLength.toNat

/- What a task is sure of at its stage. -/
def Doing (s : Writers n) : Stage → Prop
| .idle | .announcing _ | .draining => True
| .queueing ios2 => s.Ready ios2
| .rejecting ios2 _ => (s.driver.reqs ios2).ioError ≠ 0
| .copyingRaw ios2 => s.ReadyRaw ios2
| .sendingRaw ios2 => s.HasRawPacket ios2
| .storingDst ios2 => s.ReadyCooked ios2 none
| .storingSrc ios2 => s.HasDst ios2
| .storingType ios2 => s.HasSrc ios2
| .copying ios2 => s.HasHeader ios2
| .sending ios2 => s.HasPacket ios2
| .sendingDma ios2 packet => s.ReadyCooked ios2 (some packet)
| .reporting ios2 | .replying ios2 =>
    (s.driver.reqs ios2).ioError = 0 →
      (s.accounts ios2).GivenOnce

/- The tasks hold different requests, and the driver has all
   others that were submitted. -/
structure Custody (s : Writers n) (held : List APTR) : Prop
    where
  conserved : s.driver.Conserved custodyPolicy held
  held : ∀ r, r ∈ held ↔ ∃ t, (s.stage t).request = some r
  distinct : ∀ t t' r, (s.stage t).request = some r →
    (s.stage t').request = some r → t = t'

/- The invariant. -/
structure Sound (s : Writers n) : Prop where
  custody : ∃ held, s.Custody held
  queued : ∀ r ∈ s.driver.lists .euTx, s.Ready r
  doing : ∀ t, s.Doing (s.stage t)
  alone : ∀ t t', (s.stage t).builds = true →
    (s.stage t').builds = true → t = t'
  unmixed : s.Unmixed

end Writers

------------------------------------------------------------
-- What the Others Leave Alone
------------------------------------------------------------

/- A request, its account and what its callbacks answer stay
   as they are, and so do the unit and the openers. -/
structure Leaves
    {n : Nat} (r : APTR) (s s' : Writers n) : Prop where
  req : s'.driver.reqs r = s.driver.reqs r
  unit : s'.driver.unit = s.driver.unit
  bms : s'.driver.bms = s.driver.bms
  dma : s'.outcome.copyFromBufferDma r =
    s.outcome.copyFromBufferDma r
  copy : s'.outcome.copyFromBuffer r =
    s.outcome.copyFromBuffer r
  account : s'.accounts r = s.accounts r

/- The frame of a request depends on little else. -/
theorem frameOf_congr
    {o o' : Outcome}
    {ios2 : APTR}
    {d d' : Driver}
    (req : IOSana2Req)
    (hUnit : d'.unit = d.unit)
    (hBms : d'.bms = d.bms)
    (hManagement :
      (d'.reqs ios2).bufferManagement =
        (d.reqs ios2).bufferManagement)
    (hDma :
      o'.copyFromBufferDma ios2 = o.copyFromBufferDma ios2)
    (hCopy : o'.copyFromBuffer ios2 = o.copyFromBuffer ios2) :
    FrameOf o' ios2 req d' = FrameOf o ios2 req d := by
  unfold FrameOf payloadOf dmaPacketBuffer
  rw [hUnit, hBms, hManagement, hDma, hCopy]

section Leaving

variable {n : Nat} {s s' : Writers n} {ios2 : APTR}

namespace Writers

theorem Ready.leaves
    (hReady : s.Ready ios2)
    (hLeaves : Leaves ios2 s s') :
    s'.Ready ios2 where
  frame := by
    rw [hLeaves.account, hReady.frame, hLeaves.req]
    exact (frameOf_congr _ hLeaves.unit hLeaves.bms
      (by rw [hLeaves.req]) hLeaves.dma hLeaves.copy).symm
  calls := by
    rw [hLeaves.account]
    exact hReady.calls

theorem ReadyRaw.leaves
    (hReady : s.ReadyRaw ios2)
    (hLeaves : Leaves ios2 s s') :
    s'.ReadyRaw ios2 where
  toReady := hReady.toReady.leaves hLeaves
  raw := by
    rw [hLeaves.req]
    exact hReady.raw

theorem ReadyCooked.leaves
    {packet : Option Memory}
    (hReady : s.ReadyCooked ios2 packet)
    (hLeaves : Leaves ios2 s s') :
    s'.ReadyCooked ios2 packet where
  toReady := hReady.toReady.leaves hLeaves
  cooked := by
    rw [hLeaves.req]
    exact hReady.cooked
  short := by
    rw [hLeaves.req]
    exact hReady.short
  packet := by
    rw [← hReady.packet]
    unfold dmaPacketBuffer
    rw [hLeaves.req, hLeaves.bms, hLeaves.dma]

theorem HasDst.leaves
    (hHas : s.HasDst ios2)
    (hLeaves : Leaves ios2 s s')
    (hBuffer : s'.driver.sendBuffer = s.driver.sendBuffer) :
    s'.HasDst ios2 where
  toReadyCooked := hHas.toReadyCooked.leaves hLeaves
  dst := by
    rw [hBuffer, hLeaves.req]
    exact hHas.dst

theorem HasSrc.leaves
    (hHas : s.HasSrc ios2)
    (hLeaves : Leaves ios2 s s')
    (hBuffer : s'.driver.sendBuffer = s.driver.sendBuffer) :
    s'.HasSrc ios2 where
  toHasDst := hHas.toHasDst.leaves hLeaves hBuffer
  src := by
    rw [hBuffer, hLeaves.unit]
    exact hHas.src

theorem HasHeader.leaves
    (hHas : s.HasHeader ios2)
    (hLeaves : Leaves ios2 s s')
    (hBuffer : s'.driver.sendBuffer = s.driver.sendBuffer) :
    s'.HasHeader ios2 where
  toHasSrc := hHas.toHasSrc.leaves hLeaves hBuffer
  type := by
    rw [hBuffer, hLeaves.req]
    exact hHas.type

theorem HasPacket.leaves
    (hHas : s.HasPacket ios2)
    (hLeaves : Leaves ios2 s s')
    (hBuffer : s'.driver.sendBuffer = s.driver.sendBuffer) :
    s'.HasPacket ios2 where
  toHasHeader := hHas.toHasHeader.leaves hLeaves hBuffer
  payload := by
    rw [hBuffer, hLeaves.req, hLeaves.copy]
    exact hHas.payload

theorem HasRawPacket.leaves
    (hHas : s.HasRawPacket ios2)
    (hLeaves : Leaves ios2 s s')
    (hBuffer : s'.driver.sendBuffer = s.driver.sendBuffer) :
    s'.HasRawPacket ios2 where
  toReadyRaw := hHas.toReadyRaw.leaves hLeaves
  payload := by
    rw [hBuffer, hLeaves.req, hLeaves.copy]
    exact hHas.payload

/- A task stays sure of what it was sure of. -/
theorem doing_leaves
    {stage : Stage}
    (hDoing : s.Doing stage)
    (hLeaves : ∀ r, stage.request = some r → Leaves r s s')
    (hBuffer : stage.builds = true →
      s'.driver.sendBuffer = s.driver.sendBuffer) :
    s'.Doing stage := by
  cases stage with
  | idle | announcing _ | draining => trivial
  | queueing r => exact Ready.leaves hDoing (hLeaves r rfl)
  | rejecting r event =>
      show (s'.driver.reqs r).ioError ≠ 0
      rw [(hLeaves r rfl).req]
      exact hDoing
  | copyingRaw r =>
      exact ReadyRaw.leaves hDoing (hLeaves r rfl)
  | sendingRaw r =>
      exact HasRawPacket.leaves hDoing (hLeaves r rfl)
        (hBuffer rfl)
  | storingDst r =>
      exact ReadyCooked.leaves hDoing (hLeaves r rfl)
  | storingSrc r =>
      exact HasDst.leaves hDoing (hLeaves r rfl) (hBuffer rfl)
  | storingType r =>
      exact HasSrc.leaves hDoing (hLeaves r rfl) (hBuffer rfl)
  | copying r =>
      exact HasHeader.leaves hDoing (hLeaves r rfl)
        (hBuffer rfl)
  | sending r =>
      exact HasPacket.leaves hDoing (hLeaves r rfl)
        (hBuffer rfl)
  | sendingDma r packet =>
      exact ReadyCooked.leaves hDoing (hLeaves r rfl)
  | reporting r | replying r =>
      show (s'.driver.reqs r).ioError = 0 →
        (s'.accounts r).GivenOnce
      rw [(hLeaves r rfl).req, (hLeaves r rfl).account]
      exact hDoing

end Writers

end Leaving

------------------------------------------------------------
-- Custody
------------------------------------------------------------

section Advancing

variable {n : Nat} {s s' : Writers n} {t : Fin n}
variable {stage : Stage} {held : List APTR} {r : APTR}

namespace Writers

/- The requests of the tasks, after one has gone on. -/
theorem request_update
    (hStage : s'.stage = Function.update s.stage t stage)
    (u : Fin n) :
    (s'.stage u).request =
      if u = t then stage.request
      else (s.stage u).request := by
  rw [hStage]
  by_cases hSame : u = t
  · subst hSame
    rw [Function.update_self, if_pos rfl]
  · rw [Function.update_of_ne hSame, if_neg hSame]

namespace Custody

/- The task goes on with its request. -/
theorem keep
    (hCustody : s.Custody held)
    (hStage : s'.stage = Function.update s.stage t stage)
    (hSame : stage.request = (s.stage t).request)
    (hCon : s'.driver.Conserved custodyPolicy held) :
    s'.Custody held := by
  have hRequest :
      ∀ u, (s'.stage u).request = (s.stage u).request := by
    intro u
    rw [request_update hStage]
    split
    · rename_i hTask
      rw [hTask, hSame]
    · rfl
  exact
    { conserved := hCon
      held := by
        intro r
        simp only [hRequest]
        exact hCustody.held r
      distinct := by
        intro u u' r
        rw [hRequest, hRequest]
        exact hCustody.distinct u u' r }

/- The task takes a request. -/
theorem take
    (hCustody : s.Custody held)
    (hStage : s'.stage = Function.update s.stage t stage)
    (hNone : (s.stage t).request = none)
    (hSome : stage.request = some r)
    (hCon : s'.driver.Conserved custodyPolicy (r :: held)) :
    s'.Custody (r :: held) where
  conserved := hCon
  held := by
    intro other
    rw [List.mem_cons, hCustody.held]
    constructor
    · rintro (rfl | ⟨u, hOther⟩)
      · exact ⟨t, by rw [request_update hStage, if_pos rfl,
          hSome]⟩
      · refine ⟨u, ?_⟩
        have hTask : u ≠ t := by
          rintro rfl
          rw [hNone] at hOther
          cases hOther
        rw [request_update hStage, if_neg hTask, hOther]
    · rintro ⟨u, hOther⟩
      rw [request_update hStage] at hOther
      split at hOther
      · rw [hSome] at hOther
        exact Or.inl (Option.some.inj hOther).symm
      · exact Or.inr ⟨u, hOther⟩
  distinct := by
    have hFresh : ∀ u, (s.stage u).request ≠ some r := by
      intro u hOther
      exact (List.nodup_cons.mp hCon.heldOnce).1
        ((hCustody.held r).mpr ⟨u, hOther⟩)
    intro u u' other hOther hOther'
    rw [request_update hStage] at hOther hOther'
    split at hOther <;> split at hOther'
    · rename_i hTask hTask'
      rw [hTask, hTask']
    · rw [hSome] at hOther
      exact absurd (hOther'.trans hOther.symm) (hFresh u')
    · rw [hSome] at hOther'
      exact absurd (hOther.trans hOther'.symm) (hFresh u)
    · exact hCustody.distinct u u' other hOther hOther'

/- The task lets go of its request. -/
theorem release
    (hCustody : s.Custody held)
    (hStage : s'.stage = Function.update s.stage t stage)
    (hSome : (s.stage t).request = some r)
    (hNone : stage.request = none)
    (hCon : ∀ rest,
      s.driver.Conserved custodyPolicy (r :: rest) →
        s'.driver.Conserved custodyPolicy rest) :
    s'.Custody (held.erase r) where
  conserved := by
    have hMem : r ∈ held := (hCustody.held r).mpr ⟨t, hSome⟩
    exact hCon _ (hCustody.conserved.perm
      (List.perm_cons_erase hMem))
  held := by
    intro other
    rw [hCustody.conserved.heldOnce.mem_erase_iff,
      hCustody.held]
    constructor
    · rintro ⟨hOther, u, hRequest⟩
      refine ⟨u, ?_⟩
      have hTask : u ≠ t := by
        rintro rfl
        rw [hSome] at hRequest
        exact hOther (Option.some.inj hRequest).symm
      rw [request_update hStage, if_neg hTask, hRequest]
    · rintro ⟨u, hRequest⟩
      rw [request_update hStage] at hRequest
      split at hRequest
      · rw [hNone] at hRequest
        cases hRequest
      · rename_i hTask
        refine ⟨?_, u, hRequest⟩
        rintro rfl
        exact hTask (hCustody.distinct u t other hRequest hSome)
  distinct := by
    intro u u' other hOther hOther'
    rw [request_update hStage] at hOther hOther'
    split at hOther
    · rw [hNone] at hOther
      cases hOther
    · split at hOther'
      · rw [hNone] at hOther'
        cases hOther'
      · exact hCustody.distinct u u' other hOther hOther'

end Custody

------------------------------------------------------------
-- One Task Goes on
------------------------------------------------------------

/-
  One task goes on to a stage.  It changes the request that it
  works on or takes and those that wait for an event, and the
  send buffer only if it stores there.
-/
structure Advances
    (t : Fin n) (stage : Stage) (s s' : Writers n) : Prop where
  goes : s'.stage = Function.update s.stage t stage
  leaves : ∀ r, Outstanding r s.driver.log →
    (s.stage t).request ≠ some r → stage.request ≠ some r →
      r ∉ s.driver.lists .euEvents → Leaves r s s'
  buffer : (s.stage t).stores = false →
    s'.driver.sendBuffer = s.driver.sendBuffer
  builds : stage.builds = true →
    (s.stage t).builds = true ∨ (s.stage t).stores = true

namespace Sound

/- What a step must see to besides. -/
theorem advance
    (hSound : s.Sound)
    (hAdvances : Advances t stage s s')
    (hBuffer : (s.stage t).stores = true → s.HasBuffer t)
    (hCustody : ∃ held, s'.Custody held)
    (hQueued : ∀ r ∈ s'.driver.lists .euTx,
      r ∈ s.driver.lists .euTx ∨ s'.Ready r)
    (hDoing : s'.Doing stage)
    (hUnmixed : s'.Unmixed) :
    s'.Sound := by
  rcases hSound.custody with ⟨held, hHeld⟩
  rcases hCustody with ⟨held', hHeld'⟩
  have hOther :
      ∀ u, u ≠ t → s'.stage u = s.stage u := by
    intro u hTask
    rw [hAdvances.goes, Function.update_of_ne hTask]
  have hOwn : s'.stage t = stage := by
    rw [hAdvances.goes, Function.update_self]
  have hTaken :
      ∀ r, stage.request = some r → r ∈ held' :=
    fun r hRequest =>
      (hHeld'.held r).mpr ⟨t, by rw [hOwn, hRequest]⟩
  have hHeldApart :
      ∀ u r head, (s.stage u).request = some r →
        r ∉ s.driver.lists head :=
    fun u r head hRequest =>
      hHeld.conserved.heldApart r
        ((hHeld.held r).mpr ⟨u, hRequest⟩) head
  have hBuilder :
      ∀ u, u ≠ t → stage.builds = true →
        (s.stage u).builds = true → False := by
    intro u hTask hBuilds hBuilds'
    rcases hAdvances.builds hBuilds with hBefore | hStores
    · exact hTask (hSound.alone u t hBuilds' hBefore)
    · rw [hBuffer hStores u hTask] at hBuilds'
      cases hBuilds'
  exact
    { custody := ⟨held', hHeld'⟩
      queued := by
        intro r hMem
        rcases hQueued r hMem with hBefore | hReady
        · refine (hSound.queued r hBefore).leaves
            (hAdvances.leaves r
              (hHeld.conserved.outstanding hBefore) ?_ ?_ ?_)
          · exact fun hRequest =>
              hHeldApart t r _ hRequest hBefore
          · exact fun hRequest =>
              hHeld'.conserved.heldApart r
                (hTaken r hRequest) _ hMem
          · intro hEvent
            cases hHeld.conserved.apart _ _ r hBefore hEvent
        · exact hReady
      doing := by
        intro u
        by_cases hTask : u = t
        · rw [hTask, hOwn]
          exact hDoing
        · rw [hOther u hTask]
          apply doing_leaves (hSound.doing u)
          · intro r hRequest
            apply hAdvances.leaves r
            · exact hHeld.conserved.owed r
                ((hHeld.held r).mpr ⟨u, hRequest⟩)
            · exact fun hMine =>
                hTask (hHeld.distinct u t r hRequest hMine)
            · intro hMine
              apply hTask
              apply hHeld'.distinct u t r
              · rw [hOther u hTask, hRequest]
              · rw [hOwn, hMine]
            · exact hHeldApart u r _ hRequest
          · intro hBuilds
            apply hAdvances.buffer
            rw [← Bool.not_eq_true]
            intro hStores
            rw [hBuffer hStores u hTask] at hBuilds
            cases hBuilds
      alone := by
        intro u u' hBuilds hBuilds'
        by_cases hTask : u = t
        · by_cases hTask' : u' = t
          · rw [hTask, hTask']
          · rw [hTask, hOwn] at hBuilds
            rw [hOther u' hTask'] at hBuilds'
            exact (hBuilder u' hTask' hBuilds hBuilds').elim
        · rw [hOther u hTask] at hBuilds
          by_cases hTask' : u' = t
          · rw [hTask', hOwn] at hBuilds'
            exact (hBuilder u hTask hBuilds' hBuilds).elim
          · rw [hOther u' hTask'] at hBuilds'
            exact hSound.alone u u' hBuilds hBuilds'
      unmixed := hUnmixed }

end Sound

end Writers

end Advancing

end KszDriver
