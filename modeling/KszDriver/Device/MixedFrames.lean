import KszDriver.Device.WriterSteps

/-
  Frames of client tasks that send at the same time are not
  mixed as long as each task has the send buffer to itself
  from its first store to its call.  Nothing in the driver
  sees to that.

  Main declarations:
    * `unmixed_of_writesApart`
    * `not_unmixed_interleaved`
-/

------------------------------------------------------------
-- Every Interleaving
------------------------------------------------------------

namespace KszDriver

namespace Writers

variable {n : Nat} {s : Writers n}

/- The stage of a task that may call the device. -/
theorem stage_of_isIdle
    {t : Fin n}
    (hIdle : (s.stage t).isIdle = true) :
    s.stage t = .idle := by
  cases hStage : s.stage t with
  | idle => rfl
  | _ =>
      rw [hStage] at hIdle
      cases hIdle

/- No task has taken a request yet. -/
theorem Start.sound (hStart : s.Start) : s.Sound := by
  rcases hStart with ⟨hReach, -, hIdle, hCalls, hSettled⟩
  have hStage : ∀ t, s.stage t = .idle :=
    fun t => stage_of_isIdle (hIdle t)
  have hRequest : ∀ t, (s.stage t).request = none := by
    intro t
    rw [hStage t]
    rfl
  exact
    { custody := by
        refine ⟨[], conserved_of_reach hReach, ?_, ?_⟩
        · intro r
          simp [hRequest]
        · intro t t' r hSome
          rw [hRequest t] at hSome
          cases hSome
      queued := by
        intro r hMem
        rw [euTx_of_reach hReach] at hMem
        cases hMem
      doing := by
        intro t
        rw [hStage t]
        trivial
      alone := by
        intro t t' hBuilds
        rw [hStage t] at hBuilds
        cases hBuilds
      unmixed :=
        { own := fun ios2 => own_of_calls (hCalls ios2)
          settled := by simp [hSettled]
          told := by simp [hSettled] } }

theorem Sound.next
    {op : WriterOp n}
    (hSound : s.Sound)
    (hAllowed : s.Allowed op)
    (hApart : WritesApart s op) :
    (s.next op).Sound := by
  cases op with
  | submit t ios2 req o =>
      exact hSound.submit hAllowed.2.1
        (stage_of_isIdle hAllowed.1)
  | step t => exact hSound.step hApart

theorem sound_of_reach
    (hReach : (writersMachine n).Reach WritesApart s) :
    s.Sound :=
  hReach.invariant (fun _ hStart => Start.sound hStart)
    (fun _ _ hAllowed hApart hSound =>
      hSound.next hAllowed hApart)

end Writers

/- Frames are not mixed in any interleaving that leaves the
   send buffer to one task at a time. -/
theorem unmixed_of_writesApart
    {n : Nat}
    {s : Writers n}
    (hReach : (writersMachine n).Reach WritesApart s) :
    s.Unmixed :=
  (Writers.sound_of_reach hReach).unmixed

------------------------------------------------------------
-- Two Tasks
------------------------------------------------------------

instance decidableLowLevelAccepts
    (req : IOSana2Req) (n : NicState) :
    Decidable (LowLevelAccepts req n) := by
  unfold LowLevelAccepts
  infer_instance

instance decidableWritesApart {n : Nat} (s : Writers n) :
    (op : WriterOp n) → Decidable (WritesApart s op)
| .submit _ _ _ _ => isTrue trivial
| .step t =>
    inferInstanceAs (Decidable
      (((s.stage t).stores = true →
          ∀ t', t' ≠ t → (s.stage t').builds = false) ∧
        ∀ ios2 ∈ s.calling t,
          LowLevelAccepts (s.driver.reqs ios2) s.driver.nic))

instance decidableWriterFree
    {n : Nat} (s : Writers n) (op : WriterOp n) :
    Decidable (Machine.Free s op) :=
  isTrue trivial

instance decidableWriterRuns
    {n : Nat}
    (C : Writers n → WriterOp n → Prop)
    [∀ s op, Decidable (C s op)]
    (ops : List (WriterOp n))
    (s : Writers n) :
    Decidable ((writersMachine n).Runs C ops s) :=
  (writersMachine n).decidableRuns C
    (fun s op => Writers.decidableAllowed s op)
    (fun _ _ => inferInstance) ops s

/- Two client tasks of the online unit. -/
def twoWriters : Writers 2 where
  driver := deviceMachine.run onlineSteps
    (loadedDriver (idleRegisters 0x1800#16))
  stage := fun _ => .idle
  outcome := plainOutcome
  accounts := fun _ => { frame := fun _ => False, calls := [] }
  settled := []

theorem start_twoWriters : twoWriters.Start :=
  ⟨Machine.reach_run _
    (Machine.Reach.start (start_loadedDriver _))
    (by decide +kernel), by decide +kernel, fun _ => rfl,
    fun _ => rfl, rfl⟩

/- Each task submits a packet to a station of its own. -/
def packetTo (station : UBYTE) : IOSana2Req :=
  { plainPacket 0#8 100#32 with dstAddr := fun _ => station }

def bothSubmit : List (WriterOp 2) :=
  [.submit 0 9 (packetTo 2#8) plainOutcome,
    .submit 1 10 (packetTo 4#8) plainOutcome]

/- Steps of the tasks, in this order. -/
def stepsOf (ts : List (Fin 2)) : List (WriterOp 2) :=
  ts.map .step

/- Both queue their packets and take one, then one sends its
   packet before the other begins to store. -/
def oneAfterTheOther : List (WriterOp 2) :=
  bothSubmit ++
    stepsOf ([0, 1, 0, 1] ++ [0, 0, 0, 0, 0, 0, 0] ++
      [1, 1, 1, 1, 1, 1, 1])

theorem unmixed_oneAfterTheOther :
    ((writersMachine 2).run oneAfterTheOther
      twoWriters).Unmixed :=
  unmixed_of_writesApart
    (Machine.reach_run _ (Machine.Reach.start start_twoWriters)
      (by decide +kernel))

------------------------------------------------------------
-- Frames That Are Mixed
------------------------------------------------------------

namespace Writers

variable {n : Nat} {s : Writers n} {t : Fin n}

/- Only a submission says which frame is asked for. -/
theorem frame_step (s : Writers n) (t : Fin n) (r : APTR) :
    ((s.step t).accounts r).frame = (s.accounts r).frame := by
  have hCall (ios2 : APTR) (p : NicM ErrorT) :
      ((s.call t ios2 p).accounts r).frame =
        (s.accounts r).frame := by
    unfold call
    by_cases hSame : r = ios2
    · subst hSame
      simp
    · simp [hSame]
  have hCopied (ios2 : APTR) (offset : Nat) (stage : Stage) :
      (s.copied t ios2 offset stage).accounts =
        s.accounts := by
    unfold copied
    dsimp only
    split <;> rfl
  have hFetched (ios2 : APTR) (d : Driver) :
      (s.fetched t ios2 d).accounts = s.accounts := by
    unfold fetched
    dsimp only
    split
    · split <;> rfl
    · split
      · split <;> rfl
      · rfl
  unfold step
  cases s.stage t with
  | draining =>
      dsimp only
      split
      · rfl
      · rw [hFetched]
  | copyingRaw ios2 | copying ios2 => rw [hCopied]
  | sendingRaw ios2 | sending ios2 => exact hCall _ _
  | sendingDma ios2 packet => exact hCall _ _
  | _ => rfl

theorem frame_steps
    (ts : List (Fin n))
    (s : Writers n)
    (r : APTR) :
    (((writersMachine n).run (ts.map .step) s).accounts
        r).frame =
      (s.accounts r).frame := by
  induction ts generalizing s with
  | nil => rfl
  | cons t ts ih => exact (ih (s.step t)).trans (frame_step s t r)

theorem accounts_submit
    (s : Writers n)
    (t : Fin n)
    (ios2 : APTR)
    (req : IOSana2Req)
    (o : Outcome) :
    (s.submit t ios2 req o).accounts =
      Function.update s.accounts ios2
        { frame := RequestedFrame o ios2
            (s.driver.setReq ios2 (fun _ => req))
          calls := [] } := by
  unfold submit
  dsimp only
  split
  · split <;> rfl
  · rfl

end Writers

/- The destination in the frame that a call has put into the
   transmit queue. -/
def Call.destination (c : Call) : List UBYTE :=
  (((portOrder c.before.iface.isInBigEndianMode).bytes
    (c.after.chip.frames.getLast?.getD [])).drop 4).take 6

theorem Call.destination_of_gives
    {c : Call}
    {dst src payload : Memory}
    {packetType : UWORD}
    {length : Nat}
    (hFifo : c.before.chip.fifo = [])
    (hGives :
      c.Gives (CookedFrame dst src packetType payload
        length)) :
    c.destination = dst.bytes 6 := by
  rcases hGives with
    ⟨ws, hStarted, frame, rest, ⟨padding, -, rfl⟩, hBytes⟩
  unfold destination
  rw [hStarted.frames, hFifo, List.nil_append,
    List.getLast?_append, List.getLast?_singleton]
  simp only [Option.some_or, Option.getD_some]
  rw [hBytes]
  simp [littleEndian, frameHead, Memory.bytes]

/- Both queue their packets and take one; each stores its
   destination before the first goes on to send. -/
def interleaved : List (Fin 2) :=
  [0, 1, 0, 1] ++ [0, 1] ++ [0, 0, 0, 0]

def mixedWriters : Writers 2 :=
  (writersMachine 2).run (bothSubmit ++ stepsOf interleaved)
    twoWriters

/- The first task asked for a packet to station 2. -/
theorem frame_mixedWriters :
    ∃ src payload packetType length,
      (mixedWriters.accounts 9).frame =
        CookedFrame (packetTo 2#8).dstAddr.memory src packetType
          payload length := by
  have hCooked :
      ¬ (writeRequest (packetTo 2#8)).Raw := by
    decide +kernel
  have hSteps :
      (mixedWriters.accounts 9).frame =
        (((twoWriters.submit 0 9 (packetTo 2#8)
          plainOutcome).submit 1 10 (packetTo 4#8)
            plainOutcome).accounts 9).frame :=
    Writers.frame_steps interleaved _ 9
  rw [hSteps, Writers.accounts_submit,
    Function.update_of_ne (by decide), Writers.accounts_submit,
    Function.update_self]
  dsimp only
  unfold RequestedFrame FrameOf
  rw [Driver.reqs_setReq, if_pos rfl, if_neg hCooked]
  exact ⟨_, _, _, _, rfl⟩

/- The frame that is sent for it goes to station 4. -/
theorem not_unmixed_interleaved :
    (writersMachine 2).Reach Machine.Free mixedWriters ∧
      ¬ mixedWriters.Unmixed := by
  refine ⟨Machine.reach_run _
    (Machine.Reach.start start_twoWriters)
    (by decide +kernel), ?_⟩
  intro hUnmixed
  rcases frame_mixedWriters with
    ⟨src, payload, packetType, length, hFrame⟩
  have hOwn :
      ∀ c ∈ (mixedWriters.accounts 9).calls,
        c.before.chip.fifo = [] →
          c.after.chip.frames = c.before.chip.frames ∨
            c.destination =
              (packetTo 2#8).dstAddr.memory.bytes 6 := by
    intro c hMem hFifo
    have hGives := hUnmixed.own 9 c hMem
    rw [hFrame] at hGives
    exact hGives.imp id (Call.destination_of_gives hFifo)
  revert hOwn
  decide +kernel

end KszDriver
