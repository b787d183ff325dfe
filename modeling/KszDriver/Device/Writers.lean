import KszDriver.Device.Transmit

/-
  Client tasks that send packets at the same time.

  Each task runs `DeviceBeginIO` in its own context.  Between
  two of its steps all others may run: to put a request into
  the transmit queue, to take one from it, to store into the
  send buffer, to call the low level driver and to reply.
  The send buffer is shared, and so is the queue: a task sends
  whatever request it takes.

  Key definitions include:
    * `Stage`
    * `Writers`, `Writers.submit`, `Writers.step`
    * `writersMachine`
    * `Writers.Unmixed`
    * `WritesApart`
-/

------------------------------------------------------------
-- Stages
------------------------------------------------------------

namespace KszDriver

/-
  What a client task is about to do.  The stages from
  `draining` on are the loop of `sendAllPackets`.
-/
inductive Stage where
| idle
| queueing (ios2 : APTR)
| rejecting (ios2 : APTR) (event : Option ULONG)
| announcing (event : ULONG)
| draining
| copyingRaw (ios2 : APTR)
| sendingRaw (ios2 : APTR)
| storingDst (ios2 : APTR)
| storingSrc (ios2 : APTR)
| storingType (ios2 : APTR)
| copying (ios2 : APTR)
| sending (ios2 : APTR)
| sendingDma (ios2 : APTR) (packet : Memory)
| reporting (ios2 : APTR)
| replying (ios2 : APTR)

namespace Stage

/- The request that the task works on. -/
def request : Stage → Option APTR
| .idle | .announcing _ | .draining => none
| .queueing ios2 | .rejecting ios2 _ => some ios2
| .copyingRaw ios2 | .sendingRaw ios2 => some ios2
| .storingDst ios2 | .storingSrc ios2 => some ios2
| .storingType ios2 | .copying ios2 => some ios2
| .sending ios2 | .sendingDma ios2 _ => some ios2
| .reporting ios2 | .replying ios2 => some ios2

/- The next step of the task stores into `sendBuffer`. -/
def stores : Stage → Bool
| .copyingRaw _ => true
| .storingDst _ | .storingSrc _ | .storingType _ => true
| .copying _ => true
| _ => false

/- The task has stored into `sendBuffer` what it is going to
   send from there. -/
def builds : Stage → Bool
| .sendingRaw _ => true
| .storingSrc _ | .storingType _ | .copying _ => true
| .sending _ => true
| _ => false

/- The task waits for nothing and may call the device. -/
def isIdle : Stage → Bool
| .idle => true
| _ => false

end Stage

------------------------------------------------------------
-- Stores into the Send Buffer
------------------------------------------------------------

def storeDst (ios2 : APTR) (s : Driver) : Driver :=
  { s with
    sendBuffer :=
      s.sendBuffer.copyInto 0
        (s.reqs ios2).dstAddr.memory 6 }

def storeSrc (s : Driver) : Driver :=
  { s with
    sendBuffer :=
      s.sendBuffer.copyInto 6 s.unit.stAddr.memory 6 }

def storeType (ios2 : APTR) (s : Driver) : Driver :=
  let word := (s.reqs ios2).packetTypeWord
  { s with
    sendBuffer :=
      s.sendBuffer.storeTwo 12 (highByte word)
        (lowByte word) }

/- The header is stored in three steps. -/
theorem storeHeader_eq (ios2 : APTR) (s : Driver) :
    storeHeader ios2 s =
      storeType ios2 (storeSrc (storeDst ios2 s)) := rfl

------------------------------------------------------------
-- The Tasks
------------------------------------------------------------

/- A call of a low level send operation. -/
structure Call where
  before : NicState
  after : NicState

/- The frame that a client asked for when it submitted a
   request, and the calls made for it, newest first. -/
structure Account where
  frame : List UBYTE → Prop
  calls : List Call

/- A submission that was terminated with this error. -/
structure Settlement where
  account : Account
  ioError : Int

/-
  The driver and `n` client tasks.  `outcome` are the answers
  of the callbacks for the requests as last submitted.
  `accounts` and `settled` are the history.
-/
structure Writers (n : Nat) where
  driver : Driver
  stage : Fin n → Stage
  outcome : Outcome
  accounts : APTR → Account
  settled : List Settlement

/- The callbacks answer for this request as in `o'`. -/
def Outcome.withRequest
    (o : Outcome) (ios2 : APTR) (o' : Outcome) : Outcome :=
  { o with
    copyFromBufferDma :=
      Function.update o.copyFromBufferDma ios2
        (o'.copyFromBufferDma ios2)
    copyFromBuffer :=
      Function.update o.copyFromBuffer ios2
        (o'.copyFromBuffer ios2) }

namespace Writers

variable {n : Nat}

/- A task goes on to a stage and leaves the driver as `d`. -/
def move
    (s : Writers n) (t : Fin n) (stage : Stage) (d : Driver) :
    Writers n :=
  { s with
    driver := d
    stage := Function.update s.stage t stage }

/- A task calls the low level driver for a request. -/
def call
    (s : Writers n) (t : Fin n) (ios2 : APTR)
    (p : NicM ErrorT) : Writers n :=
  { s.move t (.reporting ios2) (s.driver.runSend ios2 p) with
    accounts :=
      Function.update s.accounts ios2
        { s.accounts ios2 with
          calls :=
            { before := s.driver.nic
              after := (p.runOn s.driver.nic).2 } ::
                (s.accounts ios2).calls } }

/- A task replies to a request. -/
def reply
    (s : Writers n) (t : Fin n) (ios2 : APTR)
    (stage : Stage) : Writers n :=
  { s.move t stage (s.driver.termIo ios2) with
    settled :=
      { account := s.accounts ios2
        ioError := (s.driver.reqs ios2).ioError } ::
          s.settled }

/- A task marks a request as failed in `sendAllPackets`. -/
def fail
    (s : Writers n) (t : Fin n) (ios2 : APTR)
    (ioError : Int) (d : Driver) : Writers n :=
  s.move t (.reporting ios2)
    (d.setErrorOnRequest ios2 ioError s2werrBuffError)

/-
  The client writes its request and calls `DeviceBeginIO`,
  up to `PutMsg` or to the reply to a request that is turned
  down.
-/
def submit
    (s : Writers n) (t : Fin n) (ios2 : APTR)
    (req : IOSana2Req) (o : Outcome) : Writers n :=
  let client := s.driver.setReq ios2 (fun _ => req)
  let d := client.dispatched ios2
  let s :=
    { s with
      outcome := s.outcome.withRequest ios2 o
      accounts :=
        Function.update s.accounts ios2
          { frame := RequestedFrame o ios2 client
            calls := [] } }
  if d.Online then
    if (d.reqs ios2).dataLength ≤ d.unit.mtu then
      s.move t (.queueing ios2)
        (d.setReq ios2 (fun req =>
          { req with
            ioFlags := req.ioFlags &&& ~~~iofQuick
            lnType := ntMessage }))
    else
      s.move t (.rejecting ios2 (some s2eventTx))
        (d.setErrorOnRequest ios2 s2errMtuExceeded
          s2werrGenericError)
  else
    s.move t (.rejecting ios2 none)
      (d.setErrorOnRequest ios2 s2errOutOfService
        s2werrUnitOffline)

/- What becomes of a request that was taken from the transmit
   queue. -/
def fetched
    (s : Writers n) (t : Fin n) (ios2 : APTR)
    (d : Driver) : Writers n :=
  let req := d.reqs ios2
  let length := req.dataLength.toNat
  if req.Raw then
    if length > etherPacketHeadSize then
      s.move t (.copyingRaw ios2) d
    else s.fail t ios2 s2errMtuExceeded d
  else if length ≤ ethernetMtu then
    match dmaPacketBuffer s.outcome ios2 d with
    | some packet => s.move t (.sendingDma ios2 packet) d
    | none => s.move t (.storingDst ios2) d
  else s.fail t ios2 s2errMtuExceeded d

/- `CopyFromBuffer` into `sendBuffer`. -/
def copied
    (s : Writers n) (t : Fin n) (ios2 : APTR)
    (offset : Nat) (stage : Stage) : Writers n :=
  let d := s.driver.copyFromBuffer s.outcome ios2 offset
  if (s.outcome.copyFromBuffer ios2).1 then s.move t stage d
  else s.fail t ios2 s2errNoResources d

/- The next step of a task. -/
def step (s : Writers n) (t : Fin n) : Writers n :=
  match s.stage t with
  | .idle => s
  | .queueing ios2 =>
      s.move t .draining (s.driver.putMsg .euTx ios2)
  | .rejecting ios2 event =>
      s.reply t ios2
        (match event with
        | some event => .announcing event
        | none => .idle)
  | .announcing event =>
      s.move t .idle (s.driver.doEvent event)
  | .draining =>
      match s.driver.lists .euTx with
      | [] => s.move t .idle s.driver
      | ios2 :: _ => s.fetched t ios2 (s.driver.remove ios2)
  | .copyingRaw ios2 => s.copied t ios2 0 (.sendingRaw ios2)
  | .sendingRaw ios2 =>
      s.call t ios2
        (ksz8851SendPacket s.driver.sendBuffer
          (s.driver.reqs ios2).dataLength.toNat)
  | .storingDst ios2 =>
      s.move t (.storingSrc ios2) (storeDst ios2 s.driver)
  | .storingSrc ios2 =>
      s.move t (.storingType ios2) (storeSrc s.driver)
  | .storingType ios2 =>
      s.move t (.copying ios2) (storeType ios2 s.driver)
  | .copying ios2 =>
      s.copied t ios2 etherPacketHeadSize (.sending ios2)
  | .sending ios2 =>
      let buffer := s.driver.sendBuffer
      s.call t ios2
        (ksz8851SendPacketCooked buffer (buffer.drop 6)
          (buffer.wordAt 12) (buffer.drop etherPacketHeadSize)
          (s.driver.reqs ios2).dataLength.toNat)
  | .sendingDma ios2 packet =>
      let req := s.driver.reqs ios2
      s.call t ios2
        (ksz8851SendPacketCooked req.dstAddr.memory
          s.driver.unit.stAddr.memory req.packetTypeWord packet
          req.dataLength.toNat)
  | .reporting ios2 =>
      s.move t (.replying ios2)
        (if (s.driver.reqs ios2).wireError ≠ 0#32 then
          s.driver.doEvent s2eventBuff
        else s.driver)
  | .replying ios2 => s.reply t ios2 .draining

end Writers

/- What may happen next. -/
inductive WriterOp (n : Nat) where
| submit (t : Fin n) (ios2 : APTR) (req : IOSana2Req)
    (o : Outcome)
| step (t : Fin n)

namespace Writers

variable {n : Nat}

def next (s : Writers n) : WriterOp n → Writers n
| .submit t ios2 req o => s.submit t ios2 req o
| .step t => s.step t

/- The unit is up, and no task has called the device yet. -/
def Start (s : Writers n) : Prop :=
  deviceMachine.Reach Machine.Free s.driver ∧
    s.driver.base.unit0 = true ∧
    (∀ t, (s.stage t).isIdle = true) ∧
    (∀ ios2, (s.accounts ios2).calls = []) ∧ s.settled = []

/- A task that is idle may submit a request to send a packet
   which is its own. -/
def Allowed (s : Writers n) : WriterOp n → Prop
| .submit t ios2 req _ =>
    (s.stage t).isIdle = true ∧ s.driver.Owned ios2 ∧
      IsWrite req.ioCommand
| .step _ => True

instance decidableAllowed (s : Writers n) :
    (op : WriterOp n) → Decidable (s.Allowed op)
| .submit t ios2 req _ =>
    inferInstanceAs (Decidable
      ((s.stage t).isIdle = true ∧ s.driver.Owned ios2 ∧
        IsWrite req.ioCommand))
| .step _ => isTrue trivial

end Writers

/- All interleavings of `n` client tasks. -/
def writersMachine (n : Nat) :
    Machine (Writers n) (WriterOp n) where
  Start := Writers.Start
  Allowed := Writers.Allowed
  next := Writers.next

------------------------------------------------------------
-- Frames That Are Not Mixed
------------------------------------------------------------

/- The call has given the chip a frame like this. -/
def Call.Gives
    (c : Call) (IsFrame : List UBYTE → Prop) : Prop :=
  ∃ ws, NicState.Started ws c.before c.after ∧
    Carries c.before IsFrame ws

/- Whatever frame was given to the chip for a submission is
   the frame that was asked for. -/
def Account.Own (a : Account) : Prop :=
  ∀ c ∈ a.calls,
    c.after.chip.frames = c.before.chip.frames ∨
      c.Gives a.frame

/- The frame was given to the chip, and once. -/
def Account.GivenOnce (a : Account) : Prop :=
  ∃ c, a.calls = [c] ∧ c.Gives a.frame

/-
  Each frame given to the chip is that of the submission it
  was given for, and a request that was terminated without an
  error had its own frame given to the chip exactly once.
-/
structure Writers.Unmixed {n : Nat} (s : Writers n) : Prop where
  own : ∀ ios2, (s.accounts ios2).Own
  settled : ∀ e ∈ s.settled, e.account.Own
  told : ∀ e ∈ s.settled,
    e.ioError = 0 → e.account.GivenOnce

------------------------------------------------------------
-- When Frames Are Not Mixed
------------------------------------------------------------

namespace Writers

variable {n : Nat}

/- No other task is between its first store into `sendBuffer`
   and the call that sends from there. -/
def HasBuffer (s : Writers n) (t : Fin n) : Prop :=
  ∀ t', t' ≠ t → (s.stage t').builds = false

/- The request that a task is about to call the low level
   driver for, if it is. -/
def calling (s : Writers n) (t : Fin n) : Option APTR :=
  match s.stage t with
  | .sendingRaw ios2 | .sending ios2 | .sendingDma ios2 _ =>
      some ios2
  | _ => none

end Writers

/-
  The step of a task leaves the send buffer to the task that
  is using it, and the low level driver accepts the packet it
  is called with.
-/
def WritesApart
    {n : Nat} (s : Writers n) : WriterOp n → Prop
| .submit _ _ _ _ => True
| .step t =>
    ((s.stage t).stores = true → s.HasBuffer t) ∧
      ∀ ios2 ∈ s.calling t,
        LowLevelAccepts (s.driver.reqs ios2) s.driver.nic

end KszDriver
