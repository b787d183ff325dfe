import KszDriver.Device.Types

/-
  The list and message operations of Exec on the requests,
  the ways a request is terminated (`TermIO`, `DoEvent`,
  `AbortReqList`), and access to the low level driver.

  Key definitions include:
    * `Driver.addTail`, `Driver.remove`, `Driver.putMsg`
    * `Driver.termIo`
    * `Driver.doEvent`
    * `Driver.abortReqList`, `Driver.abortRequestAndRemove`
    * `Driver.runNic`
-/

------------------------------------------------------------
-- Requests and Lists
------------------------------------------------------------

namespace KszDriver

namespace Driver

/- Change a request. -/
def setReq
    (s : Driver)
    (ios2 : APTR)
    (f : IOSana2Req → IOSana2Req) : Driver :=
  { s with
    reqs := Function.update s.reqs ios2 (f (s.reqs ios2)) }

/- Add an event to the history. -/
def record (s : Driver) (event : Event) : Driver :=
  { s with log := event :: s.log }

/- Change the unit. -/
def setUnit
    (s : Driver)
    (f : DeviceDriverUnit → DeviceDriverUnit) : Driver :=
  { s with unit := f s.unit }

/- Change the device base. -/
def setBase
    (s : Driver)
    (f : DeviceBase → DeviceBase) : Driver :=
  { s with base := f s.base }

/- Write to a device query of a client. -/
def setQuery
    (s : Driver)
    (query : APTR)
    (f : Sana2DeviceQuery → Sana2DeviceQuery) : Driver :=
  { s with
    queries :=
      Function.update s.queries query (f (s.queries query)) }

/- `AddTail(head, ios2)` -/
def addTail
    (s : Driver) (head : ListHead) (ios2 : APTR) : Driver :=
  { s with
    lists :=
      Function.update s.lists head (s.lists head ++ [ios2])
    log := .queued ios2 head :: s.log }

/- `Remove(ios2)`, from whatever list it is in. -/
def remove (s : Driver) (ios2 : APTR) : Driver :=
  { s with lists := fun head => (s.lists head).erase ios2 }

/- `PutMsg`, which marks the message as such. -/
def putMsg
    (s : Driver) (port : ListHead) (ios2 : APTR) : Driver :=
  (s.setReq ios2
    (fun req => { req with lnType := ntMessage })).addTail
      port ios2

/- `setErrorOnRequest` -/
def setErrorOnRequest
    (s : Driver)
    (ios2 : APTR)
    (ioError : Int)
    (wireError : ULONG) : Driver :=
  s.setReq ios2 (fun req =>
    { req with wireError := wireError, ioError := ioError })

/-
  `TermIO`: replies to the request unless it was quick.
  `ReplyMsg` marks the message as replied.
-/
def termIo (s : Driver) (ios2 : APTR) : Driver :=
  let terminated :=
    s.record (.terminated ios2 (s.reqs ios2))
  if (s.reqs ios2).termBranch = .replyMsg then
    terminated.setReq ios2
      (fun req => { req with lnType := ntReplyMsg })
  else terminated

/- `TermIO` of a request in error. -/
def termWithError
    (s : Driver)
    (ios2 : APTR)
    (ioError : Int)
    (wireError : ULONG) : Driver :=
  (s.setErrorOnRequest ios2 ioError wireError).termIo ios2

------------------------------------------------------------
-- Events
------------------------------------------------------------

/-
  The loop of `DoEvent`, which reads the next node before it
  unlinks the present one.
-/
def doEventLoop (events : ULONG) :
    List APTR → Driver → Driver
| [], s => s
| ios2 :: rest, s =>
    if (s.reqs ios2).wireError &&& events ≠ 0#32 then
      doEventLoop events rest
        (((s.setErrorOnRequest ios2 0 events).remove
          ios2).termIo ios2)
    else doEventLoop events rest s

def doEvent (s : Driver) (events : ULONG) : Driver :=
  doEventLoop events (s.lists .euEvents)
    (s.record (.fired events))

------------------------------------------------------------
-- Aborting
------------------------------------------------------------

/- Mark, unlink and terminate one request. -/
def abortOne (s : Driver) (ios2 : APTR) : Driver :=
  ((s.remove ios2).setReq ios2
    (fun req => { req with ioError := ioerrAborted })).termIo
      ios2

/- The loop of `AbortReqList`. -/
def abortLoop : List APTR → Driver → Driver
| [], s => s
| ios2 :: rest, s => abortLoop rest (s.abortOne ios2)

def abortReqList (s : Driver) (head : ListHead) : Driver :=
  abortLoop (s.lists head) s

/- Abort a request if it is in the list. -/
def abortRequestAndRemove
    (s : Driver) (head : ListHead) (ios2 : APTR) :
    Int × Driver :=
  if ios2 ∈ s.lists head then (ioerrAborted, s.abortOne ios2)
  else (s2errBadArgument, s)

------------------------------------------------------------
-- The Low Level Driver
------------------------------------------------------------

/- Run an operation of the low level driver. -/
def runNic
    {α : Type}
    (s : Driver)
    (p : NicM α) : Driver :=
  { s with nic := (p.runOn s.nic).2 }

/- Run a send operation and note its result, which the
   caller ignores. -/
def runSend
    (s : Driver)
    (ios2 : APTR)
    (p : NicM ErrorT) : Driver :=
  (s.runNic p).record (.sent ios2 (p.runOn s.nic).1)

/- `CopyFromBuffer` into the send buffer. -/
def copyFromBuffer
    (s : Driver)
    (o : Outcome)
    (ios2 : APTR)
    (offset : Nat) : Driver :=
  { s with
    sendBuffer :=
      s.sendBuffer.copyInto offset
        (o.copyFromBuffer ios2).2
        (s.reqs ios2).dataLength.toNat
    log :=
      .copiedFromBuffer ios2 (o.copyFromBuffer ios2).1 ::
        s.log }

end Driver

end KszDriver
