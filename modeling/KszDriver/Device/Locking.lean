import KszDriver.Core.Semaphores
import KszDriver.Device.Types

/-
  What each call of the driver does with the semaphores and
  with the lists they guard (`device.c`).

  The calls are taken apart into single acts: obtaining and
  releasing a semaphore, and reading or writing a list.  What
  a call finds in the lists, and what the callbacks answer,
  is left open.

  Main declarations:
    * `DriverLock`, `SharedList`, `DriverTask`
    * `LockingCommand`, `DriverCall`
    * `DriverCall.acts`, `DriverCall.By`
    * `lockingMachine`
-/

------------------------------------------------------------
-- Semaphores and Lists
------------------------------------------------------------

namespace KszDriver

/- The semaphores of the driver.  `Forbid` is taken as one
   that keeps off all other tasks; `Permit` releases it. -/
inductive DriverLock where
| edDeviceLock
| euBuffMgmtLock
| bmRxQueueLock (bm : APTR)
| euReadOrphanLock
| euTrackLock
| forbid
deriving DecidableEq, Repr

/- The lists that several tasks work on: those of requests,
   the openers, and the tracked types. -/
inductive SharedList where
| requests (head : ListHead)
| euBuffMgmt
| euTrack
deriving DecidableEq, Repr

/- The unit process, and the tasks of the clients. -/
inductive DriverTask where
| unitProcess
| client (n : Nat)
deriving DecidableEq, Repr

abbrev LockAct := SemAct DriverLock SharedList

/- The semaphore that guards a queue of requests. -/
def queueLock : ListHead → DriverLock
| .unitMsgPort => .forbid
| .bmRxQueue bm => .bmRxQueueLock bm
| .euReadOrphan => .euReadOrphanLock
| .euEvents => .forbid
| .euTx => .forbid

------------------------------------------------------------
-- Parts of Calls
------------------------------------------------------------

/- `PutMsg` and `GetMsg`, which keep off other tasks while
   they change the list of the port. -/
def portAccess (port : ListHead) : List LockAct :=
  SemAct.under .forbid [.writes (.requests port)]

/- A walk along a list over `passed` nodes. -/
def walk (passed : Nat) (x : SharedList) : List LockAct :=
  List.replicate (passed + 1) (.reads x)

/- A walk along a list on which nodes are removed. -/
def walkAndRemove (removed : Nat) (x : SharedList) :
    List LockAct :=
  .reads x :: (List.range removed).flatMap
    (fun _ => [.writes x, .reads x])

/- `AbortReqList` removes them all. -/
def lockAbortReqList (count : Nat) (head : ListHead) :
    List LockAct :=
  walkAndRemove count (.requests head)

/- `DoEvent`, for so many requests that wait. -/
def lockDoEvent (waiters : Nat) : List LockAct :=
  SemAct.under .forbid
    (walkAndRemove waiters (.requests .euEvents))

/- What `fulfillReadIORequest` comes to. -/
inductive Offering where
| refused
| copied
| failed (waiters : Nat)
deriving DecidableEq, Repr

def lockFulfillReadIORequest (head : ListHead) :
    Offering → List LockAct
| .refused => []
| .copied => [.writes (.requests head)]
| .failed waiters =>
    lockDoEvent waiters ++ [.writes (.requests head)]

/- One opener, with the reads that were passed over and what
   the one came to that the packet was offered to. -/
def lockOfferTo
    (opener : APTR × Nat × Option Offering) : List LockAct :=
  let head := ListHead.bmRxQueue opener.1
  SemAct.under (.bmRxQueueLock opener.1)
      (walk opener.2.1 (.requests head) ++
        match opener.2.2 with
        | some offering => lockFulfillReadIORequest head offering
        | none => []) ++
    [.reads .euBuffMgmt]

/- The openers that a packet meets, and, if none of them took
   it, what the first orphan read came to, if there is one. -/
structure PacketPath where
  openers : List (APTR × Nat × Option Offering)
  orphan : Option (Option Offering)

def lockOnPktReceived (path : PacketPath) : List LockAct :=
  SemAct.under .euBuffMgmtLock
      (.reads .euBuffMgmt :: path.openers.flatMap lockOfferTo) ++
    match path.orphan with
    | none => []
    | some offered =>
        SemAct.under .euReadOrphanLock
          (.reads (.requests .euReadOrphan) ::
            match offered with
            | some offering =>
                lockFulfillReadIORequest .euReadOrphan offering
            | none => [])

/- One packet of `sendAllPackets`; `report` is whether an
   error is reported, and to how many requests. -/
def lockSendOne (report : Option Nat) : List LockAct :=
  portAccess .euTx ++
    match report with
    | some waiters => lockDoEvent waiters
    | none => []

/- The last `GetMsg` finds no packet. -/
def lockSendAllPackets (reports : List (Option Nat)) :
    List LockAct :=
  reports.flatMap lockSendOne ++ portAccess .euTx

/- `DevCmdFlush`, for openers with so many reads.  Orphan
   reads are not among what it aborts. -/
structure FlushPath where
  openers : List (APTR × Nat)
  writers : Nat
  waiters : Nat

def lockFlushOpener (opener : APTR × Nat) : List LockAct :=
  SemAct.under (.bmRxQueueLock opener.1)
      (lockAbortReqList opener.2 (.bmRxQueue opener.1)) ++
    [.reads .euBuffMgmt]

def lockDevCmdFlush (path : FlushPath) : List LockAct :=
  SemAct.under .euBuffMgmtLock
      (.reads .euBuffMgmt ::
        path.openers.flatMap lockFlushOpener) ++
    SemAct.under .forbid
      (lockAbortReqList path.writers .euTx ++
        lockAbortReqList path.waiters .euEvents)

------------------------------------------------------------
-- Commands
------------------------------------------------------------

/-
  The commands that `PerformIO` dispatches, with the branch
  they take.  Those that end without looking at a list, such
  as writes and reads while the unit is offline, are `plain`.
-/
inductive LockingCommand where
| writePacket (reports : List (Option Nat))
| writeTooLong (waiters : Nat)
| readPacket (passed : Nat) (found : Option APTR)
| readOrphan
| flush (path : FlushPath)
| onEvent
| goesOnline (waiters : Nat)
| goesOffline (waiters : Nat) (path : FlushPath)
| trackType (passed : Nat) (added : Bool)
| unTrackType (passed : Nat) (found : Bool)
| plain

/- `BeginIO` performs the command at once. -/
def LockingCommand.PerformedAtOnce : LockingCommand → Prop
| .writePacket _ => True
| .writeTooLong _ => True
| .readPacket _ _ => True
| .readOrphan => True
| .plain => True
| _ => False

/- After `DevCmdReadPacket` has released the semaphore it
   looks once more at the node where its walk ended. -/
def LockingCommand.acts : LockingCommand → List LockAct
| .writePacket reports =>
    portAccess .euTx ++ lockSendAllPackets reports
| .writeTooLong waiters => lockDoEvent waiters
| .readPacket passed found =>
    SemAct.under .euBuffMgmtLock
        (walk passed .euBuffMgmt ++
          match found with
          | some bm =>
              SemAct.under (.bmRxQueueLock bm)
                [.writes (.requests (.bmRxQueue bm))]
          | none => []) ++
      [.reads .euBuffMgmt]
| .readOrphan =>
    SemAct.under .euReadOrphanLock
      [.writes (.requests .euReadOrphan)]
| .flush path => lockDevCmdFlush path
| .onEvent =>
    SemAct.under .forbid [.writes (.requests .euEvents)]
| .goesOnline waiters => lockDoEvent waiters
| .goesOffline waiters path =>
    lockDoEvent waiters ++ lockDevCmdFlush path
| .trackType passed added =>
    SemAct.under .euTrackLock
      (walk passed .euTrack ++
        if added then [.writes .euTrack] else [])
| .unTrackType passed found =>
    SemAct.under .euTrackLock
      (walk passed .euTrack ++
        if found then [.writes .euTrack] else [])
| .plain => []

------------------------------------------------------------
-- Calls
------------------------------------------------------------

/-
  What the tasks call.  A close meets the reads of its opener
  and may be the last one; the unit process handles packets,
  and the requests in its port.
-/
inductive DriverCall where
| openDevice (starts adds : Bool)
| close (opener : Option (APTR × Nat)) (passed : Nat)
    (found last : Bool)
| abortIo (head : ListHead) (passed : Nat) (found : Bool)
| performIo (command : LockingCommand)
| queueRequest
| processEvents (packets : List PacketPath)
| serviceMsgPort (commands : List LockingCommand)
| noLists

/-
  `DeviceOpen` waits for the unit process when it starts it,
  and `DeviceClose` when it ends it, both with
  `ed_DeviceLock`.  The opener is added without
  `eu_BuffMgmtLock`.
-/
def DriverCall.acts : DriverCall → List LockAct
| .openDevice starts adds =>
    SemAct.under .edDeviceLock
      ((if starts then [.awaits] else []) ++
        if adds then [.writes .euBuffMgmt] else [])
| .close opener passed found last =>
    SemAct.under .edDeviceLock
      ((match opener with
        | some (bm, count) =>
            SemAct.under (.bmRxQueueLock bm)
                (lockAbortReqList count (.bmRxQueue bm)) ++
              SemAct.under .euBuffMgmtLock
                (walk passed .euBuffMgmt ++
                  if found then [.writes .euBuffMgmt] else [])
        | none => []) ++
        if last then [.awaits] else [])
| .abortIo head passed found =>
    SemAct.under (queueLock head)
      (walk passed (.requests head) ++
        if found then [.writes (.requests head)] else [])
| .performIo command => command.acts
| .queueRequest => portAccess .unitMsgPort
| .processEvents packets => packets.flatMap lockOnPktReceived
| .serviceMsgPort commands =>
    commands.flatMap (fun command =>
        portAccess .unitMsgPort ++ command.acts) ++
      portAccess .unitMsgPort
| .noLists => []

/- Who calls what.  Of the commands, the unit process is left
   those that `BeginIO` does not perform at once. -/
def DriverCall.By : DriverTask → DriverCall → Prop
| .client _, .openDevice _ _ => True
| .client _, .close _ _ _ _ => True
| .client _, .abortIo head _ _ => head ≠ .unitMsgPort
| .client _, .performIo command => command.PerformedAtOnce
| .client _, .queueRequest => True
| .unitProcess, .processEvents _ => True
| .unitProcess, .serviceMsgPort commands =>
    ∀ command ∈ commands,
      command = .plain ∨ ¬ command.PerformedAtOnce
| _, .noLists => True
| _, _ => False

/- The tasks at work. -/
abbrev LockedDriver := SemTasks DriverTask DriverLock SharedList

/- All runs of the tasks. -/
def lockingMachine :
    Machine LockedDriver
      (SemTasks.Input DriverTask DriverLock SharedList) :=
  semaphoreMachine .forbid .unitProcess
    (fun t acts => ∃ call : DriverCall,
      call.By t ∧ acts = call.acts)

/- No task has called the driver yet. -/
def idleTasks : LockedDriver where
  owner := fun _ => none
  nest := fun _ => 0
  rest := fun _ => []

theorem start_idleTasks : lockingMachine.Start idleTasks :=
  ⟨fun _ => ⟨rfl, rfl⟩, fun _ => rfl⟩

end KszDriver
