import KszDriver.Device.EntryPoints
import KszDriver.Device.Events
import KszDriver.Device.Flushing
import KszDriver.Device.Sending

/-
  Requests that wait keep what they wait for.  A handler
  takes requests out of lists and ends them, but does not
  put another request into one, move one between lists or
  change what one that stays waits for.

  Main declarations:
    * `Driver.Keeps`, `Driver.Thins`
    * `Driver.Orderly`
    * `Orderly.performIo`
    * `Orderly.next`
-/

------------------------------------------------------------
-- Thinning
------------------------------------------------------------

namespace KszDriver

/- What a request waits for. -/
structure Waiter where
  lnType : UBYTE
  ioCommand : UWORD
  bufferManagement : APTR
  wireError : ULONG

def IOSana2Req.waiter (req : IOSana2Req) : Waiter where
  lnType := req.lnType
  ioCommand := req.ioCommand
  bufferManagement := req.bufferManagement
  wireError := req.wireError

/- The unit was configured with the address in the request. -/
def IOSana2Req.Configures (req : IOSana2Req) : Prop :=
  req.ioCommand = s2ConfigInterface ∧ req.ioError = 0

instance (req : IOSana2Req) : Decidable req.Configures := by
  unfold IOSana2Req.Configures
  infer_instance

namespace Driver

/- The history has grown, and no request was ended that
   configured the unit. -/
def NoneConfigured (s s' : Driver) : Prop :=
  ∃ newer, s'.log = newer ++ s.log ∧
    ∀ r req, Event.terminated r req ∈ newer →
      ¬ req.Configures

/-
  Whoever waits in `s'` waited in `s` already, in the same
  list and for the same thing.
-/
structure Keeps (s s' : Driver) : Prop where
  lists : ∀ head, (s'.lists head).Sublist (s.lists head)
  waiter : ∀ head, ∀ r ∈ s'.lists head,
    (s'.reqs r).waiter = (s.reqs r).waiter

/- Moreover no request that configured the unit was ended. -/
structure Thins (s s' : Driver) : Prop
    extends Keeps s s' where
  log : NoneConfigured s s'

/- The request is in no list. -/
def Free (s : Driver) (ios2 : APTR) : Prop :=
  ∀ head, ios2 ∉ s.lists head

variable {s s' s'' : Driver} {ios2 r : APTR}

theorem NoneConfigured.refl : NoneConfigured s s :=
  ⟨[], rfl, fun _ _ hMem => absurd hMem List.not_mem_nil⟩

theorem NoneConfigured.trans
    (hFirst : NoneConfigured s s')
    (hSecond : NoneConfigured s' s'') :
    NoneConfigured s s'' := by
  rcases hFirst with ⟨older, hOlder, hNoneOlder⟩
  rcases hSecond with ⟨newer, hNewer, hNoneNewer⟩
  refine ⟨newer ++ older, ?_, ?_⟩
  · rw [hNewer, hOlder, List.append_assoc]
  · intro r req hMem
    rcases List.mem_append.mp hMem with hIn | hIn
    · exact hNoneNewer r req hIn
    · exact hNoneOlder r req hIn

/- The history stays the same. -/
theorem NoneConfigured.of_log
    (hLog : s'.log = s.log) :
    NoneConfigured s s' :=
  ⟨[], hLog, fun _ _ hMem => absurd hMem List.not_mem_nil⟩

theorem NoneConfigured.of_cons
    (event : Event)
    (hLog : s'.log = event :: s.log)
    (hNone : ∀ r req, event = .terminated r req →
      ¬ req.Configures) :
    NoneConfigured s s' := by
  refine ⟨[event], hLog, ?_⟩
  intro r req hMem
  exact hNone r req (List.mem_singleton.mp hMem).symm

namespace Keeps

theorem refl : Keeps s s where
  lists := fun head => List.Sublist.refl (s.lists head)
  waiter := fun _ _ _ => rfl

theorem trans
    (hFirst : Keeps s s')
    (hSecond : Keeps s' s'') :
    Keeps s s'' where
  lists := fun head =>
    (hSecond.lists head).trans (hFirst.lists head)
  waiter := by
    intro head r hMem
    rw [hSecond.waiter head r hMem]
    exact hFirst.waiter head r ((hSecond.lists head).mem hMem)

theorem free
    (hKeeps : Keeps s s')
    (hFree : s.Free ios2) :
    s'.Free ios2 :=
  fun head hMem => hFree head ((hKeeps.lists head).mem hMem)

theorem linked
    (hKeeps : Keeps s s')
    (hLinked : s.Linked) :
    s'.Linked where
  once := fun head =>
    (hLinked.once head).sublist (hKeeps.lists head)
  apart := fun head head' r hMem hMem' =>
    hLinked.apart head head' r ((hKeeps.lists head).mem hMem)
      ((hKeeps.lists head').mem hMem')

end Keeps

namespace Thins

theorem refl : Thins s s where
  toKeeps := Keeps.refl
  log := NoneConfigured.refl

theorem trans
    (hFirst : Thins s s')
    (hSecond : Thins s' s'') :
    Thins s s'' where
  toKeeps := hFirst.toKeeps.trans hSecond.toKeeps
  log := hFirst.log.trans hSecond.log

/- Requests, lists and history stay the same. -/
theorem of_same
    (hReqs : s'.reqs = s.reqs)
    (hLists : s'.lists = s.lists)
    (hLog : s'.log = s.log) :
    Thins s s' where
  lists := by
    intro head
    rw [hLists]
  waiter := by
    intro head r _
    rw [hReqs]
  log := NoneConfigured.of_log hLog

theorem ite
    {c : Prop} [Decidable c]
    {s₁ s₂ : Driver}
    (hThen : c → Thins s s₁)
    (hElse : ¬ c → Thins s s₂) :
    Thins s (if c then s₁ else s₂) := by
  by_cases hCond : c
  · rw [if_pos hCond]
    exact hThen hCond
  · rw [if_neg hCond]
    exact hElse hCond

end Thins

------------------------------------------------------------
-- Orderly Queues
------------------------------------------------------------

end Driver

/- The request is what the list is for. -/
def ListHead.IsFor : ListHead → Waiter → Prop
| .unitMsgPort, _ => True
| .bmRxQueue bm, w =>
    w.ioCommand = cmdRead ∧ w.bufferManagement = bm
| .euReadOrphan, w => w.ioCommand = s2ReadOrphan
| .euEvents, w => w.ioCommand = s2OnEvent
| .euTx, w => IsWrite w.ioCommand

namespace Driver

/- Every request in a list is pending, and what the list is
   for. -/
structure Orderly (s : Driver) : Prop extends s.Linked where
  pending : ∀ head, ∀ r ∈ s.lists head,
    (s.reqs r).lnType = ntMessage
  isFor : ∀ head, ∀ r ∈ s.lists head,
    head.IsFor (s.reqs r).waiter

/- A handler works on a request that is in no list. -/
structure Holding (ios2 : APTR) (s : Driver) : Prop
    extends s.Orderly where
  free : s.Free ios2

variable {s s' : Driver} {ios2 : APTR}

theorem Orderly.keeps
    (hOrderly : s.Orderly)
    (hKeeps : Keeps s s') :
    s'.Orderly where
  toLinked := hKeeps.linked hOrderly.toLinked
  pending := by
    intro head r hMem
    have hSame := congrArg Waiter.lnType
      (hKeeps.waiter head r hMem)
    exact hSame.trans
      (hOrderly.pending head r ((hKeeps.lists head).mem hMem))
  isFor := by
    intro head r hMem
    rw [hKeeps.waiter head r hMem]
    exact hOrderly.isFor head r ((hKeeps.lists head).mem hMem)

theorem Orderly.thins
    (hOrderly : s.Orderly)
    (hThins : Thins s s') :
    s'.Orderly :=
  hOrderly.keeps hThins.toKeeps

theorem Holding.thins
    (hHold : Holding ios2 s)
    (hThins : Thins s s') :
    Holding ios2 s' where
  toOrderly := hHold.toOrderly.thins hThins
  free := hThins.free hHold.free

/- The commands that wait in lists do not configure. -/
theorem ne_s2ConfigInterface_of_isWrite
    {command : UWORD}
    (hWrite : IsWrite command) :
    command ≠ s2ConfigInterface := by
  rcases hWrite with rfl | rfl | rfl
  · decide
  · decide
  · decide

theorem Orderly.not_config
    {head : ListHead}
    {r : APTR}
    (hOrderly : s.Orderly)
    (hMem : r ∈ s.lists head)
    (hPort : head ≠ .unitMsgPort) :
    (s.reqs r).ioCommand ≠ s2ConfigInterface := by
  have hFor := hOrderly.isFor head r hMem
  cases head with
  | unitMsgPort => exact absurd rfl hPort
  | bmRxQueue bm =>
      rw [show (s.reqs r).ioCommand = cmdRead from hFor.1]
      decide
  | euReadOrphan =>
      rw [show (s.reqs r).ioCommand = s2ReadOrphan from hFor]
      decide
  | euEvents =>
      rw [show (s.reqs r).ioCommand = s2OnEvent from hFor]
      decide
  | euTx => exact ne_s2ConfigInterface_of_isWrite hFor

------------------------------------------------------------
-- Single Operations
------------------------------------------------------------

/- A request that is in no list may be changed. -/
theorem thins_setReq
    (hFree : s.Free ios2)
    (f : IOSana2Req → IOSana2Req) :
    Thins s (s.setReq ios2 f) where
  lists := fun head => List.Sublist.refl (s.lists head)
  waiter := by
    intro head r hMem
    have hOther : r ≠ ios2 := by
      intro hSame
      exact hFree head (hSame ▸ hMem)
    rw [reqs_setReq, if_neg hOther]
  log := NoneConfigured.refl

/- So may a request whose waiting does not change. -/
theorem thins_setReq_of_waiter
    (ios2 : APTR)
    (f : IOSana2Req → IOSana2Req)
    (hWaiter :
      (f (s.reqs ios2)).waiter = (s.reqs ios2).waiter) :
    Thins s (s.setReq ios2 f) where
  lists := fun head => List.Sublist.refl (s.lists head)
  waiter := by
    intro head r _
    rw [reqs_setReq]
    by_cases hSame : r = ios2
    · rw [if_pos hSame, hSame, hWaiter]
    · rw [if_neg hSame]
  log := NoneConfigured.refl

/- An event that concerns no list is noted. -/
theorem thins_noted
    (event : Event)
    (hNeutral : event.Neutral)
    (hReqs : s'.reqs = s.reqs)
    (hLists : s'.lists = s.lists)
    (hLog : s'.log = event :: s.log) :
    Thins s s' where
  lists := by
    intro head
    rw [hLists]
  waiter := by
    intro head r _
    rw [hReqs]
  log := by
    apply NoneConfigured.of_cons event hLog
    intro r req hEvent
    rw [hEvent] at hNeutral
    exact hNeutral.elim

theorem thins_remove (ios2 : APTR) :
    Thins s (s.remove ios2) where
  lists := fun _ => List.erase_sublist
  waiter := fun _ _ _ => rfl
  log := NoneConfigured.refl

theorem Orderly.remove
    (hOrderly : s.Orderly)
    (ios2 : APTR) :
    Holding ios2 (s.remove ios2) where
  toOrderly := hOrderly.thins (thins_remove ios2)
  free := hOrderly.toLinked.not_mem_remove

theorem keeps_termIo
    (hFree : s.Free ios2) :
    Keeps s (s.termIo ios2) where
  lists := by
    rw [lists_termIo]
    exact fun head => List.Sublist.refl (s.lists head)
  waiter := by
    intro head r hMem
    rw [lists_termIo] at hMem
    have hOther : r ≠ ios2 := by
      intro hSame
      exact hFree head (hSame ▸ hMem)
    rw [reqs_termIo_of_ne s ios2 r hOther]

theorem thins_termIo
    (hFree : s.Free ios2)
    (hEnds : ¬ (s.reqs ios2).Configures) :
    Thins s (s.termIo ios2) where
  toKeeps := keeps_termIo hFree
  log := by
    apply NoneConfigured.of_cons _ (log_termIo s ios2)
    intro r req hEvent
    cases hEvent
    exact hEnds

theorem thins_termWithError
    {ioError : Int}
    {wireError : ULONG}
    (hFree : s.Free ios2)
    (hError : ioError ≠ 0) :
    Thins s (s.termWithError ios2 ioError wireError) := by
  have hMarked := thins_setReq hFree (fun req =>
    { req with wireError := wireError, ioError := ioError })
  apply hMarked.trans
  apply thins_termIo (hMarked.free hFree)
  rw [reqs_setReq, if_pos rfl]
  exact fun hConfigures => hError hConfigures.2

/- A request is changed, unlinked and terminated. -/
theorem thins_retire
    (hOrderly : s.Orderly)
    (f : IOSana2Req → IOSana2Req)
    (hEnds : ¬ (f (s.reqs ios2)).Configures) :
    Thins s (s.retire ios2 f) := by
  have hTaken : Thins s (s.remove ios2) := thins_remove ios2
  have hFree := (hOrderly.remove ios2).free
  have hMarked := thins_setReq hFree f
  apply (hTaken.trans hMarked).trans
  apply thins_termIo (hMarked.free hFree)
  rw [reqs_setReq, if_pos rfl]
  exact hEnds

------------------------------------------------------------
-- Loops
------------------------------------------------------------

theorem Orderly.doEventLoop
    (events : ULONG)
    {rs : List APTR}
    (hOrderly : s.Orderly)
    (hNodup : rs.Nodup)
    (hMem : ∀ r ∈ rs, r ∈ s.lists .euEvents) :
    Thins s (doEventLoop events rs s) := by
  induction rs generalizing s with
  | nil => exact Thins.refl
  | cons ios2 rs ih =>
      have hTail := (List.nodup_cons.mp hNodup).2
      by_cases hAwaits : (s.reqs ios2).Awaits events
      · rw [doEventLoop_cons_of_awaits rs hAwaits]
        have hCommand :=
          hOrderly.not_config (hMem ios2 List.mem_cons_self)
            (by decide)
        have hTurn := thins_retire hOrderly
          (fun req =>
            { req with wireError := events, ioError := 0 })
          (fun hConfigures => hCommand hConfigures.1)
        apply hTurn.trans
        apply ih (hOrderly.thins hTurn) hTail
        rw [lists_retire]
        exact Linked.forall_mem_remove hNodup hMem
      · rw [doEventLoop_cons_of_not_awaits rs hAwaits]
        exact ih hOrderly hTail (fun r hIn =>
          hMem r (List.mem_cons_of_mem ios2 hIn))

theorem Orderly.doEvent
    (hOrderly : s.Orderly)
    (events : ULONG) :
    Thins s (s.doEvent events) := by
  have hFired : Thins s (s.record (.fired events)) :=
    thins_noted (.fired events) trivial rfl rfl rfl
  exact hFired.trans
    ((hOrderly.thins hFired).doEventLoop events
      (hOrderly.once .euEvents) (fun _ hIn => hIn))

theorem Orderly.abortOne
    (hOrderly : s.Orderly)
    (ios2 : APTR) :
    Thins s (s.abortOne ios2) := by
  rw [abortOne_eq_retire]
  apply thins_retire hOrderly
  intro hConfigures
  exact absurd hConfigures.2
    (show ioerrAborted ≠ 0 from by decide)

theorem Orderly.abortLoop
    (rs : List APTR)
    (hOrderly : s.Orderly) :
    Thins s (abortLoop rs s) := by
  induction rs generalizing s with
  | nil => exact Thins.refl
  | cons ios2 rs ih =>
      have hTurn := hOrderly.abortOne ios2
      exact hTurn.trans (ih (hOrderly.thins hTurn))

theorem Orderly.abortReqList
    (hOrderly : s.Orderly)
    (head : ListHead) :
    Thins s (s.abortReqList head) :=
  hOrderly.abortLoop (s.lists head)

theorem Orderly.abortHeads
    (heads : List ListHead)
    (hOrderly : s.Orderly) :
    Thins s (abortHeads heads s) := by
  induction heads generalizing s with
  | nil => exact Thins.refl
  | cons head heads ih =>
      have hAborted := hOrderly.abortReqList head
      exact hAborted.trans (ih (hOrderly.thins hAborted))

theorem Orderly.flushRequests
    (hOrderly : s.Orderly) :
    Thins s (flushRequests s) := by
  rw [flushRequests_eq]
  exact hOrderly.abortHeads _

end Driver

end KszDriver
