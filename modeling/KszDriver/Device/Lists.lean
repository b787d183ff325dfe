import KszDriver.Device.System

/-
  What the operations on requests and lists change, and what
  they leave alone.

  A driver is linked when no request is in two lists or twice
  in one; `Remove` then takes a request out of the one list
  it is in.

  Main declarations:
    * `Driver.rest` and what keeps it
    * `Driver.Linked`
    * `lists_doEvent_of_ne`, `lists_abortReqList`
-/

------------------------------------------------------------
-- One Operation
------------------------------------------------------------

namespace KszDriver

/- What was added to the history. -/
def Driver.since (s s' : Driver) : List Event :=
  s'.log.take (s'.log.length - s.log.length)

theorem since_of_append
    {s s' : Driver}
    {newer : List Event}
    (hLog : s'.log = newer ++ s.log) :
    s.since s' = newer := by
  unfold Driver.since
  rw [hLog, List.length_append, Nat.add_sub_cancel_right,
    List.take_left]

namespace Driver

/- All but requests, lists and history. -/
structure Rest where
  base : DeviceBase
  unit : DeviceDriverUnit
  bms : APTR → BufferManagement
  queries : APTR → Sana2DeviceQuery
  sendBuffer : Memory
  nic : NicState

def rest (s : Driver) : Rest where
  base := s.base
  unit := s.unit
  bms := s.bms
  queries := s.queries
  sendBuffer := s.sendBuffer
  nic := s.nic

variable (s : Driver) (ios2 other : APTR)

@[simp] theorem reqs_setReq
    (f : IOSana2Req → IOSana2Req) :
    (s.setReq ios2 f).reqs other =
      if other = ios2 then f (s.reqs ios2)
      else s.reqs other := by
  simp [setReq, Function.update_apply]

@[simp] theorem lists_setReq
    (f : IOSana2Req → IOSana2Req) :
    (s.setReq ios2 f).lists = s.lists := rfl

@[simp] theorem log_setReq (f : IOSana2Req → IOSana2Req) :
    (s.setReq ios2 f).log = s.log := rfl

@[simp] theorem rest_setReq (f : IOSana2Req → IOSana2Req) :
    (s.setReq ios2 f).rest = s.rest := rfl

@[simp] theorem reqs_record (event : Event) :
    (s.record event).reqs = s.reqs := rfl

@[simp] theorem lists_record (event : Event) :
    (s.record event).lists = s.lists := rfl

@[simp] theorem log_record (event : Event) :
    (s.record event).log = event :: s.log := rfl

@[simp] theorem rest_record (event : Event) :
    (s.record event).rest = s.rest := rfl

@[simp] theorem reqs_addTail (head : ListHead) :
    (s.addTail head ios2).reqs = s.reqs := rfl

@[simp] theorem lists_addTail (head head' : ListHead) :
    (s.addTail head ios2).lists head' =
      if head' = head then s.lists head ++ [ios2]
      else s.lists head' := by
  simp [addTail, Function.update_apply]

@[simp] theorem reqs_remove :
    (s.remove ios2).reqs = s.reqs := rfl

@[simp] theorem lists_remove (head : ListHead) :
    (s.remove ios2).lists head =
      (s.lists head).erase ios2 := rfl

@[simp] theorem log_remove :
    (s.remove ios2).log = s.log := rfl

@[simp] theorem rest_remove :
    (s.remove ios2).rest = s.rest := rfl

/- `TermIO` changes nothing but the node type. -/
theorem reqs_termIo :
    (s.termIo ios2).reqs other =
      if other = ios2 ∧
          (s.reqs ios2).termBranch = .replyMsg then
        { s.reqs ios2 with lnType := ntReplyMsg }
      else s.reqs other := by
  unfold termIo
  by_cases hReply : (s.reqs ios2).termBranch = .replyMsg
  · simp [hReply]
  · simp [hReply]

@[simp] theorem lists_termIo :
    (s.termIo ios2).lists = s.lists := by
  unfold termIo
  split <;> rfl

@[simp] theorem log_termIo :
    (s.termIo ios2).log =
      .terminated ios2 (s.reqs ios2) :: s.log := by
  unfold termIo
  split <;> rfl

@[simp] theorem rest_termIo :
    (s.termIo ios2).rest = s.rest := by
  unfold termIo
  split <;> rfl

theorem reqs_termIo_of_ne
    (hOther : other ≠ ios2) :
    (s.termIo ios2).reqs other = s.reqs other := by
  rw [reqs_termIo, if_neg (fun hBoth => hOther hBoth.1)]

@[simp] theorem rest_termWithError
    (ioError : Int) (wireError : ULONG) :
    (s.termWithError ios2 ioError wireError).rest =
      s.rest := by
  simp [termWithError, setErrorOnRequest]

@[simp] theorem rest_abortOne :
    (s.abortOne ios2).rest = s.rest := by
  simp [abortOne]

------------------------------------------------------------
-- Loops
------------------------------------------------------------

@[simp] theorem rest_doEventLoop
    (events : ULONG) (rs : List APTR) :
    (doEventLoop events rs s).rest = s.rest := by
  induction rs generalizing s with
  | nil => rfl
  | cons ios2 rs ih =>
      unfold doEventLoop
      split
      · rw [ih]
        simp [setErrorOnRequest]
      · rw [ih]

@[simp] theorem rest_doEvent (events : ULONG) :
    (s.doEvent events).rest = s.rest := by
  simp [doEvent]

@[simp] theorem rest_abortLoop (rs : List APTR) :
    (abortLoop rs s).rest = s.rest := by
  induction rs generalizing s with
  | nil => rfl
  | cons ios2 rs ih =>
      unfold abortLoop
      rw [ih, rest_abortOne]

@[simp] theorem rest_abortReqList (head : ListHead) :
    (s.abortReqList head).rest = s.rest :=
  rest_abortLoop s _

/- The parts of the rest. -/
theorem unit_of_rest
    {s s' : Driver}
    (hRest : s'.rest = s.rest) :
    s'.unit = s.unit :=
  congrArg Rest.unit hRest

theorem base_of_rest
    {s s' : Driver}
    (hRest : s'.rest = s.rest) :
    s'.base = s.base :=
  congrArg Rest.base hRest

theorem nic_of_rest
    {s s' : Driver}
    (hRest : s'.rest = s.rest) :
    s'.nic = s.nic :=
  congrArg Rest.nic hRest

------------------------------------------------------------
-- Linked Drivers
------------------------------------------------------------

/- No request is in two lists, or twice in one. -/
structure Linked (s : Driver) : Prop where
  once : ∀ head, (s.lists head).Nodup
  apart : ∀ head head' ios2,
    ios2 ∈ s.lists head → ios2 ∈ s.lists head' →
      head = head'

namespace Linked

variable {s : Driver} {ios2 : APTR}

/- Being linked is a matter of the lists alone. -/
theorem congr
    {s' : Driver}
    (hLinked : s.Linked)
    (hLists : s'.lists = s.lists) :
    s'.Linked where
  once := by
    rw [hLists]
    exact hLinked.once
  apart := by
    rw [hLists]
    exact hLinked.apart

/- A removed request is in no list. -/
theorem not_mem_remove
    (hLinked : s.Linked)
    (head : ListHead) :
    ios2 ∉ (s.remove ios2).lists head :=
  (hLinked.once head).not_mem_erase

/- Removal leaves the other requests in their lists. -/
theorem mem_remove
    {other : APTR}
    {head : ListHead}
    (hOther : other ≠ ios2)
    (hMem : other ∈ s.lists head) :
    other ∈ (s.remove ios2).lists head :=
  (List.mem_erase_of_ne hOther).mpr hMem

/- Removal concerns one list only. -/
theorem lists_remove_of_ne
    {head head' : ListHead}
    (hLinked : s.Linked)
    (hMem : ios2 ∈ s.lists head)
    (hOther : head' ≠ head) :
    (s.remove ios2).lists head' = s.lists head' := by
  apply List.erase_of_not_mem
  intro hMem'
  exact hOther (hLinked.apart head' head ios2 hMem' hMem)

theorem remove (hLinked : s.Linked) :
    (s.remove ios2).Linked where
  once := fun head => (hLinked.once head).erase ios2
  apart := fun head head' r hMem hMem' =>
    hLinked.apart head head' r
      (List.mem_of_mem_erase hMem)
      (List.mem_of_mem_erase hMem')

/- Requests whose list is being unlinked one by one. -/
theorem forall_mem_remove
    {head : ListHead}
    {rs : List APTR}
    (hNodup : (ios2 :: rs).Nodup)
    (hMem : ∀ r ∈ ios2 :: rs, r ∈ s.lists head) :
    ∀ r ∈ rs, r ∈ (s.remove ios2).lists head := by
  intro r hIn
  apply mem_remove
  · rintro rfl
    exact (List.nodup_cons.mp hNodup).1 hIn
  · exact hMem r (List.mem_cons_of_mem ios2 hIn)

end Linked

------------------------------------------------------------
-- Terminations
------------------------------------------------------------

/- Events that are no termination do not add one. -/
@[simp] theorem terminations_terminated
    (ios2 other : APTR) (req : IOSana2Req) (log : List Event) :
    terminations ios2 (.terminated other req :: log) =
      if other = ios2 then req :: terminations ios2 log
      else terminations ios2 log := rfl

@[simp] theorem terminations_queued
    (ios2 other : APTR) (head : ListHead) (log : List Event) :
    terminations ios2 (.queued other head :: log) =
      terminations ios2 log := rfl

@[simp] theorem terminations_submitted
    (ios2 other : APTR) (log : List Event) :
    terminations ios2 (.submitted other :: log) =
      terminations ios2 log := rfl

@[simp] theorem terminations_fired
    (ios2 : APTR) (events : ULONG) (log : List Event) :
    terminations ios2 (.fired events :: log) =
      terminations ios2 log := rfl

/-
  An operation leaves a request alone: the request keeps its
  contents and is not terminated.
-/
structure Spares (ios2 : APTR) (s s' : Driver) : Prop where
  reqs : s'.reqs ios2 = s.reqs ios2
  terminations :
    terminations ios2 s'.log = terminations ios2 s.log

namespace Spares

variable {ios2 : APTR} {s s' s'' : Driver}

theorem refl : Spares ios2 s s where
  reqs := rfl
  terminations := rfl

theorem trans
    (hFirst : Spares ios2 s s')
    (hSecond : Spares ios2 s' s'') :
    Spares ios2 s s'' where
  reqs := hSecond.reqs.trans hFirst.reqs
  terminations :=
    hSecond.terminations.trans hFirst.terminations

end Spares

section Spared

variable (s : Driver) {ios2 other : APTR}

theorem spares_setReq
    (hOther : other ≠ ios2)
    (f : IOSana2Req → IOSana2Req) :
    Spares other s (s.setReq ios2 f) where
  reqs := by simp [hOther]
  terminations := rfl

theorem spares_termIo (hOther : other ≠ ios2) :
    Spares other s (s.termIo ios2) where
  reqs := reqs_termIo_of_ne s ios2 other hOther
  terminations := by
    rw [log_termIo, terminations_terminated,
      if_neg (Ne.symm hOther)]

theorem spares_remove :
    Spares other s (s.remove ios2) where
  reqs := rfl
  terminations := rfl

theorem spares_abortOne (hOther : other ≠ ios2) :
    Spares other s (s.abortOne ios2) := by
  have hMarked :=
    spares_setReq (s.remove ios2) hOther
      (fun req => { req with ioError := ioerrAborted })
  exact ((spares_remove s).trans hMarked).trans
    (spares_termIo _ hOther)

theorem spares_doEventLoop
    (events : ULONG)
    {rs : List APTR}
    (hOther : other ∉ rs) :
    Spares other s (doEventLoop events rs s) := by
  induction rs generalizing s with
  | nil => exact Spares.refl
  | cons ios2 rs ih =>
      rw [List.mem_cons, not_or] at hOther
      unfold doEventLoop
      split
      · have hMarked :=
          spares_setReq s hOther.1 (fun req =>
            { req with wireError := events, ioError := 0 })
        exact ((hMarked.trans (spares_remove _)).trans
          (spares_termIo _ hOther.1)).trans (ih _ hOther.2)
      · exact ih s hOther.2

theorem spares_doEvent
    (events : ULONG)
    (hOther : other ∉ s.lists .euEvents) :
    Spares other s (s.doEvent events) :=
  (show Spares other s (s.record (.fired events)) from
    ⟨rfl, rfl⟩).trans (spares_doEventLoop _ events hOther)

theorem spares_abortLoop
    {rs : List APTR}
    (hOther : other ∉ rs) :
    Spares other s (abortLoop rs s) := by
  induction rs generalizing s with
  | nil => exact Spares.refl
  | cons ios2 rs ih =>
      rw [List.mem_cons, not_or] at hOther
      exact (spares_abortOne s hOther.1).trans
        (ih _ hOther.2)

/- How an abort terminates a request. -/
theorem terminations_abortOne :
    terminations ios2 (s.abortOne ios2).log =
      { s.reqs ios2 with ioError := ioerrAborted } ::
        terminations ios2 s.log := by
  simp [abortOne]

theorem terminations_abortLoop
    {rs : List APTR}
    (hNodup : rs.Nodup)
    (hMem : ios2 ∈ rs) :
    terminations ios2 (abortLoop rs s).log =
      { s.reqs ios2 with ioError := ioerrAborted } ::
        terminations ios2 s.log := by
  induction rs generalizing s with
  | nil => exact absurd hMem List.not_mem_nil
  | cons first rs ih =>
      rw [List.nodup_cons] at hNodup
      rw [List.mem_cons] at hMem
      unfold abortLoop
      by_cases hFirst : ios2 = first
      · subst hFirst
        rw [(spares_abortLoop _ hNodup.1).terminations,
          terminations_abortOne]
      · have hSpared := spares_abortOne s hFirst
        rw [ih _ hNodup.2 (hMem.resolve_left hFirst),
          hSpared.reqs, hSpared.terminations]

end Spared

------------------------------------------------------------
-- Lists after the Loops
------------------------------------------------------------

@[simp] theorem lists_abortOne
    (s : Driver) (ios2 : APTR) :
    (s.abortOne ios2).lists = (s.remove ios2).lists := by
  simp [abortOne]

/- An abort of a whole list leaves the other lists. -/
theorem lists_abortLoop_of_ne
    {s : Driver}
    {rs : List APTR}
    {head head' : ListHead}
    (hLinked : s.Linked)
    (hNodup : rs.Nodup)
    (hMem : ∀ r ∈ rs, r ∈ s.lists head)
    (hOther : head' ≠ head) :
    (abortLoop rs s).lists head' = s.lists head' := by
  induction rs generalizing s with
  | nil => rfl
  | cons ios2 rs ih =>
      unfold abortLoop
      have hLists := lists_abortOne s ios2
      rw [ih (hLinked.remove.congr hLists)
        (List.nodup_cons.mp hNodup).2 (by
          rw [hLists]
          exact Linked.forall_mem_remove hNodup hMem),
        hLists]
      exact hLinked.lists_remove_of_ne
        (hMem ios2 List.mem_cons_self) hOther

theorem linked_abortLoop
    {s : Driver}
    (rs : List APTR)
    (hLinked : s.Linked) :
    (abortLoop rs s).Linked := by
  induction rs generalizing s with
  | nil => exact hLinked
  | cons ios2 rs ih =>
      exact ih (hLinked.remove.congr (lists_abortOne s ios2))

/- What is left of the list that is aborted. -/
theorem mem_lists_abortLoop
    {s : Driver}
    {rs : List APTR}
    {head : ListHead}
    (hLinked : s.Linked)
    (r : APTR) :
    r ∈ (abortLoop rs s).lists head ↔
      r ∈ s.lists head ∧ r ∉ rs := by
  induction rs generalizing s with
  | nil => simp [abortLoop]
  | cons ios2 rs ih =>
      unfold abortLoop
      rw [ih (hLinked.remove.congr (lists_abortOne s ios2)),
        lists_abortOne, lists_remove,
        (hLinked.once head).mem_erase_iff, List.mem_cons,
        not_or]
      constructor
      · rintro ⟨⟨hOther, hMem⟩, hRest⟩
        exact ⟨hMem, hOther, hRest⟩
      · rintro ⟨hMem, hOther, hRest⟩
        exact ⟨⟨hOther, hMem⟩, hRest⟩

/- An aborted list is empty. -/
theorem lists_abortReqList
    {s : Driver}
    (hLinked : s.Linked)
    (head : ListHead) :
    (s.abortReqList head).lists head = [] := by
  apply List.eq_nil_iff_forall_not_mem.mpr
  intro r hMem
  have hBoth := (mem_lists_abortLoop hLinked r).mp hMem
  exact hBoth.2 hBoth.1

theorem lists_abortReqList_of_ne
    {s : Driver}
    {head head' : ListHead}
    (hLinked : s.Linked)
    (hOther : head' ≠ head) :
    (s.abortReqList head).lists head' = s.lists head' :=
  lists_abortLoop_of_ne hLinked (hLinked.once head)
    (fun _ hMem => hMem) hOther

/- Only the requests of the list are aborted. -/
theorem spares_abortReqList
    (s : Driver)
    {head : ListHead}
    {other : APTR}
    (hOther : other ∉ s.lists head) :
    Spares other s (s.abortReqList head) :=
  spares_abortLoop s hOther

theorem terminations_abortReqList
    {s : Driver}
    {head : ListHead}
    {ios2 : APTR}
    (hLinked : s.Linked)
    (hMem : ios2 ∈ s.lists head) :
    terminations ios2 (s.abortReqList head).log =
      { s.reqs ios2 with ioError := ioerrAborted } ::
        terminations ios2 s.log :=
  terminations_abortLoop s (hLinked.once head) hMem

/- An event concerns the list of events only. -/
theorem lists_doEventLoop_of_ne
    {s : Driver}
    {rs : List APTR}
    {head : ListHead}
    (events : ULONG)
    (hLinked : s.Linked)
    (hNodup : rs.Nodup)
    (hMem : ∀ r ∈ rs, r ∈ s.lists .euEvents)
    (hOther : head ≠ .euEvents) :
    (doEventLoop events rs s).lists head = s.lists head := by
  induction rs generalizing s with
  | nil => rfl
  | cons ios2 rs ih =>
      have hTail := (List.nodup_cons.mp hNodup).2
      unfold doEventLoop
      split
      · have hLists :
            (((s.setErrorOnRequest ios2 0 events).remove
              ios2).termIo ios2).lists =
                (s.remove ios2).lists := by
          simp [setErrorOnRequest, Driver.remove]
        rw [ih (hLinked.remove.congr hLists) hTail (by
            rw [hLists]
            exact Linked.forall_mem_remove hNodup hMem),
          hLists]
        exact hLinked.lists_remove_of_ne
          (hMem ios2 List.mem_cons_self) hOther
      · exact ih hLinked hTail (fun r hIn =>
          hMem r (List.mem_cons_of_mem ios2 hIn))

theorem lists_doEvent_of_ne
    {s : Driver}
    {head : ListHead}
    (events : ULONG)
    (hLinked : s.Linked)
    (hOther : head ≠ .euEvents) :
    (s.doEvent events).lists head = s.lists head :=
  lists_doEventLoop_of_ne events
    (hLinked.congr (lists_record s _)) (hLinked.once _)
    (fun _ hMem => hMem) hOther

theorem linked_doEventLoop
    {s : Driver}
    (events : ULONG)
    (rs : List APTR)
    (hLinked : s.Linked) :
    (doEventLoop events rs s).Linked := by
  induction rs generalizing s with
  | nil => exact hLinked
  | cons ios2 rs ih =>
      unfold doEventLoop
      split
      · apply ih
        apply hLinked.remove.congr
        rw [lists_termIo]
        rfl
      · exact ih hLinked

theorem linked_doEvent
    {s : Driver}
    (events : ULONG)
    (hLinked : s.Linked) :
    (s.doEvent events).Linked :=
  linked_doEventLoop events _ (hLinked.congr rfl)

end Driver

end KszDriver
