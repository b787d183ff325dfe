import KszDriver.Device.HandlerWork
import KszDriver.Device.Metadata

/-
  What a client is told that waits for events.

  The mask of the request is also the place of the answer.
  The answer is true, unless the client has asked for the unit
  to be online and to be offline in one request: it is told
  at once that both is so.

  Main declarations:
    * `heardBy`, `reportsOf`, `EventReport.Truthful`
    * `Minds`, `Minds.works`
    * `Sincere`, `sincere_works`
    * `AsksOneState`
    * `truthfulRun_iff`
    * `not_truthfulRun_bothStates`
-/

------------------------------------------------------------
-- Reports
------------------------------------------------------------

namespace KszDriver

open Driver

/- The events that were fired since the request was queued for
   events, if it is. -/
def heardBy (r : APTR) : List Event → Option (List ULONG)
| [] => none
| .submitted other :: log =>
    if other = r then none else heardBy r log
| .terminated other _ :: log =>
    if other = r then none else heardBy r log
| .queued other head :: log =>
    if other = r ∧ head = .euEvents then some []
    else heardBy r log
| .fired events :: log =>
    (heardBy r log).map (fun heard => events :: heard)
| _ :: log => heardBy r log

/- What a client is told that has asked for events. -/
structure EventReport where
  mask : ULONG
  wireError : ULONG
  heard : Option (List ULONG)
  online : Bool

/- The request has come back with an answer. -/
def IOSana2Req.AnswersEvent (req : IOSana2Req) : Prop :=
  req.ioCommand = s2OnEvent ∧ req.ioError = 0

instance (req : IOSana2Req) : Decidable req.AnswersEvent := by
  unfold IOSana2Req.AnswersEvent
  infer_instance

/- The report that an event makes, after an older history. -/
def reportOf
    (masks : APTR → ULONG)
    (online : Bool)
    (older : List Event) : Event → List EventReport
| .terminated r req =>
    if req.AnswersEvent then
      [{ mask := masks r
         wireError := req.wireError
         heard := heardBy r older
         online := online }]
    else []
| _ => []

def reportsOf
    (masks : APTR → ULONG)
    (online : Bool)
    (older : List Event) : List Event → List EventReport
| [] => []
| event :: newer =>
    reportOf masks online (newer ++ older) event ++
      reportsOf masks online older newer

/- The events are among those of the mask. -/
def WithinMask (events mask : ULONG) : Prop :=
  events &&& ~~~mask = 0#32

/- The unit is said to be online, and to be offline. -/
def BothStates (events : ULONG) : Prop :=
  events &&& s2eventOnline ≠ 0#32 ∧
    events &&& s2eventOffline ≠ 0#32

instance (events mask : ULONG) :
    Decidable (WithinMask events mask) := by
  unfold WithinMask
  infer_instance

instance (events : ULONG) : Decidable (BothStates events) := by
  unfold BothStates
  infer_instance

/- The event has happened while the request waited for it, or
   is how the unit is. -/
def EventReport.Tells (report : EventReport) (i : Nat) : Prop :=
  match report.heard with
  | some heard => ∃ events ∈ heard, events.getLsbD i = true
  | none =>
      s2eventOnline.getLsbD i = true ∧ report.online = true ∨
        s2eventOffline.getLsbD i = true ∧
          report.online = false

/- The client is told of events that it has asked for, of at
   least one, and of none that has not happened. -/
structure EventReport.Truthful (report : EventReport) : Prop
    where
  some : report.wireError ≠ 0#32
  asked : WithinMask report.wireError report.mask
  tells : ∀ i, report.wireError.getLsbD i = true →
    report.Tells i
  once : ¬ BothStates report.wireError

theorem reportsOf_append
    (masks : APTR → ULONG)
    (online : Bool)
    (older newer newest : List Event) :
    reportsOf masks online older (newest ++ newer) =
      reportsOf masks online (newer ++ older) newest ++
        reportsOf masks online older newer := by
  induction newest with
  | nil => rfl
  | cons event newest ih =>
      show reportOf masks online ((newest ++ newer) ++ older)
          event ++ reportsOf masks online older
            (newest ++ newer) = _
      rw [ih, List.append_assoc newest newer older,
        ← List.append_assoc]
      rfl

/- Whoever is answered gets a report. -/
theorem exists_report
    (masks : APTR → ULONG)
    (online : Bool)
    (older : List Event)
    {newer : List Event}
    {r : APTR}
    {req : IOSana2Req}
    (hMem : Event.terminated r req ∈ newer)
    (hAnswers : req.AnswersEvent) :
    ∃ report ∈ reportsOf masks online older newer,
      report.mask = masks r ∧
        report.wireError = req.wireError := by
  induction newer with
  | nil => exact absurd hMem List.not_mem_nil
  | cons event newer ih =>
      rcases List.mem_cons.mp hMem with rfl | hIn
      · let report : EventReport :=
          { mask := masks r
            wireError := req.wireError
            heard := heardBy r (newer ++ older)
            online := online }
        have hOf : reportOf masks online (newer ++ older)
            (.terminated r req) = [report] :=
          if_pos hAnswers
        refine ⟨report, List.mem_append_left _ ?_, rfl, rfl⟩
        rw [hOf]
        exact List.mem_singleton_self report
      · obtain ⟨report, hReport, hSame⟩ := ih hIn
        exact ⟨report, List.mem_append_right _ hReport, hSame⟩

------------------------------------------------------------
-- Bits
------------------------------------------------------------

theorem and_ne_zero_of_bit
    {v w : ULONG}
    {i : Nat}
    (hFirst : v.getLsbD i = true)
    (hSecond : w.getLsbD i = true) :
    v &&& w ≠ 0#32 := by
  intro hZero
  have hBit := congrArg (fun u => u.getLsbD i) hZero
  simp [hFirst, hSecond] at hBit

/- A single event is among those that it wakes somebody
   for. -/
theorem withinMask_twoPow
    {mask : ULONG}
    {i : Nat}
    (hAwaits : mask &&& BitVec.twoPow 32 i ≠ 0#32) :
    WithinMask (BitVec.twoPow 32 i) mask := by
  have hBit : mask.getLsbD i = true := by
    rw [BitVec.and_twoPow] at hAwaits
    by_contra hNot
    rw [if_neg hNot] at hAwaits
    exact hAwaits rfl
  unfold WithinMask
  rw [BitVec.and_comm, BitVec.and_twoPow]
  simp [hBit]

/- The events that the driver fires are single ones. -/
theorem suits_of_fired
    {events mask : ULONG}
    (hKnown : events ∈ firedEvents)
    (hAwaits : mask &&& events ≠ 0#32) :
    WithinMask events mask ∧ ¬ BothStates events := by
  simp only [firedEvents, List.mem_cons, List.not_mem_nil,
    or_false] at hKnown
  have hSingle :
      ∃ i, events = BitVec.twoPow 32 i ∧
        ¬ BothStates (BitVec.twoPow 32 i) := by
    rcases hKnown with rfl | rfl | rfl | rfl
    · exact ⟨1, by decide, by decide⟩
    · exact ⟨5, by decide, by decide⟩
    · exact ⟨3, by decide, by decide⟩
    · exact ⟨4, by decide, by decide⟩
  obtain ⟨i, rfl, hOnce⟩ := hSingle
  exact ⟨withinMask_twoPow hAwaits, hOnce⟩

------------------------------------------------------------
-- Masks of Requests That Wait
------------------------------------------------------------

/- Whoever waits has the mask that it was submitted with, and
   the history knows that it waits. -/
structure Minds
    (masks : APTR → ULONG) (s : Driver) : Prop where
  events : (s.lists .euEvents).Nodup
  port : (s.lists .unitMsgPort).Nodup
  waits : ∀ r ∈ s.lists .euEvents,
    (s.reqs r).ioCommand = s2OnEvent ∧
      masks r = (s.reqs r).wireError ∧
        ∃ heard, heardBy r s.log = some heard
  comes : ∀ r ∈ s.lists .unitMsgPort,
    masks r = (s.reqs r).wireError ∧ heardBy r s.log = none

section Keeping

variable {masks : APTR → ULONG} {s s' : Driver} {r : APTR}

/- Other events do not make a request stop waiting. -/
theorem heardBy_of_neutral
    {event : Event}
    {log : List Event}
    (hNeutral : event.Neutral)
    (hHeard : ∃ heard, heardBy r log = some heard) :
    ∃ heard, heardBy r (event :: log) = some heard := by
  obtain ⟨heard, hSome⟩ := hHeard
  cases event with
  | submitted other => exact hNeutral.elim
  | queued other head => exact hNeutral.elim
  | terminated other req => exact hNeutral.elim
  | fired events =>
      refine ⟨events :: heard, ?_⟩
      unfold heardBy
      rw [hSome]
      rfl
  | _ => exact ⟨heard, hSome⟩

theorem heardBy_none_of_neutral
    {event : Event}
    {log : List Event}
    (hNeutral : event.Neutral)
    (hNone : heardBy r log = none) :
    heardBy r (event :: log) = none := by
  cases event with
  | submitted other => exact hNeutral.elim
  | queued other head => exact hNeutral.elim
  | terminated other req => exact hNeutral.elim
  | fired events =>
      unfold heardBy
      rw [hNone]
      rfl
  | _ => exact hNone

theorem heardBy_none_of_terminated
    (other : APTR)
    (req : IOSana2Req)
    {log : List Event}
    (hNone : heardBy r log = none) :
    heardBy r (.terminated other req :: log) = none := by
  unfold heardBy
  rw [hNone, ite_self]

theorem heardBy_terminated_of_ne
    {other : APTR}
    (req : IOSana2Req)
    (log : List Event)
    (hOther : other ≠ r) :
    heardBy r (.terminated other req :: log) =
      heardBy r log :=
  if_neg hOther

theorem heardBy_queued_of_ne
    {head : ListHead}
    (other : APTR)
    (log : List Event)
    (hHead : head ≠ .euEvents) :
    heardBy r (.queued other head :: log) = heardBy r log :=
  if_neg (fun hBoth => hHead hBoth.2)

theorem wireError_termIo (s : Driver) (ios2 r : APTR) :
    ((s.termIo ios2).reqs r).wireError =
      (s.reqs r).wireError := by
  rw [reqs_termIo]
  split
  next hSame => rw [hSame.1]
  next => rfl

theorem log_retire
    (s : Driver)
    (r : APTR)
    (f : IOSana2Req → IOSana2Req) :
    (s.retire r f).log =
      .terminated r (f (s.reqs r)) :: s.log := by
  simp [retire]

theorem unit_retire
    (s : Driver)
    (r : APTR)
    (f : IOSana2Req → IOSana2Req) :
    (s.retire r f).unit = s.unit :=
  unit_of_rest (rest_termIo _ r)

/- A request that is taken out of all lists and ended does not
   concern the others. -/
theorem Minds.retire
    (hMinds : Minds masks s)
    (ios2 : APTR)
    (f : IOSana2Req → IOSana2Req) :
    Minds masks (s.retire ios2 f) where
  events := by
    rw [lists_retire]
    exact hMinds.events.erase ios2
  port := by
    rw [lists_retire]
    exact hMinds.port.erase ios2
  waits := by
    intro r hMem
    rw [lists_retire, lists_remove,
      hMinds.events.mem_erase_iff] at hMem
    have hSpared := spares_retire s f hMem.1
    rw [hSpared.reqs, log_retire,
      heardBy_terminated_of_ne _ _ (Ne.symm hMem.1)]
    exact hMinds.waits r hMem.2
  comes := by
    intro r hMem
    rw [lists_retire, lists_remove,
      hMinds.port.mem_erase_iff] at hMem
    have hComes := hMinds.comes r hMem.2
    rw [(spares_retire s f hMem.1).reqs, log_retire]
    exact ⟨hComes.1, heardBy_none_of_terminated _ _ hComes.2⟩

theorem Minds.fired
    (hMinds : Minds masks s)
    (events : ULONG) :
    Minds masks (s.record (.fired events)) where
  events := hMinds.events
  port := hMinds.port
  waits := by
    intro r hMem
    obtain ⟨hCommand, hMask, hHeard⟩ := hMinds.waits r hMem
    exact ⟨hCommand, hMask, heardBy_of_neutral trivial hHeard⟩
  comes := by
    intro r hMem
    have hComes := hMinds.comes r hMem
    exact ⟨hComes.1, heardBy_none_of_neutral trivial hComes.2⟩

theorem Minds.doEventLoop
    (hMinds : Minds masks s)
    (events : ULONG)
    (rs : List APTR) :
    Minds masks (doEventLoop events rs s) := by
  induction rs generalizing s with
  | nil => exact hMinds
  | cons r rs ih =>
      by_cases hAwaits : (s.reqs r).Awaits events
      · rw [doEventLoop_cons_of_awaits rs hAwaits]
        exact ih (hMinds.retire r _)
      · rw [doEventLoop_cons_of_not_awaits rs hAwaits]
        exact ih hMinds

theorem Minds.doEvent
    (hMinds : Minds masks s)
    (events : ULONG) :
    Minds masks (s.doEvent events) :=
  (hMinds.fired events).doEventLoop events _

/- A request that does not wait is changed. -/
theorem Minds.setReq
    {ios2 : APTR}
    (hMinds : Minds masks s)
    (hFree : ¬ s.Parked ios2)
    (f : IOSana2Req → IOSana2Req) :
    Minds masks (s.setReq ios2 f) where
  events := hMinds.events
  port := hMinds.port
  waits := by
    intro r hMem
    have hOther : r ≠ ios2 := fun hSame =>
      hFree (Or.inl (hSame ▸ hMem))
    rw [reqs_setReq, if_neg hOther]
    exact hMinds.waits r hMem
  comes := by
    intro r hMem
    have hOther : r ≠ ios2 := fun hSame =>
      hFree (Or.inr (hSame ▸ hMem))
    rw [reqs_setReq, if_neg hOther]
    exact hMinds.comes r hMem

theorem Minds.work
    (hMinds : Minds masks s)
    (hWork : Work s s') :
    Minds masks s' := by
  have hEvents := hWork.lists (Or.inl rfl)
  have hPort := hWork.lists (Or.inr rfl)
  cases hWork with
  | aborts r =>
      rw [abortOne_eq_retire]
      exact hMinds.retire r _
  | fires events hKnown => exact hMinds.doEvent events
  | unseen hUnseen =>
      refine ⟨hEvents.nodup hMinds.events,
        hPort.nodup hMinds.port, ?_, ?_⟩
      · intro r hMem
        obtain ⟨hCommand, hMask, hHeard⟩ :=
          hMinds.waits r (hEvents.mem hMem)
        rw [hUnseen.reqs]
        refine ⟨hCommand, hMask, ?_⟩
        rcases hUnseen.log with hSame | ⟨event, hNeutral, hLog⟩
        · rw [hSame]
          exact hHeard
        · rw [hLog]
          exact heardBy_of_neutral hNeutral hHeard
      · intro r hMem
        have hComes := hMinds.comes r (hPort.mem hMem)
        rw [hUnseen.reqs]
        refine ⟨hComes.1, ?_⟩
        rcases hUnseen.log with hSame | ⟨event, hNeutral, hLog⟩
        · rw [hSame]
          exact hComes.2
        · rw [hLog]
          exact heardBy_none_of_neutral hNeutral hComes.2
  | changes f hFree hCommand => exact hMinds.setReq hFree f
  | @ends other hOther =>
      refine ⟨hEvents.nodup hMinds.events,
        hPort.nodup hMinds.port, ?_, ?_⟩
      · intro r hMem
        have hWaits := hMinds.waits r (hEvents.mem hMem)
        have hDiffers : other ≠ r := by
          rintro rfl
          exact hOther hWaits.1
        rw [log_termIo, heardBy_terminated_of_ne _ _ hDiffers,
          reqs_termIo_of_ne _ _ _ hDiffers.symm]
        exact hWaits
      · intro r hMem
        have hComes := hMinds.comes r (hPort.mem hMem)
        rw [wireError_termIo, log_termIo]
        exact ⟨hComes.1,
          heardBy_none_of_terminated _ _ hComes.2⟩
  | queues other head hHead hNotPort =>
      refine ⟨hEvents.nodup hMinds.events,
        hPort.nodup hMinds.port, ?_, ?_⟩
      · intro r hMem
        obtain ⟨hCommand, hMask, heard, hHeard⟩ :=
          hMinds.waits r (hEvents.mem hMem)
        refine ⟨hCommand, hMask, heard, ?_⟩
        rw [← hHeard]
        exact heardBy_queued_of_ne other s.log hHead
      · intro r hMem
        have hComes := hMinds.comes r (hPort.mem hMem)
        refine ⟨hComes.1, ?_⟩
        rw [← hComes.2]
        exact heardBy_queued_of_ne other s.log hHead

theorem Minds.works
    (hMinds : Minds masks s)
    (hWorks : Works s s') :
    Minds masks s' := by
  induction hWorks with
  | refl => exact hMinds
  | tail hBefore hWork ih => exact ih.work hWork

end Keeping

------------------------------------------------------------
-- Reports of Handlers
------------------------------------------------------------

/- From `s` to `s'` nobody is told what is not true. -/
def Sincere
    (masks : APTR → ULONG)
    (online : Bool)
    (s s' : Driver) : Prop :=
  ∃ newer, GrowsBy newer s s' ∧
    ∀ report ∈ reportsOf masks online s.log newer,
      report.Truthful

namespace Sincere

variable {masks : APTR → ULONG} {online : Bool}
variable {s s' s'' : Driver}

theorem of_log
    (hLog : s'.log = s.log) :
    Sincere masks online s s' :=
  ⟨[], hLog, fun _ hMem => absurd hMem List.not_mem_nil⟩

theorem trans
    (hFirst : Sincere masks online s s')
    (hSecond : Sincere masks online s' s'') :
    Sincere masks online s s'' := by
  obtain ⟨newer, hGrows, hTrue⟩ := hFirst
  obtain ⟨newest, hGrows', hTrue'⟩ := hSecond
  refine ⟨newest ++ newer, hGrows.trans hGrows', ?_⟩
  intro report hMem
  have hLog : s'.log = newer ++ s.log := hGrows
  rw [reportsOf_append, ← hLog] at hMem
  rcases List.mem_append.mp hMem with hIn | hIn
  · exact hTrue' report hIn
  · exact hTrue report hIn

/- One event. -/
theorem of_cons
    (event : Event)
    (hLog : s'.log = event :: s.log)
    (hTrue : ∀ report ∈ reportOf masks online s.log event,
      report.Truthful) :
    Sincere masks online s s' := by
  refine ⟨[event], hLog, ?_⟩
  intro report hMem
  rcases List.mem_append.mp hMem with hIn | hIn
  · exact hTrue report hIn
  · exact absurd hIn List.not_mem_nil

theorem of_neutral
    (event : Event)
    (hNeutral : event.Neutral)
    (hLog : s'.log = event :: s.log) :
    Sincere masks online s s' := by
  apply of_cons event hLog
  intro report hMem
  cases event with
  | terminated r req => exact hNeutral.elim
  | _ => exact absurd hMem List.not_mem_nil

/- A request comes back without an answer. -/
theorem of_unanswered
    {r : APTR}
    {req : IOSana2Req}
    (hLog : s'.log = .terminated r req :: s.log)
    (hNone : ¬ req.AnswersEvent) :
    Sincere masks online s s' := by
  apply of_cons _ hLog
  intro report hMem
  have hOf : reportOf masks online s.log
      (.terminated r req) = [] :=
    if_neg hNone
  rw [hOf] at hMem
  exact absurd hMem List.not_mem_nil

theorem of_queued
    {r : APTR}
    {head : ListHead}
    (hLog : s'.log = .queued r head :: s.log) :
    Sincere masks online s s' :=
  of_cons _ hLog (fun _ hMem => absurd hMem List.not_mem_nil)

/- A request comes back with an answer. -/
theorem of_answered
    {r : APTR}
    {req : IOSana2Req}
    (hLog : s'.log = .terminated r req :: s.log)
    (hAnswers : req.AnswersEvent)
    (hTrue : { mask := masks r
               wireError := req.wireError
               heard := heardBy r s.log
               online := online : EventReport }.Truthful) :
    Sincere masks online s s' := by
  apply of_cons _ hLog
  intro report hMem
  have hOf : reportOf masks online s.log
      (.terminated r req) =
      [{ mask := masks r
         wireError := req.wireError
         heard := heardBy r s.log
         online := online }] :=
    if_pos hAnswers
  rw [hOf, List.mem_singleton] at hMem
  rw [hMem]
  exact hTrue

end Sincere

section Telling

variable {masks : APTR → ULONG} {online : Bool}
variable {s s' : Driver} {r : APTR}

/- The answer to one request that waits for the events. -/
theorem sincere_retire
    {events : ULONG}
    {heard : List ULONG}
    (hMinds : Minds masks s)
    (hMem : r ∈ s.lists .euEvents)
    (hHeard : heardBy r s.log = some heard)
    (hIn : events ∈ heard)
    (hAwaits : (s.reqs r).Awaits events)
    (hSuits : WithinMask events (s.reqs r).wireError ∧
      ¬ BothStates events) :
    Sincere masks online s (s.retire r (fun req =>
      { req with wireError := events, ioError := 0 })) := by
  obtain ⟨hCommand, hMask, -⟩ := hMinds.waits r hMem
  apply Sincere.of_answered (log_retire s r _) ⟨hCommand, rfl⟩
  rw [hMask, hHeard]
  exact
    { some := by
        intro hZero
        apply hAwaits
        rw [show events = 0#32 from hZero]
        exact BitVec.and_zero
      asked := hSuits.1
      tells := fun i hBit => ⟨events, hIn, hBit⟩
      once := hSuits.2 }

/- By induction on the requests that are still to be looked
   at; they all have heard of the events. -/
theorem sincere_doEventLoop
    {events : ULONG}
    {rs : List APTR}
    (hMinds : Minds masks s)
    (hNodup : rs.Nodup)
    (hMem : ∀ r ∈ rs, r ∈ s.lists .euEvents ∧
      ∃ heard, heardBy r s.log = some heard ∧ events ∈ heard)
    (hSuits : ∀ r ∈ rs, (s.reqs r).Awaits events →
      WithinMask events (s.reqs r).wireError ∧
        ¬ BothStates events) :
    Sincere masks online s (doEventLoop events rs s) := by
  induction rs generalizing s with
  | nil => exact Sincere.of_log rfl
  | cons r rs ih =>
      rw [List.nodup_cons] at hNodup
      by_cases hAwaits : (s.reqs r).Awaits events
      · rw [doEventLoop_cons_of_awaits rs hAwaits]
        obtain ⟨hWaits, heard, hHeard, hIn⟩ :=
          hMem r List.mem_cons_self
        apply (sincere_retire hMinds hWaits hHeard hIn hAwaits
          (hSuits r List.mem_cons_self hAwaits)).trans
        apply ih (hMinds.retire r _) hNodup.2
        · intro r' hLater
          have hOther : r' ≠ r := fun hSame =>
            hNodup.1 (hSame ▸ hLater)
          obtain ⟨hWaits', hHeard'⟩ :=
            hMem r' (List.mem_cons_of_mem r hLater)
          rw [lists_retire, log_retire,
            heardBy_terminated_of_ne _ _ hOther.symm]
          exact ⟨Linked.mem_remove hOther hWaits', hHeard'⟩
        · intro r' hLater
          have hOther : r' ≠ r := fun hSame =>
            hNodup.1 (hSame ▸ hLater)
          rw [(spares_retire s _ hOther).reqs]
          exact hSuits r' (List.mem_cons_of_mem r hLater)
      · rw [doEventLoop_cons_of_not_awaits rs hAwaits]
        exact ih hMinds hNodup.2
          (fun r' hLater =>
            hMem r' (List.mem_cons_of_mem r hLater))
          (fun r' hLater =>
            hSuits r' (List.mem_cons_of_mem r hLater))

theorem sincere_doEvent
    {events : ULONG}
    (hMinds : Minds masks s)
    (hSuits : ∀ r ∈ s.lists .euEvents,
      (s.reqs r).Awaits events →
        WithinMask events (s.reqs r).wireError ∧
          ¬ BothStates events) :
    Sincere masks online s (s.doEvent events) := by
  have hFired :
      Sincere masks online s (s.record (.fired events)) :=
    Sincere.of_neutral (.fired events) trivial rfl
  apply hFired.trans
  apply sincere_doEventLoop (hMinds.fired events)
    hMinds.events
  · intro r hMem
    obtain ⟨-, -, heard, hHeard⟩ := hMinds.waits r hMem
    refine ⟨hMem, events :: heard, ?_, List.mem_cons_self⟩
    rw [log_record]
    unfold heardBy
    rw [hHeard]
    rfl
  · exact hSuits

theorem sincere_work
    (hMinds : Minds masks s)
    (hWork : Work s s') :
    Sincere masks online s s' := by
  cases hWork with
  | unseen hUnseen =>
      rcases hUnseen.log with hSame | ⟨event, hNeutral, hLog⟩
      · exact Sincere.of_log hSame
      · exact Sincere.of_neutral event hNeutral hLog
  | changes f hFree hCommand => exact Sincere.of_log rfl
  | ends hOther =>
      exact Sincere.of_unanswered (log_termIo s _)
        (fun hAnswers => hOther hAnswers.1)
  | aborts r =>
      rw [abortOne_eq_retire]
      apply Sincere.of_unanswered (log_retire s r _)
      exact fun hAnswers => absurd hAnswers.2
        (show ioerrAborted ≠ 0 from by decide)
  | fires events hKnown =>
      exact sincere_doEvent hMinds
        (fun _ _ hAwaits => suits_of_fired hKnown hAwaits)
  | queues r head hEvents hPort =>
      exact Sincere.of_queued rfl

theorem sincere_works
    (hMinds : Minds masks s)
    (hWorks : Works s s') :
    Sincere masks online s s' := by
  induction hWorks with
  | refl => exact Sincere.of_log rfl
  | tail hBefore hWork ih =>
      exact ih.trans (sincere_work (hMinds.works hBefore) hWork)

end Telling

------------------------------------------------------------
-- Being Told at Once
------------------------------------------------------------

/- The answer to a request whose event holds already. -/
def atOnce (mask : ULONG) : ULONG :=
  mask &&& (s2eventOnline ||| s2eventOffline)

theorem atOnce_online (mask : ULONG) :
    atOnce mask &&& s2eventOnline = mask &&& s2eventOnline := by
  unfold atOnce
  rw [BitVec.and_assoc]
  rfl

theorem atOnce_offline (mask : ULONG) :
    atOnce mask &&& s2eventOffline =
      mask &&& s2eventOffline := by
  unfold atOnce
  rw [BitVec.and_assoc]
  rfl

theorem bothStates_atOnce (mask : ULONG) :
    BothStates (atOnce mask) ↔ BothStates mask := by
  unfold BothStates
  rw [atOnce_online, atOnce_offline]

/- The answer is true unless it names both states. -/
theorem truthful_atOnce
    {mask : ULONG}
    {online : Bool}
    (hHolds : mask &&& s2eventOnline ≠ 0#32 ∧ online = true ∨
      mask &&& s2eventOffline ≠ 0#32 ∧ online = false)
    (hOnce : ¬ BothStates mask) :
    { mask := mask
      wireError := atOnce mask
      heard := none
      online := online : EventReport }.Truthful where
  some := by
    intro hZero
    change atOnce mask = 0#32 at hZero
    rw [← atOnce_online, ← atOnce_offline, hZero] at hHolds
    simp at hHolds
  asked := by
    unfold WithinMask atOnce
    rw [BitVec.and_comm mask, BitVec.and_assoc,
      BitVec.and_not_self]
    exact BitVec.and_zero
  tells := by
    intro i hBit
    change (atOnce mask).getLsbD i = true at hBit
    unfold atOnce at hBit
    rw [BitVec.getLsbD_and, BitVec.getLsbD_or,
      Bool.and_eq_true, Bool.or_eq_true] at hBit
    obtain ⟨hAsked, hOn | hOff⟩ := hBit
    · have hOnline := and_ne_zero_of_bit hAsked hOn
      left
      rcases hHolds with hThis | hOther
      · exact ⟨hOn, hThis.2⟩
      · exact absurd ⟨hOnline, hOther.1⟩ hOnce
    · have hOffline := and_ne_zero_of_bit hAsked hOff
      right
      rcases hHolds with hOther | hThis
      · exact absurd ⟨hOther.1, hOffline⟩ hOnce
      · exact ⟨hOff, hThis.2⟩
  once := fun hBoth => hOnce ((bothStates_atOnce mask).mp hBoth)

section Serving

variable {masks : APTR → ULONG} {s s' : Driver} {r : APTR}
variable {o : Outcome}

/- What `PerformIO` does with a request for events. -/
theorem performIo_s2OnEvent
    (hCommand : (s.reqs r).ioCommand = s2OnEvent) :
    performIo o r s =
      devCmdOnEvent r (s.setReq r (fun req =>
        { req with ioError := 0 })) := by
  unfold performIo
  rw [hCommand]
  rfl

theorem remove_of_free
    (hFree : s.Free r) :
    s.remove r = s := by
  have hLists : (fun head => (s.lists head).erase r) =
      s.lists :=
    funext (fun head => List.erase_of_not_mem (hFree head))
  unfold remove
  rw [hLists]

theorem setReq_setReq
    (f g : IOSana2Req → IOSana2Req) :
    (s.setReq r f).setReq r g =
      s.setReq r (fun req => g (f req)) := by
  unfold setReq
  simp

/- The request for events that is answered at once. -/
theorem onEvent_of_holds
    (hFree : s.Free r)
    (hCommand : (s.reqs r).ioCommand = s2OnEvent)
    (hHolds : AlreadyHolds (s.reqs r).wireError s) :
    performIo o r s =
      s.retire r (fun req =>
        { req with
          ioError := 0
          wireError := atOnce req.wireError }) := by
  have hReset : AlreadyHolds ((s.setReq r (fun req =>
      { req with ioError := 0 })).reqs r).wireError
      (s.setReq r (fun req => { req with ioError := 0 })) := by
    rw [reqs_setReq, if_pos rfl]
    exact hHolds
  have hUnlinked (f : IOSana2Req → IOSana2Req) :
      (s.setReq r f).remove r = s.setReq r f :=
    remove_of_free hFree
  rw [performIo_s2OnEvent hCommand]
  unfold devCmdOnEvent retire
  rw [if_pos hReset, setReq_setReq, hUnlinked]
  rfl

theorem onEvent_of_not_holds
    (hCommand : (s.reqs r).ioCommand = s2OnEvent)
    (hNot : ¬ AlreadyHolds (s.reqs r).wireError s) :
    performIo o r s =
      (s.setReq r (fun req =>
        { req with ioError := 0 })).addTail .euEvents r := by
  have hReset : ¬ AlreadyHolds ((s.setReq r (fun req =>
      { req with ioError := 0 })).reqs r).wireError
      (s.setReq r (fun req => { req with ioError := 0 })) := by
    rw [reqs_setReq, if_pos rfl]
    exact hNot
  rw [performIo_s2OnEvent hCommand]
  exact if_neg hReset

/- It begins to wait. -/
theorem Minds.onEvent_of_not_holds
    (hMinds : Minds masks s)
    (hFree : s.Free r)
    (hMask : masks r = (s.reqs r).wireError)
    (hCommand : (s.reqs r).ioCommand = s2OnEvent) :
    Minds masks ((s.setReq r (fun req =>
      { req with ioError := 0 })).addTail .euEvents r) where
  events := by
    rw [lists_addTail, if_pos rfl, lists_setReq]
    refine List.nodup_append.mpr
      ⟨hMinds.events, List.nodup_singleton r, ?_⟩
    rintro r' hOld r'' hNew rfl
    exact hFree .euEvents (List.mem_singleton.mp hNew ▸ hOld)
  port := by
    rw [lists_addTail, if_neg (by decide)]
    exact hMinds.port
  waits := by
    intro r' hMem
    rw [lists_addTail, if_pos rfl, lists_setReq] at hMem
    rw [reqs_addTail, reqs_setReq]
    by_cases hSame : r' = r
    · rw [if_pos hSame, hSame]
      exact ⟨hCommand, hMask, [], if_pos ⟨rfl, rfl⟩⟩
    · have hOld := (List.mem_append.mp hMem).resolve_right
        (fun hNew => hSame (List.mem_singleton.mp hNew))
      obtain ⟨hCommand', hMask', heard, hHeard⟩ :=
        hMinds.waits r' hOld
      rw [if_neg hSame]
      refine ⟨hCommand', hMask', heard, ?_⟩
      rw [← hHeard]
      exact if_neg (fun hBoth => hSame hBoth.1.symm)
  comes := by
    intro r' hMem
    rw [lists_addTail, if_neg (by decide)] at hMem
    have hOther : r' ≠ r := fun hSame =>
      hFree .unitMsgPort (hSame ▸ hMem)
    have hComes := hMinds.comes r' hMem
    rw [reqs_addTail, reqs_setReq, if_neg hOther]
    refine ⟨hComes.1, ?_⟩
    rw [← hComes.2]
    exact if_neg (fun hBoth => hOther hBoth.1.symm)

end Serving

------------------------------------------------------------
-- Steps
------------------------------------------------------------

/- The masks that requests were submitted with. -/
def noteMask (masks : APTR → ULONG) (s : Driver) :
    Op → APTR → ULONG
| .beginIo ios2 _ =>
    Function.update masks ios2 (s.reqs ios2).wireError
| _ => masks

/- What clients are told in a step. -/
def stepReports
    (masks : APTR → ULONG) (s : Driver) (op : Op) :
    List EventReport :=
  reportsOf (noteMask masks s op) (decide (s.next op).Online)
    s.log (s.since (s.next op))

/- Runs of the device, with the masks beside it. -/
def eventRuns : Machine (Driver × (APTR → ULONG)) Op :=
  deviceMachine.recording (fun _ => 0#32)
    (fun masks s op _ => noteMask masks s op)

/- Nobody is told what is not true. -/
def TellsTruth (p : Driver × (APTR → ULONG)) (op : Op) :
    Prop :=
  ∀ report ∈ stepReports p.2 p.1 op, report.Truthful

/-
  The request that is served does not ask for both states of
  the unit, and the event of a step of its own is one that
  each request it ends has asked for.
-/
def AsksOneState (p : Driver × (APTR → ULONG)) : Op → Prop
| .serviceMsgPort _ =>
    ∀ r ∈ (p.1.lists .unitMsgPort).head?,
      (p.1.reqs r).ioCommand = s2OnEvent →
        ¬ BothStates (p.1.reqs r).wireError
| .doEvent events =>
    ∀ r ∈ p.1.lists .euEvents, (p.1.reqs r).Awaits events →
      WithinMask events (p.1.reqs r).wireError ∧
        ¬ BothStates events
| _ => True

section Stepping

variable {masks : APTR → ULONG} {s : Driver} {op : Op}
variable {r : APTR}

/- The steps that are work from beginning to end. -/
theorem Driver.Waits.works_next
    (hWaits : s.Waits)
    (hAllowed : op.Allowed s)
    (hBegin : ∀ ios2 o, op ≠ .beginIo ios2 o)
    (hServe : ∀ o, op ≠ .serviceMsgPort o)
    (hEvent : ∀ events, op ≠ .doEvent events)
    (hWrite : ∀ ios2 req, op ≠ .clientWrite ios2 req) :
    Works s (s.next op) := by
  have hFree : ∀ {ios2}, s.Owned ios2 → ¬ s.Parked ios2 := by
    rintro ios2 hOwned (hMem | hMem)
    · exact (hWaits.holding hOwned).free _ hMem
    · exact (hWaits.holding hOwned).free _ hMem
  cases op with
  | openDevice ios2 s2unit s2flags env =>
      exact works_deviceOpen (hFree hAllowed.2.1) s2unit s2flags
        env
  | close ios2 =>
      exact works_deviceClose (hFree hAllowed.2.1)
  | expunge => exact works_deviceExpunge Works.refl
  | beginIo ios2 o => exact absurd rfl (hBegin ios2 o)
  | abortIo ios2 => exact works_deviceAbortIo ios2
  | serviceMsgPort o => exact absurd rfl (hServe o)
  | pktReceived buffer size o =>
      exact works_onPktReceived o buffer size hWaits.orderly
  | doEvent events => exact absurd rfl (hEvent events)
  | configChanged addr => exact Works.refl.same rfl rfl rfl
  | clientWrite ios2 req => exact absurd rfl (hWrite ios2 req)
  | hardware regs => exact Works.refl.same rfl rfl rfl

/- A request is submitted. -/
theorem Minds.submitted
    {ios2 : APTR}
    (hMinds : Minds masks s)
    (hFree : s.Free ios2) :
    Minds (Function.update masks ios2 (s.reqs ios2).wireError)
      (s.record (.submitted ios2)) where
  events := hMinds.events
  port := hMinds.port
  waits := by
    intro r hMem
    have hOther : r ≠ ios2 := fun hSame =>
      hFree .euEvents (hSame ▸ hMem)
    obtain ⟨hCommand, hMask, heard, hHeard⟩ :=
      hMinds.waits r hMem
    rw [Function.update_of_ne hOther]
    refine ⟨hCommand, hMask, heard, ?_⟩
    rw [← hHeard]
    exact if_neg hOther.symm
  comes := by
    intro r hMem
    have hOther : r ≠ ios2 := fun hSame =>
      hFree .unitMsgPort (hSame ▸ hMem)
    have hComes := hMinds.comes r hMem
    rw [Function.update_of_ne hOther]
    refine ⟨hComes.1, ?_⟩
    rw [← hComes.2]
    exact if_neg hOther.symm

/- It is left to the process of the unit. -/
theorem Minds.toPort
    {ios2 : APTR}
    {f : IOSana2Req → IOSana2Req}
    (hMinds : Minds masks s)
    (hFree : s.Free ios2)
    (hMask : masks ios2 = (s.reqs ios2).wireError)
    (hKept : (f (s.reqs ios2)).wireError =
      (s.reqs ios2).wireError)
    (hNone : heardBy ios2 s.log = none) :
    Minds masks ((s.setReq ios2 f).putMsg .unitMsgPort ios2)
    where
  events := by
    unfold putMsg
    rw [lists_addTail, if_neg (by decide)]
    exact hMinds.events
  port := by
    unfold putMsg
    rw [lists_addTail, if_pos rfl]
    refine List.nodup_append.mpr
      ⟨hMinds.port, List.nodup_singleton ios2, ?_⟩
    rintro r hOld r' hNew rfl
    exact hFree .unitMsgPort (List.mem_singleton.mp hNew ▸ hOld)
  waits := by
    intro r hMem
    unfold putMsg at hMem ⊢
    rw [lists_addTail, if_neg (by decide)] at hMem
    have hOther : r ≠ ios2 := fun hSame =>
      hFree .euEvents (hSame ▸ hMem)
    obtain ⟨hCommand, hMask', heard, hHeard⟩ :=
      hMinds.waits r hMem
    rw [reqs_addTail, reqs_setReq, if_neg hOther, reqs_setReq,
      if_neg hOther]
    refine ⟨hCommand, hMask', heard, ?_⟩
    rw [← hHeard]
    exact heardBy_queued_of_ne ios2 s.log (by decide)
  comes := by
    intro r hMem
    have hLog : heardBy r (((s.setReq ios2 f).putMsg
        .unitMsgPort ios2).log) = heardBy r s.log :=
      heardBy_queued_of_ne ios2 s.log (by decide)
    rw [hLog]
    unfold putMsg at hMem ⊢
    rw [lists_addTail, if_pos rfl] at hMem
    by_cases hSame : r = ios2
    · rw [hSame, reqs_addTail, reqs_setReq, if_pos rfl,
        reqs_setReq, if_pos rfl]
      exact ⟨hMask.trans hKept.symm, hNone⟩
    · have hOld := (List.mem_append.mp hMem).resolve_right
        (fun hNew => hSame (List.mem_singleton.mp hNew))
      rw [reqs_addTail, reqs_setReq, if_neg hSame, reqs_setReq,
        if_neg hSame]
      exact hMinds.comes r hOld

/- A step that `BeginIO` makes. -/
theorem minds_deviceBeginIo
    {ios2 : APTR}
    (hWaits : s.Waits)
    (hMinds : Minds masks s)
    (hOwned : s.Owned ios2)
    (o : Outcome)
    (online : Bool) :
    Minds (Function.update masks ios2 (s.reqs ios2).wireError)
        (deviceBeginIo o ios2 s) ∧
      Sincere (Function.update masks ios2
        (s.reqs ios2).wireError) online s
          (deviceBeginIo o ios2 s) := by
  have hFree := (hWaits.holding hOwned).free
  have hTaken := hMinds.submitted hFree
  have hFirst : Sincere (Function.update masks ios2
      (s.reqs ios2).wireError) online s
        (s.record (.submitted ios2)) :=
    Sincere.of_cons _ rfl
      (fun _ hMem => absurd hMem List.not_mem_nil)
  unfold deviceBeginIo
  dsimp only
  split
  next hNow =>
    have hHand : (s.record (.submitted ios2)).Workable ios2 :=
      { free := fun hParked =>
          hParked.elim (hFree _) (hFree _)
        command := by
          intro hEvent
          rw [hEvent] at hNow
          exact absurd hNow (by decide) }
    have hSendable :=
      (hWaits.orderly.thins (thins_submitted ios2)).sendable
    have hWorks := works_performIo (o := o) Works.refl hHand
      rfl hSendable
    exact ⟨hTaken.works hWorks,
      hFirst.trans (sincere_works hTaken hWorks)⟩
  next hLater =>
    refine ⟨?_, hFirst.trans (Sincere.of_queued rfl)⟩
    exact hTaken.toPort hFree (Function.update_self _ _ _) rfl
      (if_pos rfl)

/- The request at the head of the port is served. -/
theorem minds_performIo
    (hWaits : s.Waits)
    (hMinds : Minds masks s)
    (hMem : r ∈ s.lists .unitMsgPort)
    (o : Outcome) :
    Minds masks (performIo o r (s.remove r)) ∧
      ∀ online,
        (online = true ↔
          (performIo o r (s.remove r)).Online) →
        ((s.reqs r).ioCommand = s2OnEvent →
          ¬ BothStates (s.reqs r).wireError) →
        Sincere masks online s
          (performIo o r (s.remove r)) := by
  obtain ⟨hMask, hNone⟩ := hMinds.comes r hMem
  have hHold := hWaits.orderly.remove r
  have hRemoved : Works s (s.remove r) := Works.refl.remove r
  have hTaken := hMinds.works hRemoved
  by_cases hCommand : (s.reqs r).ioCommand = s2OnEvent
  · by_cases hHolds :
        AlreadyHolds (s.reqs r).wireError (s.remove r)
    · rw [onEvent_of_holds hHold.free hCommand hHolds]
      refine ⟨hTaken.retire r _, ?_⟩
      intro online hOnline hOnce
      have hState : online = true ↔ s.Online := by
        rw [hOnline, Online, Online, unit_retire]
        rfl
      have hLog := log_retire (s.remove r) r (fun req =>
        { req with
          ioError := 0
          wireError := atOnce req.wireError })
      have hAtOnce :
          { mask := masks r
            wireError := atOnce (s.reqs r).wireError
            heard := heardBy r s.log
            online := online : EventReport }.Truthful := by
        rw [hMask, hNone]
        apply truthful_atOnce _ (hOnce hCommand)
        rcases hHolds with ⟨hAsked, hOn⟩ | ⟨hAsked, hOff⟩
        · exact Or.inl ⟨hAsked, hState.mpr hOn⟩
        · refine Or.inr ⟨hAsked, ?_⟩
          exact Bool.eq_false_iff.mpr
            (fun hTrue => hOff (hState.mp hTrue))
      exact Sincere.of_answered hLog ⟨hCommand, rfl⟩ hAtOnce
    · rw [onEvent_of_not_holds (s := s.remove r) hCommand
        hHolds]
      exact ⟨hTaken.onEvent_of_not_holds hHold.free hMask
          hCommand,
        fun _ _ _ => Sincere.of_queued rfl⟩
  · have hHand : (s.remove r).Workable r :=
      { free := fun hParked =>
          hParked.elim (hHold.free _) (hHold.free _)
        command := hCommand }
    have hWorks := works_performIo (o := o) Works.refl hHand
      rfl hHold.toOrderly.sendable
    exact ⟨hTaken.works hWorks,
      fun _ _ _ => sincere_works hMinds (hRemoved.trans hWorks)⟩

/- Masks are minded in every step. -/
theorem Minds.next
    (hWaits : s.Waits)
    (hMinds : Minds masks s)
    (hAllowed : op.Allowed s) :
    Minds (noteMask masks s op) (s.next op) := by
  cases op with
  | beginIo ios2 o =>
      exact (minds_deviceBeginIo hWaits hMinds hAllowed.2 o
        true).1
  | serviceMsgPort o =>
      show Minds masks (serviceMsgPort o s)
      unfold serviceMsgPort
      split
      · exact hMinds
      · rename_i r others hPort
        exact (minds_performIo hWaits hMinds
          (hPort ▸ List.mem_cons_self) o).1
  | doEvent events => exact hMinds.doEvent events
  | clientWrite ios2 req =>
      have hFree := (hWaits.holding hAllowed).free
      exact hMinds.setReq
        (fun hParked => hParked.elim (hFree _) (hFree _))
        (fun _ => req)
  | _ =>
      exact hMinds.works (hWaits.works_next hAllowed (by simp)
        (by simp) (by simp) (by simp))

/- A step that asks for one state tells the truth. -/
theorem sincere_next
    (hWaits : s.Waits)
    (hMinds : Minds masks s)
    (hAllowed : op.Allowed s)
    (hAsks : AsksOneState (s, masks) op) :
    Sincere (noteMask masks s op)
      (decide (s.next op).Online) s (s.next op) := by
  cases op with
  | beginIo ios2 o =>
      exact (minds_deviceBeginIo hWaits hMinds hAllowed.2 o
        _).2
  | serviceMsgPort o =>
      cases hPort : s.lists .unitMsgPort with
      | nil =>
          apply Sincere.of_log
          show (serviceMsgPort o s).log = s.log
          unfold serviceMsgPort
          rw [hPort]
      | cons r others =>
          have hNext : s.next (.serviceMsgPort o) =
              performIo o r (s.remove r) := by
            show serviceMsgPort o s = _
            unfold serviceMsgPort
            rw [hPort]
          have hOnce := hAsks r (by rw [hPort]; rfl)
          have hServed := (minds_performIo hWaits hMinds
            (hPort ▸ List.mem_cons_self) o).2
          rw [← hNext] at hServed
          exact hServed _ decide_eq_true_iff hOnce
  | doEvent events => exact sincere_doEvent hMinds hAsks
  | clientWrite ios2 req => exact Sincere.of_log rfl
  | _ =>
      exact sincere_works hMinds (hWaits.works_next hAllowed
        (by simp) (by simp) (by simp) (by simp))

theorem tellsTruth_of_sincere
    (hSincere : Sincere (noteMask masks s op)
      (decide (s.next op).Online) s (s.next op)) :
    TellsTruth (s, masks) op := by
  obtain ⟨newer, hGrows, hTrue⟩ := hSincere
  intro report hMem
  unfold stepReports at hMem
  rw [since_of_append hGrows] at hMem
  exact hTrue report hMem

/- What is known of an answer that tells the truth. -/
theorem answer_of_tellsTruth
    {newer : List Event}
    {req : IOSana2Req}
    (hTruth : TellsTruth (s, masks) op)
    (hLog : (s.next op).log = newer ++ s.log)
    (hMem : Event.terminated r req ∈ newer)
    (hAnswers : req.AnswersEvent) :
    WithinMask req.wireError (noteMask masks s op r) ∧
      ¬ BothStates req.wireError := by
  obtain ⟨report, hReport, hMask, hWire⟩ :=
    exists_report (noteMask masks s op)
      (decide (s.next op).Online) s.log hMem hAnswers
  have hTrue : report.Truthful := by
    apply hTruth
    unfold stepReports
    rw [since_of_append hLog]
    exact hReport
  rw [← hMask, ← hWire]
  exact ⟨hTrue.asked, hTrue.once⟩

theorem terminations_append
    (newer older : List Event) :
    terminations r (newer ++ older) =
      terminations r newer ++ terminations r older := by
  induction newer with
  | nil => rfl
  | cons event newer ih =>
      cases event with
      | terminated other req =>
          rw [List.cons_append, terminations_terminated,
            terminations_terminated, ih]
          split <;> rfl
      | _ => exact ih

theorem terminated_mem_of_terminations
    {req : IOSana2Req}
    {log : List Event}
    (hMem : req ∈ terminations r log) :
    Event.terminated r req ∈ log := by
  induction log with
  | nil => exact absurd hMem List.not_mem_nil
  | cons event log ih =>
      cases event with
      | terminated other req' =>
          rw [terminations_terminated] at hMem
          split at hMem
          next hSame =>
            rcases List.mem_cons.mp hMem with hHead | hTail
            · rw [hSame, hHead]
              exact List.mem_cons_self
            · exact List.mem_cons_of_mem _ (ih hTail)
          next => exact List.mem_cons_of_mem _ (ih hMem)
      | _ => exact List.mem_cons_of_mem _ (ih hMem)

/- Conversely, an answer to a request for both states names
   both, and events that are fired are reported as a whole. -/
theorem asksOneState_of_tellsTruth
    (hWaits : s.Waits)
    (hMinds : Minds masks s)
    (hTruth : TellsTruth (s, masks) op) :
    AsksOneState (s, masks) op := by
  cases op with
  | serviceMsgPort o =>
      intro r hHead hCommand hBoth
      obtain ⟨others, hPort⟩ := List.head?_eq_some_iff.mp hHead
      have hHold := hWaits.orderly.remove r
      have hHolds :
          AlreadyHolds (s.reqs r).wireError (s.remove r) := by
        by_cases hOnline : (s.remove r).Online
        · exact Or.inl ⟨hBoth.1, hOnline⟩
        · exact Or.inr ⟨hBoth.2, hOnline⟩
      have hNext : s.next (.serviceMsgPort o) =
          (s.remove r).retire r (fun req =>
            { req with
              ioError := 0
              wireError := atOnce req.wireError }) := by
        rw [← onEvent_of_holds (o := o) hHold.free hCommand
          hHolds]
        show serviceMsgPort o s = _
        unfold serviceMsgPort
        rw [hPort]
      have hLog := log_retire (s.remove r) r (fun req =>
        { req with
          ioError := 0
          wireError := atOnce req.wireError })
      rw [← hNext] at hLog
      have hAnswer := answer_of_tellsTruth hTruth
        (show _ = [Event.terminated r _] ++ s.log from hLog)
        (List.mem_singleton_self _) ⟨hCommand, rfl⟩
      exact hAnswer.2 ((bothStates_atOnce _).mpr hBoth)
  | doEvent events =>
      intro r hMem hAwaits
      obtain ⟨hCommand, hMask, -⟩ := hMinds.waits r hMem
      obtain ⟨newer, hGrows, -⟩ := grows_doEvent events s
      have hEnded := (firesExactly_doEvent events
        hWaits.orderly.toLinked).ended r ⟨hMem, hAwaits⟩
      have hLog : (s.doEvent events).log = newer ++ s.log :=
        hGrows
      rw [hLog, terminations_append, ← List.singleton_append]
        at hEnded
      have hOnce := List.append_cancel_right hEnded
      have hIn : Event.terminated r { s.reqs r with
          wireError := events, ioError := 0 } ∈ newer := by
        apply terminated_mem_of_terminations
        rw [hOnce]
        exact List.mem_singleton_self _
      rw [← hMask]
      exact answer_of_tellsTruth hTruth hLog hIn
        ⟨hCommand, rfl⟩
  | _ => trivial

end Stepping

------------------------------------------------------------
-- Whole Runs
------------------------------------------------------------

theorem runs_tellsTruth_iff
    (ops : List Op)
    {p : Driver × (APTR → ULONG)}
    (hBoth : p.1.Waits ∧ Minds p.2 p.1) :
    eventRuns.Runs TellsTruth ops p ↔
      eventRuns.Runs AsksOneState ops p := by
  apply Machine.runs_congr
    (I := fun p => p.1.Waits ∧ Minds p.2 p.1) _ _ ops hBoth
  · rintro ⟨s, masks⟩ op ⟨hWaits, hMinds⟩ hAllowed
    exact ⟨asksOneState_of_tellsTruth hWaits hMinds,
      fun hAsks => tellsTruth_of_sincere
        (sincere_next hWaits hMinds hAllowed hAsks)⟩
  · rintro ⟨s, masks⟩ op ⟨hWaits, hMinds⟩ hAllowed -
    exact ⟨hWaits.next_waits hAllowed,
      hMinds.next hWaits hAllowed⟩

theorem start_minds
    {p : Driver × (APTR → ULONG)}
    (hStart : eventRuns.Start p) :
    p.1.Waits ∧ Minds p.2 p.1 := by
  have hNil := hStart.1.2.1
  refine ⟨hStart.1.waits, ?_, ?_, ?_, ?_⟩
  · rw [hNil]
    exact List.nodup_nil
  · rw [hNil]
    exact List.nodup_nil
  · intro r hMem
    rw [hNil] at hMem
    exact absurd hMem List.not_mem_nil
  · intro r hMem
    rw [hNil] at hMem
    exact absurd hMem List.not_mem_nil

/- In a run all clients are told the truth about events if and
   only if none that is served asks for both states of the
   unit, and no step fires what its waiters have not asked
   for. -/
theorem truthfulRun_iff
    {p : Driver × (APTR → ULONG)}
    (hStart : eventRuns.Start p)
    (ops : List Op) :
    eventRuns.Runs TellsTruth ops p ↔
      eventRuns.Runs AsksOneState ops p :=
  runs_tellsTruth_iff ops (start_minds hStart)

instance (p : Driver × (APTR → ULONG)) :
    (op : Op) → Decidable (AsksOneState p op)
| .serviceMsgPort o => by
    unfold AsksOneState
    infer_instance
| .doEvent events => by
    unfold AsksOneState
    infer_instance
| .openDevice _ _ _ _ | .close _ | .expunge | .beginIo _ _
| .abortIo _ | .pktReceived _ _ _ | .configChanged _
| .clientWrite _ _ | .hardware _ =>
    isTrue trivial

instance decidableEventRuns
    (C : Driver × (APTR → ULONG) → Op → Prop)
    [hGuard : ∀ p op, Decidable (C p op)]
    (ops : List Op)
    (p : Driver × (APTR → ULONG)) :
    Decidable (eventRuns.Runs C ops p) :=
  Machine.decidableRuns eventRuns C
    (fun p op => inferInstanceAs (Decidable (op.Allowed p.1)))
    hGuard ops p

instance decidableEventFree
    (p : Driver × (APTR → ULONG)) (op : Op) :
    Decidable (Machine.Free p op) :=
  isTrue trivial

/- A freshly loaded device, with no mask noted. -/
def eventStart : Driver × (APTR → ULONG) :=
  (loadedDriver (idleRegisters 0x1800#16), fun _ => 0#32)

theorem start_eventStart : eventRuns.Start eventStart :=
  ⟨start_loadedDriver _, rfl⟩

/- A client asks for events before the unit goes online. -/
def onEventSteps (mask : ULONG) : List Op :=
  .openDevice 7 0#32 0#32 (plainOpen 40) ::
    submitSteps 9
      { plainRequest s2OnEvent with wireError := mask } ++
    [.serviceMsgPort plainOutcome] ++
    submitSteps 8 (plainRequest s2ConfigInterface) ++
    [.serviceMsgPort plainOutcome]

/- It waits for the unit to go online, or for an error. -/
theorem truthfulRun_iff_waiting :
    eventRuns.Runs TellsTruth
      (onEventSteps (s2eventOnline ||| s2eventTx))
      eventStart :=
  (truthfulRun_iff start_eventStart _).mpr (by decide +kernel)

/- It asks for both states at once. -/
theorem not_truthfulRun_bothStates :
    eventRuns.Start eventStart ∧
      eventRuns.Runs Machine.Free
        (onEventSteps (s2eventOnline ||| s2eventOffline))
        eventStart ∧
      ¬ eventRuns.Runs TellsTruth
        (onEventSteps (s2eventOnline ||| s2eventOffline))
        eventStart := by
  refine ⟨start_eventStart, by decide +kernel, ?_⟩
  rw [runs_tellsTruth_iff _ (start_minds start_eventStart)]
  decide +kernel

end KszDriver
