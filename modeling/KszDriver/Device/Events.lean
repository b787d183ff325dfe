import KszDriver.Device.Lists

/-
  What `DoEvent` does to the requests that wait for events:
  it ends those whose mask shares a bit with the events, once
  each, and leaves the others in their order.

  Main declarations:
    * `IOSana2Req.Awaits`
    * `FiresExactly`
    * `firesExactly_doEvent`
-/

------------------------------------------------------------
-- Requests That Wait for Events
------------------------------------------------------------

namespace KszDriver

/- The request waits for one of the events. -/
def IOSana2Req.Awaits
    (req : IOSana2Req) (events : ULONG) : Prop :=
  req.wireError &&& events ≠ 0#32

instance (req : IOSana2Req) (events : ULONG) :
    Decidable (req.Awaits events) := by
  unfold IOSana2Req.Awaits
  infer_instance

namespace Driver

/- The request is queued for one of the events. -/
def WaitsFor (s : Driver) (events : ULONG) (r : APTR) :
    Prop :=
  r ∈ s.lists .euEvents ∧ (s.reqs r).Awaits events

instance (s : Driver) (events : ULONG) (r : APTR) :
    Decidable (s.WaitsFor events r) := by
  unfold WaitsFor
  infer_instance

/-
  From `s` to `s'` the events have ended the requests that
  wait for them, and nothing else has happened to any list or
  request.
-/
structure FiresExactly
    (events : ULONG) (s s' : Driver) : Prop where
  ended : ∀ r, s.WaitsFor events r →
    terminations r s'.log =
      { s.reqs r with wireError := events, ioError := 0 } ::
        terminations r s.log
  spared : ∀ r, ¬ s.WaitsFor events r → Spares r s s'
  lists : ∀ head, s'.lists head =
    (s.lists head).filter
      (fun r => decide (¬ s.WaitsFor events r))

------------------------------------------------------------
-- One Turn of the Loop
------------------------------------------------------------

/- A request is marked, unlinked and terminated. -/
def retire
    (s : Driver)
    (ios2 : APTR)
    (f : IOSana2Req → IOSana2Req) : Driver :=
  ((s.setReq ios2 f).remove ios2).termIo ios2

variable (s : Driver) {ios2 other : APTR}
variable (f : IOSana2Req → IOSana2Req)

@[simp] theorem lists_retire :
    (s.retire ios2 f).lists = (s.remove ios2).lists :=
  lists_termIo _ ios2

theorem terminations_retire :
    terminations ios2 (s.retire ios2 f).log =
      f (s.reqs ios2) :: terminations ios2 s.log := by
  simp [retire]

theorem spares_retire (hOther : other ≠ ios2) :
    Spares other s (s.retire ios2 f) :=
  ((spares_setReq s hOther f).trans (spares_remove _)).trans
    (spares_termIo _ hOther)

/- The turn for a request that waits for the events. -/
theorem doEventLoop_cons_of_awaits
    {s : Driver}
    {events : ULONG}
    (rs : List APTR)
    (hAwaits : (s.reqs ios2).Awaits events) :
    doEventLoop events (ios2 :: rs) s =
      doEventLoop events rs
        (s.retire ios2 (fun req =>
          { req with wireError := events, ioError := 0 })) :=
  if_pos hAwaits

theorem doEventLoop_cons_of_not_awaits
    {s : Driver}
    {events : ULONG}
    (rs : List APTR)
    (hIgnored : ¬ (s.reqs ios2).Awaits events) :
    doEventLoop events (ios2 :: rs) s =
      doEventLoop events rs s :=
  if_neg hIgnored

/- The abort of a request is such a turn as well. -/
theorem abortOne_eq_retire (ios2 : APTR) :
    s.abortOne ios2 =
      s.retire ios2 (fun req =>
        { req with ioError := ioerrAborted }) := rfl

------------------------------------------------------------
-- The Loop
------------------------------------------------------------

/- The loop spares whoever does not wait for the events. -/
theorem spares_doEventLoop_of_not_awaits
    (events : ULONG)
    (rs : List APTR)
    (hIgnored : ¬ (s.reqs other).Awaits events) :
    Spares other s (doEventLoop events rs s) := by
  induction rs generalizing s with
  | nil => exact Spares.refl
  | cons ios2 rs ih =>
      by_cases hAwaits : (s.reqs ios2).Awaits events
      · have hOther : other ≠ ios2 := by
          intro hSame
          exact hIgnored (hSame ▸ hAwaits)
        rw [doEventLoop_cons_of_awaits rs hAwaits]
        have hTurn := spares_retire s
          (fun req =>
            { req with wireError := events, ioError := 0 })
          hOther
        apply hTurn.trans
        apply ih
        rw [hTurn.reqs]
        exact hIgnored
      · rw [doEventLoop_cons_of_not_awaits rs hAwaits]
        exact ih s hIgnored

/- The loop ends whoever waits for the events, once. -/
theorem terminations_doEventLoop
    {s : Driver}
    {events : ULONG}
    {rs : List APTR}
    (hNodup : rs.Nodup)
    (hMem : ios2 ∈ rs)
    (hAwaits : (s.reqs ios2).Awaits events) :
    terminations ios2 (doEventLoop events rs s).log =
      { s.reqs ios2 with
        wireError := events
        ioError := 0 } :: terminations ios2 s.log := by
  induction rs generalizing s with
  | nil => exact absurd hMem List.not_mem_nil
  | cons first rs ih =>
      rw [List.nodup_cons] at hNodup
      rw [List.mem_cons] at hMem
      by_cases hSame : ios2 = first
      · subst hSame
        rw [doEventLoop_cons_of_awaits rs hAwaits,
          (spares_doEventLoop _ events hNodup.1).terminations]
        exact terminations_retire s _
      · have hLater := hMem.resolve_left hSame
        by_cases hTurn : (s.reqs first).Awaits events
        · rw [doEventLoop_cons_of_awaits rs hTurn]
          have hSpared := spares_retire s
            (fun req =>
              { req with wireError := events, ioError := 0 })
            hSame
          rw [ih hNodup.2 hLater (by
              rw [hSpared.reqs]
              exact hAwaits),
            hSpared.reqs, hSpared.terminations]
        · rw [doEventLoop_cons_of_not_awaits rs hTurn]
          exact ih hNodup.2 hLater hAwaits

/- What the loop leaves of a list. -/
theorem lists_doEventLoop
    {s : Driver}
    (events : ULONG)
    {rs : List APTR}
    (head : ListHead)
    (hLinked : s.Linked)
    (hNodup : rs.Nodup) :
    (doEventLoop events rs s).lists head =
      (s.lists head).filter (fun r =>
        decide (¬ (r ∈ rs ∧ (s.reqs r).Awaits events))) := by
  induction rs generalizing s with
  | nil => simp [doEventLoop]
  | cons ios2 rs ih =>
      rw [List.nodup_cons] at hNodup
      by_cases hAwaits : (s.reqs ios2).Awaits events
      · rw [doEventLoop_cons_of_awaits rs hAwaits,
          ih (hLinked.remove.congr (lists_retire s _))
            hNodup.2,
          lists_retire, lists_remove,
          (hLinked.once head).erase_eq_filter,
          List.filter_filter]
        apply List.filter_congr
        intro r _
        by_cases hSame : r = ios2
        · simp [hSame, hAwaits]
        · rw [(spares_retire s _ hSame).reqs]
          simp [hSame]
      · rw [doEventLoop_cons_of_not_awaits rs hAwaits,
          ih hLinked hNodup.2]
        apply List.filter_congr
        intro r _
        by_cases hSame : r = ios2
        · simp [hSame, hAwaits]
        · simp [hSame]

------------------------------------------------------------
-- Events
------------------------------------------------------------

theorem firesExactly_doEvent
    {s : Driver}
    (events : ULONG)
    (hLinked : s.Linked) :
    FiresExactly events s (s.doEvent events) where
  ended := by
    intro r hWaits
    exact terminations_doEventLoop (hLinked.once .euEvents)
      hWaits.1 hWaits.2
  spared := by
    intro r hIgnored
    by_cases hMem : r ∈ s.lists .euEvents
    · have hIgnores :
          ¬ ((s.record (.fired events)).reqs r).Awaits events :=
        fun hAwaits => hIgnored ⟨hMem, hAwaits⟩
      have hSpared :=
        spares_doEventLoop_of_not_awaits _ events
          (s.lists .euEvents) hIgnores
      exact ⟨hSpared.reqs, hSpared.terminations⟩
    · exact spares_doEvent s events hMem
  lists := fun head =>
    lists_doEventLoop (s := s.record (.fired events)) events
      head (hLinked.congr rfl) (hLinked.once .euEvents)

/- Nobody is left that waits for the events. -/
theorem not_waitsFor_doEvent
    {s : Driver}
    (events : ULONG)
    (hLinked : s.Linked)
    (r : APTR) :
    ¬ (s.doEvent events).WaitsFor events r := by
  have hFires := firesExactly_doEvent events hLinked
  rintro ⟨hMem, hAwaits⟩
  rw [hFires.lists, List.mem_filter, decide_eq_true_eq] at hMem
  rw [(hFires.spared r hMem.2).reqs] at hAwaits
  exact hMem.2 ⟨hMem.1, hAwaits⟩

end Driver

end KszDriver
