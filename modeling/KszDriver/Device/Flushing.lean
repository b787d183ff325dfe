import KszDriver.Device.Openers
import KszDriver.Device.Conservation

/-
  `CMD_FLUSH` and `S2_OFFLINE`.  A flush aborts the reads of
  every opener, the transmit queue and the event requests,
  but not the requests for orphan packets.

  Main declarations:
    * `abortHeads`
    * `Flushes`, `flushes_flushRequests_iff`
    * `SwitchesOffClean`
    * `flush_and_offline`
    * `orphan_waits_offline`
-/

------------------------------------------------------------
-- Aborting Several Lists
------------------------------------------------------------

namespace KszDriver

/- Abort one list after another. -/
def abortHeads : List ListHead → Driver → Driver
| [], s => s
| head :: heads, s => abortHeads heads (s.abortReqList head)

/- The lists that a flush aborts. -/
def flushedHeads (bms : List APTR) : List ListHead :=
  bms.map .bmRxQueue ++ [.euTx, .euEvents]

theorem abortHeads_append
    (heads heads' : List ListHead) (s : Driver) :
    abortHeads (heads ++ heads') s =
      abortHeads heads' (abortHeads heads s) := by
  induction heads generalizing s with
  | nil => rfl
  | cons head heads ih => exact ih (s.abortReqList head)

theorem flushReadQueues_eq (bms : List APTR) (s : Driver) :
    flushReadQueues bms s =
      abortHeads (bms.map .bmRxQueue) s := by
  induction bms generalizing s with
  | nil => rfl
  | cons bm bms ih => exact ih _

theorem flushRequests_eq (s : Driver) :
    flushRequests s =
      abortHeads (flushedHeads s.unit.buffMgmt) s := by
  unfold flushRequests flushedHeads
  rw [abortHeads_append, flushReadQueues_eq]
  rfl

section Heads

open Driver

variable {s : Driver} {heads : List ListHead}
variable {head : ListHead} {r : APTR}

theorem linked_abortReqList
    (hLinked : s.Linked)
    (head : ListHead) :
    (s.abortReqList head).Linked :=
  linked_abortLoop _ hLinked

/- The other lists stay as they are. -/
theorem lists_abortHeads_of_not_mem
    (hLinked : s.Linked)
    (hOther : head ∉ heads) :
    (abortHeads heads s).lists head = s.lists head := by
  induction heads generalizing s with
  | nil => rfl
  | cons first heads ih =>
      rw [List.mem_cons, not_or] at hOther
      unfold abortHeads
      rw [ih (linked_abortReqList hLinked first) hOther.2]
      exact lists_abortReqList_of_ne hLinked hOther.1

/- Nothing is put into a list. -/
theorem lists_abortHeads_of_nil
    (hLinked : s.Linked)
    (hNone : s.lists head = []) :
    (abortHeads heads s).lists head = [] := by
  induction heads generalizing s with
  | nil => exact hNone
  | cons first heads ih =>
      apply ih (linked_abortReqList hLinked first)
      by_cases hSame : head = first
      · rw [hSame]
        exact lists_abortReqList hLinked first
      · rw [lists_abortReqList_of_ne hLinked hSame]
        exact hNone

theorem lists_abortHeads_of_mem
    (hLinked : s.Linked)
    (hMem : head ∈ heads) :
    (abortHeads heads s).lists head = [] := by
  induction heads generalizing s with
  | nil => exact absurd hMem List.not_mem_nil
  | cons first heads ih =>
      have hLinked' := linked_abortReqList hLinked first
      unfold abortHeads
      rcases List.mem_cons.mp hMem with rfl | hMem
      · exact lists_abortHeads_of_nil hLinked'
          (lists_abortReqList hLinked head)
      · exact ih hLinked' hMem

/- Requests in none of the lists are spared. -/
theorem spares_abortHeads
    (hLinked : s.Linked)
    (hOther : ∀ head ∈ heads, r ∉ s.lists head) :
    Spares r s (abortHeads heads s) := by
  induction heads generalizing s with
  | nil => exact Spares.refl
  | cons first heads ih =>
      have hFirst := hOther first List.mem_cons_self
      apply (spares_abortReqList s hFirst).trans
      apply ih (linked_abortReqList hLinked first)
      intro head hMem hIn
      exact hOther head (List.mem_cons_of_mem _ hMem)
        ((mem_lists_abortLoop hLinked r).mp hIn).1

/- A request of one of the lists is aborted once. -/
theorem terminations_abortHeads
    (hLinked : s.Linked)
    (hHead : head ∈ heads)
    (hMem : r ∈ s.lists head) :
    terminations r (abortHeads heads s).log =
      { s.reqs r with ioError := ioerrAborted } ::
        terminations r s.log := by
  induction heads generalizing s with
  | nil => exact absurd hHead List.not_mem_nil
  | cons first heads ih =>
      have hLinked' := linked_abortReqList hLinked first
      unfold abortHeads
      by_cases hFirst : r ∈ s.lists first
      · rw [(spares_abortHeads hLinked' (by
          intro head' _ hIn
          exact ((mem_lists_abortLoop hLinked r).mp hIn).2
            hFirst)).terminations]
        exact terminations_abortReqList hLinked hFirst
      · have hNotFirst : head ≠ first := by
          rintro rfl
          exact hFirst hMem
        have hSpared := spares_abortReqList s hFirst
        have hHead' :=
          (List.mem_cons.mp hHead).resolve_left hNotFirst
        rw [ih hLinked' hHead' (by
            rw [lists_abortReqList_of_ne hLinked hNotFirst]
            exact hMem), hSpared.reqs, hSpared.terminations]

end Heads

------------------------------------------------------------
-- One Flush
------------------------------------------------------------

/- A list of the unit that a flush is to empty. -/
def Driver.ToFlush (s : Driver) (head : ListHead) : Prop :=
  head = .euReadOrphan ∨ head = .euTx ∨ head = .euEvents ∨
    ∃ bm ∈ s.unit.buffMgmt, head = .bmRxQueue bm

/- The lists are emptied, their requests aborted once each,
   and openers and state bits stay. -/
structure Flushes (s s' : Driver) : Prop where
  emptied : ∀ head, s.ToFlush head → s'.lists head = []
  aborted : ∀ head, s.ToFlush head → ∀ r ∈ s.lists head,
    ∃ req, req.ioError = ioerrAborted ∧
      terminations r s'.log = req :: terminations r s.log
  buffMgmt : s'.unit.buffMgmt = s.unit.buffMgmt
  state : s'.unit.state = s.unit.state

namespace Driver

/- All but the orphan requests are flushed. -/
theorem ToFlush.mem_flushedHeads
    {s : Driver}
    {head : ListHead}
    (hFlush : s.ToFlush head)
    (hOther : head ≠ .euReadOrphan) :
    head ∈ flushedHeads s.unit.buffMgmt := by
  unfold flushedHeads
  rcases hFlush with rfl | rfl | rfl | ⟨bm, hOpen, rfl⟩
  · exact absurd rfl hOther
  · simp
  · simp
  · simp [hOpen]

theorem orphan_not_mem_flushedHeads (bms : List APTR) :
    ListHead.euReadOrphan ∉ flushedHeads bms := by
  simp [flushedHeads]

/- A flush does what it is to do exactly when nobody waits
   for orphan packets. -/
theorem flushes_flushRequests_iff
    {s : Driver}
    (hLinked : s.Linked) :
    Flushes s (flushRequests s) ↔
      s.lists .euReadOrphan = [] := by
  have hSteady := steady_flushRequests s
  constructor
  · intro hFlushes
    rw [← hFlushes.emptied .euReadOrphan (Or.inl rfl),
      flushRequests_eq, lists_abortHeads_of_not_mem hLinked
        (orphan_not_mem_flushedHeads _)]
  · intro hNone
    have hHead :
        ∀ head, s.ToFlush head →
          head = .euReadOrphan ∨
            head ∈ flushedHeads s.unit.buffMgmt := by
      intro head hFlush
      by_cases hSame : head = .euReadOrphan
      · exact Or.inl hSame
      · exact Or.inr (hFlush.mem_flushedHeads hSame)
    exact
      { emptied := by
          intro head hFlush
          rw [flushRequests_eq]
          rcases hHead head hFlush with rfl | hMem
          · exact lists_abortHeads_of_nil hLinked hNone
          · exact lists_abortHeads_of_mem hLinked hMem
        aborted := by
          intro head hFlush r hMem
          rw [flushRequests_eq]
          rcases hHead head hFlush with rfl | hHead
          · rw [hNone] at hMem
            exact absurd hMem List.not_mem_nil
          · exact ⟨_, rfl,
              terminations_abortHeads hLinked hHead hMem⟩
        buffMgmt := hSteady.buffMgmt
        state := hSteady.state }

/- What a flush does to the lists is not changed by the
   request for it, which is in none of them. -/
theorem flushes_termIo
    {r : APTR}
    (s s' : Driver)
    (hUnit : s'.unit = s.unit)
    (hLists : ∀ head, head ≠ .unitMsgPort →
      s'.lists head = s.lists head)
    (hFree : ∀ head, head ≠ .unitMsgPort → r ∉ s.lists head)
    (hLog : s'.log = s.log) :
    Flushes s ((flushRequests s').termIo r) ↔
      Flushes s' (flushRequests s') := by
  have hToFlush : ∀ head, s'.ToFlush head ↔ s.ToFlush head := by
    intro head
    unfold ToFlush
    rw [hUnit]
  have hHead :
      ∀ head, s.ToFlush head → head ≠ .unitMsgPort := by
    rintro head hFlush rfl
    rcases hFlush with h | h | h | ⟨bm, -, h⟩
    all_goals cases h
  have hSpared :
      ∀ head, s.ToFlush head → ∀ r' ∈ s.lists head,
        terminations r' ((flushRequests s').termIo r).log =
          terminations r' (flushRequests s').log := by
    intro head hFlush r' hMem
    have hOther : r' ≠ r := by
      rintro rfl
      exact hFree head (hHead head hFlush) hMem
    exact (spares_termIo _ hOther).terminations
  have hRest :=
    unit_of_rest (rest_termIo (flushRequests s') r)
  constructor
  · intro hFlushes
    exact
      { emptied := by
          intro head hFlush
          rw [← lists_termIo _ r]
          exact hFlushes.emptied head ((hToFlush head).mp hFlush)
        aborted := by
          intro head hFlush r' hMem
          have hFlush' := (hToFlush head).mp hFlush
          rw [hLists head (hHead head hFlush')] at hMem
          rw [← hSpared head hFlush' r' hMem, hLog]
          exact hFlushes.aborted head hFlush' r' hMem
        buffMgmt := by
          rw [← hRest, hUnit]
          exact hFlushes.buffMgmt
        state := by
          rw [← hRest, hUnit]
          exact hFlushes.state }
  · intro hFlushes
    exact
      { emptied := by
          intro head hFlush
          rw [lists_termIo]
          exact hFlushes.emptied head
            ((hToFlush head).mpr hFlush)
        aborted := by
          intro head hFlush r' hMem
          rw [hSpared head hFlush r' hMem, ← hLog]
          apply hFlushes.aborted head ((hToFlush head).mpr hFlush)
          rw [hLists head (hHead head hFlush)]
          exact hMem
        buffMgmt := by
          rw [hRest, ← hUnit]
          exact hFlushes.buffMgmt
        state := by
          rw [hRest, ← hUnit]
          exact hFlushes.state }

/- The unit process performs a flush it finds in its port. -/
theorem next_serviceMsgPort_flush
    {s : Driver}
    {r : APTR}
    {others : List APTR}
    (o : Outcome)
    (hPort : s.lists .unitMsgPort = r :: others)
    (hFlush : (s.reqs r).ioCommand = cmdFlush) :
    s.next (.serviceMsgPort o) =
      (flushRequests ((s.remove r).setReq r
        (fun req => { req with ioError := 0 }))).termIo r := by
  unfold next serviceMsgPort performIo
  rw [hPort]
  dsimp only
  rw [reqs_remove, hFlush, dispatch_cmdFlush]
  rfl

theorem flushes_next_iff
    {s : Driver}
    {r : APTR}
    {others : List APTR}
    (o : Outcome)
    (hLinked : s.Linked)
    (hPort : s.lists .unitMsgPort = r :: others)
    (hFlush : (s.reqs r).ioCommand = cmdFlush) :
    Flushes s (s.next (.serviceMsgPort o)) ↔
      s.lists .euReadOrphan = [] := by
  have hMem : r ∈ s.lists .unitMsgPort := by
    rw [hPort]
    exact List.mem_cons_self
  have hLists :
      ∀ head, head ≠ .unitMsgPort →
        (s.remove r).lists head = s.lists head :=
    fun head hOther =>
      hLinked.lists_remove_of_ne hMem hOther
  have hFree :
      ∀ head, head ≠ .unitMsgPort → r ∉ s.lists head :=
    fun head hOther hIn =>
      hOther (hLinked.apart _ _ r hIn hMem)
  have hTaken :
      ((s.remove r).setReq r
        (fun req => { req with ioError := 0 })).Linked :=
    hLinked.remove.congr rfl
  rw [next_serviceMsgPort_flush o hPort hFlush]
  have hSame :=
    flushes_termIo s
      ((s.remove r).setReq r
        (fun req => { req with ioError := 0 }))
      rfl hLists hFree rfl
  refine hSame.trans ?_
  rw [flushes_flushRequests_iff hTaken, lists_setReq,
    hLists .euReadOrphan (by simp)]

end Driver

------------------------------------------------------------
-- Offline Units
------------------------------------------------------------

/- Reads, orphan reads and writes. -/
def IsTransfer (command : UWORD) : Prop :=
  command = cmdRead ∨ command = s2ReadOrphan ∨
    command = cmdWrite ∨ command = s2Broadcast ∨
    command = s2Multicast

instance (command : UWORD) : Decidable (IsTransfer command) := by
  unfold IsTransfer
  infer_instance

/- Transfers are performed by the caller's task. -/
theorem performedNow_of_isTransfer
    {command : UWORD}
    (hTransfer : IsTransfer command) :
    PerformedNow command := by
  rcases hTransfer with rfl | rfl | rfl | rfl | rfl
  all_goals decide

/-
  Nobody waits for orphan packets when the online bit is
  cleared, by `S2_OFFLINE` or by the last close; and the open
  count of the unit has not wrapped.
-/
def SwitchesOffClean (s : Driver) : Op → Prop
| .serviceMsgPort _ =>
    ∀ r ∈ (s.lists .unitMsgPort).head?,
      (s.reqs r).ioCommand = s2Offline →
        s.lists .euReadOrphan = []
| .close ios2 =>
    s.OpenHandle ios2 → s.CountsDown ∧
      (s.unit.buffMgmt.length = 1 →
        s.lists .euReadOrphan = [])
| _ => True

instance decidableSwitchesOffClean (s : Driver) :
    (op : Op) → Decidable (SwitchesOffClean s op)
| .serviceMsgPort _ =>
    inferInstanceAs (Decidable
      (∀ r ∈ (s.lists .unitMsgPort).head?,
        (s.reqs r).ioCommand = s2Offline →
          s.lists .euReadOrphan = []))
| .close ios2 =>
    inferInstanceAs (Decidable
      (s.OpenHandle ios2 → s.CountsDown ∧
        (s.unit.buffMgmt.length = 1 →
          s.lists .euReadOrphan = [])))
| .openDevice _ _ _ _ | .expunge | .beginIo _ _ | .abortIo _
| .pktReceived _ _ _ | .doEvent _ | .configChanged _
| .clientWrite _ _ | .hardware _ =>
    isTrue trivial

/- Where a request waits says whether the unit is online. -/
def onlinePolicy (bms : List APTR) (online : Prop) : Policy where
  place := fun head _ c =>
    match head with
    | .unitMsgPort => ¬ PerformedNow c.ioCommand
    | .bmRxQueue bm => online ∧ bm ∈ bms
    | .euReadOrphan => online
    | .euEvents => c.ioCommand = s2OnEvent
    | .euTx => False
  waits := fun _ _ => True
  lost := fun _ => True
  waits_calm := fun _ _ _ => trivial

/- The unit is there and online. -/
def Driver.Serving (s : Driver) : Prop :=
  s.base.unit0 = true ∧ s.Online

/- The invariant of the runs that switch off cleanly. -/
structure Driver.Tidy (s : Driver) : Prop where
  openers : s.Openers
  conserved :
    s.Conserved (onlinePolicy s.unit.buffMgmt s.Serving) []

namespace Driver.Tidy

variable {s : Driver} {op : Op}

/- An offline unit has no transfers in its lists. -/
theorem not_isTransfer
    (hTidy : s.Tidy)
    (hOffline : ¬ s.Online)
    {head : ListHead}
    {r : APTR}
    (hMem : r ∈ s.lists head) :
    ¬ IsTransfer (s.reqs r).ioCommand := by
  intro hTransfer
  have hPlaced := hTidy.conserved.placed head r hMem
  cases head with
  | unitMsgPort =>
      exact hPlaced (performedNow_of_isTransfer hTransfer)
  | bmRxQueue bm => exact hOffline hPlaced.1.2
  | euReadOrphan => exact hOffline hPlaced.2
  | euEvents =>
      have hEvent : (s.reqs r).ioCommand = s2OnEvent := hPlaced
      rw [hEvent] at hTransfer
      exact absurd hTransfer (by decide)
  | euTx => exact hPlaced

theorem admits
    {bms : List APTR}
    {online : Prop}
    (hBms : bms = s.unit.buffMgmt)
    (hOnline : s.Online → online)
    (r : APTR) :
    (onlinePolicy bms online).Admits s r where
  write := fun _ _ _ => trivial
  read := fun _ hOn hOpen =>
    ⟨⟨hOnline hOn, hBms ▸ hOpen⟩, trivial⟩
  orphan := fun _ hOn => ⟨hOnline hOn, trivial⟩
  event := fun hEvent => ⟨hEvent, trivial⟩

theorem meets
    (hAllowed : op.Allowed s) :
    (onlinePolicy s.unit.buffMgmt s.Serving).Meets s op := by
  cases op with
  | openDevice ios2 s2unit s2flags env =>
      exact ⟨fun _ _ _ _ => trivial, fun _ _ _ => trivial⟩
  | beginIo ios2 o =>
      exact ⟨fun _ =>
          admits rfl (fun hOn => ⟨hAllowed.1, hOn⟩) ios2,
        fun hLater => ⟨hLater, trivial⟩⟩
  | serviceMsgPort o =>
      exact fun r _ =>
        admits rfl (fun hOn => ⟨hAllowed, hOn⟩) r
  | _ => trivial

/- More openers, and a unit that may have come online. -/
theorem widen
    {bms bms' : List APTR}
    {online online' : Prop}
    (hCon : s.Conserved (onlinePolicy bms online) [])
    (hBms : ∀ bm ∈ bms, bm ∈ bms')
    (hOnline : online → online') :
    s.Conserved (onlinePolicy bms' online') [] := by
  apply hCon.change
  · intro head r hMem
    have hPlaced := hCon.placed head r hMem
    cases head with
    | unitMsgPort => exact hPlaced
    | bmRxQueue bm =>
        exact ⟨hOnline hPlaced.1, hBms bm hPlaced.2⟩
    | euReadOrphan => exact hOnline hPlaced
    | euEvents => exact hPlaced
    | euTx => exact hPlaced
  · exact fun _ _ hWaits => hWaits
  · exact fun _ _ hLost => hLost

/- Nobody reads from the unit any more. -/
theorem narrow
    {bms bms' : List APTR}
    {online online' : Prop}
    (hCon : s.Conserved (onlinePolicy bms online) [])
    (hReads : ∀ bm ∈ bms, s.lists (.bmRxQueue bm) = [])
    (hOrphans : s.lists .euReadOrphan = []) :
    s.Conserved (onlinePolicy bms' online') [] := by
  apply hCon.change
  · intro head r hMem
    have hPlaced := hCon.placed head r hMem
    cases head with
    | unitMsgPort => exact hPlaced
    | bmRxQueue bm =>
        rw [hReads bm hPlaced.2] at hMem
        exact absurd hMem List.not_mem_nil
    | euReadOrphan =>
        rw [hOrphans] at hMem
        exact absurd hMem List.not_mem_nil
    | euEvents => exact hPlaced
    | euTx => exact hPlaced
  · exact fun _ _ hWaits => hWaits
  · exact fun _ _ hLost => hLost

/- A step that neither opens, closes, expunges nor serves the
   port. -/
theorem of_steady
    {s' : Driver}
    (hTidy : s.Tidy)
    (hSteady : Steady s s')
    (hCon :
      s'.Conserved (onlinePolicy s.unit.buffMgmt s.Serving) []) :
    s'.Tidy where
  openers := hTidy.openers.of_serves hSteady.toServes
  conserved := by
    apply widen hCon
    · intro bm hOpen
      rw [hSteady.buffMgmt]
      exact hOpen
    · rintro ⟨hUnit, hOnline⟩
      exact ⟨hSteady.base ▸ hUnit, hSteady.online.mpr hOnline⟩

------------------------------------------------------------
-- Opening and Closing
------------------------------------------------------------

/- An open leaves a unit that is there as it is. -/
theorem serving_deviceOpen
    {env : OpenEnv}
    (ios2 : APTR)
    (s2unit s2flags : ULONG)
    (hServing : s.Serving) :
    (deviceOpen ios2 s2unit s2flags env s).Serving := by
  apply deviceOpen_rule (I := Serving) (J := Serving)
  · exact fun s' _ _ hState => hState
  · exact fun s' _ hState => hState
  · exact fun s' hState => hState
  · intro s' hState
    unfold initUnitProcess
    rw [if_pos hState.1]
    exact hState
  · exact fun s' hState => hState
  · exact fun s' _ _ hState => hState
  · exact hServing

theorem openDevice
    {ios2 : APTR}
    {s2unit s2flags : ULONG}
    {env : OpenEnv}
    (hTidy : s.Tidy)
    (hAllowed : (Op.openDevice ios2 s2unit s2flags env).Allowed s)
    (hCon :
      (s.next (.openDevice ios2 s2unit s2flags env)).Conserved
        (onlinePolicy s.unit.buffMgmt s.Serving) []) :
    (s.next (.openDevice ios2 s2unit s2flags env)).Tidy := by
  have hOpened :=
    openers_deviceOpen ios2 s2unit s2flags hTidy.openers
      hAllowed.2.2
  exact
    { openers := hOpened.1
      conserved := widen hCon hOpened.2
        (serving_deviceOpen ios2 s2unit s2flags) }

/- A handle that is closed was not the last one, or the unit
   is switched off with nobody waiting for its packets. -/
theorem close
    {ios2 : APTR}
    (hTidy : s.Tidy)
    (hHandle : s.OpenHandle ios2)
    (hCounts : s.CountsDown)
    (hLast : s.unit.buffMgmt.length = 1 →
      s.lists .euReadOrphan = [])
    (hCon :
      (s.next (.close ios2)).Conserved
        (onlinePolicy s.unit.buffMgmt s.Serving) []) :
    (s.next (.close ios2)).Tidy := by
  have hClosed := closed_deviceClose hTidy.openers hHandle
  have hOpeners :=
    openers_closed hTidy.openers hHandle hCounts hClosed
  have hLinked := hTidy.conserved.toLinked
  have hQueue :
      (s.next (.close ios2)).lists (.bmRxQueue
        (s.reqs ios2).bufferManagement) = [] := by
    have hLists : (s.next (.close ios2)).lists = _ :=
      hClosed.lists
    rw [hLists]
    exact lists_abortReqList hLinked _
  refine ⟨hOpeners, ?_⟩
  by_cases hOne : s.unit.buffMgmt.length = 1
  · apply narrow hCon
    · intro bm hOpen
      rcases List.length_eq_one_iff.mp hOne with ⟨only, hOnly⟩
      have hHandle' := hHandle.2.2
      rw [hOnly, List.mem_singleton] at hOpen hHandle'
      rw [hOpen, ← hHandle']
      exact hQueue
    · have hLists : (s.next (.close ios2)).lists = _ :=
        hClosed.lists
      rw [hLists, lists_abortReqList_of_ne hLinked (by simp)]
      exact hLast hOne
  · have hMore :=
      hTidy.openers.count_ne_zero hHandle.2.2 hCounts hOne
    have hServing :
        s.Serving → (s.next (.close ios2)).Serving := by
      rintro ⟨hUnit, hOnline⟩
      refine ⟨?_, hClosed.online.mpr ⟨hOnline, fun _ => hMore⟩⟩
      have hUnit' : (s.next (.close ios2)).base.unit0 = _ :=
        hClosed.unit0
      rw [hUnit', hUnit]
      simpa using hMore
    apply hCon.change
    · intro head r hMem
      have hPlaced := hCon.placed head r hMem
      cases head with
      | unitMsgPort => exact hPlaced
      | bmRxQueue bm =>
          refine ⟨hServing hPlaced.1, ?_⟩
          have hBuffMgmt :
              (s.next (.close ios2)).unit.buffMgmt = _ :=
            hClosed.buffMgmt
          rw [hBuffMgmt, hTidy.openers.nodup.mem_erase_iff]
          refine ⟨?_, hPlaced.2⟩
          rintro rfl
          rw [hQueue] at hMem
          exact List.not_mem_nil hMem
      | euReadOrphan => exact hServing hPlaced
      | euEvents => exact hPlaced
      | euTx => exact hPlaced
    · exact fun _ _ hWaits => hWaits
    · exact fun _ _ hLost => hLost

------------------------------------------------------------
-- Going Offline
------------------------------------------------------------

/- Going offline empties the lists that a flush empties, and
   puts nothing into the others. -/
theorem lists_goOffline
    {head : ListHead}
    (hLinked : s.Linked)
    (hHead : head ∈ flushedHeads s.unit.buffMgmt ∨
      (head ≠ .euEvents ∧ s.lists head = [])) :
    (goOffline s).lists head = [] := by
  have hFlushed :
      ∀ s' : Driver, s'.Linked →
        s'.unit.buffMgmt = s.unit.buffMgmt →
          (head ≠ .euEvents ∧ s.lists head = [] →
            s'.lists head = []) →
          (flushRequests s').lists head = [] := by
    intro s' hLinked' hBuffMgmt hNone
    rw [flushRequests_eq, hBuffMgmt]
    rcases hHead with hMem | hEmpty
    · exact lists_abortHeads_of_mem hLinked' hMem
    · exact lists_abortHeads_of_nil hLinked' (hNone hEmpty)
  have hSwitched :
      (s.setUnit (fun u =>
        { u with
          state := u.state &&& ~~~etherufOnline })).Linked :=
    hLinked.congr rfl
  apply hFlushed
  · exact linked_doEvent _ hSwitched
  · exact (Steady.refl.doEvent _).buffMgmt
  · rintro ⟨hOther, hNone⟩
    rw [lists_doEvent_of_ne _ hSwitched hOther]
    exact hNone

theorem next_serviceMsgPort_offline
    {r : APTR}
    {others : List APTR}
    (o : Outcome)
    (hPort : s.lists .unitMsgPort = r :: others)
    (hOffline : (s.reqs r).ioCommand = s2Offline)
    (hOnline : s.Online) :
    s.next (.serviceMsgPort o) =
      (goOffline ((s.remove r).setReq r
        (fun req => { req with ioError := 0 }))).termIo r := by
  have hOnline' :
      ((s.remove r).setReq r
        (fun req => { req with ioError := 0 })).Online :=
    hOnline
  unfold Driver.next KszDriver.serviceMsgPort performIo
  rw [hPort]
  dsimp only
  rw [reqs_remove, hOffline, dispatch_s2Offline]
  unfold devCmdOffline
  rw [if_pos hOnline']

/- The unit process serves a request of its port. -/
theorem serviceMsgPort
    {o : Outcome}
    (hTidy : s.Tidy)
    (hUnit : s.base.unit0 = true)
    (hGuard : SwitchesOffClean s (.serviceMsgPort o))
    (hCon :
      (s.next (.serviceMsgPort o)).Conserved
        (onlinePolicy s.unit.buffMgmt s.Serving) []) :
    (s.next (.serviceMsgPort o)).Tidy := by
  have hServes := serves_serviceMsgPort o s
  refine ⟨hTidy.openers.of_serves hServes, ?_⟩
  have hSame :
      (s.next (.serviceMsgPort o)).unit.buffMgmt =
        s.unit.buffMgmt :=
    hServes.buffMgmt
  rw [hSame]
  cases hPort : s.lists .unitMsgPort with
  | nil =>
      have hNext : s.next (.serviceMsgPort o) = s := by
        unfold Driver.next KszDriver.serviceMsgPort
        rw [hPort]
      rw [hNext]
      exact hTidy.conserved
  | cons r others =>
      by_cases hOffline : (s.reqs r).ioCommand = s2Offline
      · by_cases hOnline : s.Online
        · have hTaken :
              ((s.remove r).setReq r
                (fun req => { req with ioError := 0 })).Linked :=
            hTidy.conserved.toLinked.remove.congr rfl
          have hOrphans : s.lists .euReadOrphan = [] := by
            apply hGuard r _ hOffline
            rw [hPort]
            rfl
          apply narrow hCon
          · intro bm hOpen
            rw [next_serviceMsgPort_offline o hPort hOffline
              hOnline, lists_termIo]
            apply lists_goOffline hTaken (Or.inl _)
            unfold flushedHeads
            exact List.mem_append_left _
              (List.mem_map_of_mem hOpen)
          · rw [next_serviceMsgPort_offline o hPort hOffline
              hOnline, lists_termIo]
            apply lists_goOffline hTaken (Or.inr ⟨by simp, _⟩)
            rw [lists_setReq, lists_remove, hOrphans]
            rfl
        · apply widen hCon (fun bm hOpen => hOpen)
          exact fun hServing => absurd hServing.2 hOnline
      · apply widen hCon (fun bm hOpen => hOpen)
        rintro ⟨-, hOnline⟩
        refine ⟨hServes.base ▸ hUnit, ?_⟩
        unfold Driver.next KszDriver.serviceMsgPort
        rw [hPort]
        exact online_performIo o r hOffline hOnline

theorem next
    (hTidy : s.Tidy)
    (hAllowed : op.Allowed s)
    (hGuard : SwitchesOffClean s op) :
    (s.next op).Tidy := by
  have hCon := hTidy.conserved.next hAllowed (meets hAllowed)
  cases op with
  | openDevice ios2 s2unit s2flags env =>
      exact hTidy.openDevice hAllowed hCon
  | close ios2 =>
      rcases hAllowed.2.2 with hNone | hHandle
      · rw [← deviceClose_of_unit_none hNone] at hTidy
        exact hTidy
      · exact hTidy.close hHandle (hGuard hHandle).1
          (hGuard hHandle).2 hCon
  | expunge =>
      have hUnit : (s.next .expunge).unit = s.unit :=
        unit_deviceExpunge s
      have hUnit0 :
          (s.next .expunge).base.unit0 = s.base.unit0 :=
        unit0_deviceExpunge s
      refine ⟨hTidy.openers.congr hUnit hUnit0, ?_⟩
      rw [hUnit]
      apply widen hCon (fun bm hOpen => hOpen)
      rintro ⟨hThere, hOnline⟩
      refine ⟨hUnit0.trans hThere, ?_⟩
      rw [Online, hUnit]
      exact hOnline
  | serviceMsgPort o =>
      exact hTidy.serviceMsgPort hAllowed hGuard hCon
  | _ =>
      exact hTidy.of_steady
        (steady_next s (by simp) (by simp) (by simp) (by simp))
        hCon

end Driver.Tidy

------------------------------------------------------------
-- Runs
------------------------------------------------------------

/-
  A flush, by itself or as a command, does what it is to do
  exactly when nobody waits for orphan packets; and in every
  run that switches off cleanly, an offline unit has no
  transfers in its lists.
-/
theorem flush_and_offline
    {s : Driver} :
    (deviceMachine.Reach Machine.Free s →
      (Flushes s (devCmdFlush none s) ↔
        s.lists .euReadOrphan = []) ∧
      ∀ o r others, s.lists .unitMsgPort = r :: others →
        (s.reqs r).ioCommand = cmdFlush →
          (Flushes s (s.next (.serviceMsgPort o)) ↔
            s.lists .euReadOrphan = [])) ∧
    (deviceMachine.Reach SwitchesOffClean s → ¬ s.Online →
      ∀ head, ∀ r ∈ s.lists head,
        ¬ IsTransfer (s.reqs r).ioCommand) := by
  constructor
  · intro hReach
    have hLinked := (conserved_of_reach hReach).toLinked
    exact ⟨Driver.flushes_flushRequests_iff hLinked,
      fun o r others hPort hFlush =>
        Driver.flushes_next_iff o hLinked hPort hFlush⟩
  · intro hReach hOffline head r hMem
    have hTidy : s.Tidy :=
      hReach.invariant
        (fun _ hStart =>
          ⟨Driver.Openers.start hStart,
            Driver.Start.conserved hStart _⟩)
        (fun _ _ hAllowed hGuard hState =>
          hState.next hAllowed hGuard)
    exact hTidy.not_isTransfer hOffline hMem

/- A unit that goes offline while a read waits. -/
def readThenOffline : List Op :=
  onlineSteps ++ submitSteps 8 (plainRequest cmdRead) ++
    submitSteps 9 (plainRequest s2Offline) ++
      [.serviceMsgPort plainOutcome]

/- Both hold of a unit that goes offline with a read. -/
theorem flush_and_offline_read :
    (Flushes
        (deviceMachine.run readThenOffline
          (loadedDriver (idleRegisters 0x1800#16)))
        (devCmdFlush none
          (deviceMachine.run readThenOffline
            (loadedDriver (idleRegisters 0x1800#16)))) ↔
      (deviceMachine.run readThenOffline
        (loadedDriver (idleRegisters 0x1800#16))).lists
          .euReadOrphan = []) ∧
    ∀ head,
      ∀ r ∈ (deviceMachine.run readThenOffline
          (loadedDriver (idleRegisters 0x1800#16))).lists head,
        ¬ IsTransfer
          ((deviceMachine.run readThenOffline
            (loadedDriver (idleRegisters 0x1800#16))).reqs
              r).ioCommand := by
  constructor
  · exact (flush_and_offline.1
      (Machine.reach_run _
        (Machine.Reach.start (start_loadedDriver _))
        (by decide +kernel))).1
  · exact flush_and_offline.2
      (Machine.reach_run _
        (Machine.Reach.start (start_loadedDriver _))
        (by decide +kernel))
      (by decide +kernel)

/-
  A request for orphan packets waits on in a unit that has
  gone offline; no flush aborts it.
-/
theorem orphan_waits_offline :
    ∃ s : Driver,
      deviceMachine.Reach Machine.Free s ∧ ¬ s.Online ∧
        8 ∈ s.lists .euReadOrphan ∧
        (s.reqs 8).ioCommand = s2ReadOrphan ∧
        ¬ Flushes s (devCmdFlush none s) := by
  have hReach :
      deviceMachine.Reach Machine.Free
        (deviceMachine.run
          (onlineSteps ++
            submitSteps 8 (plainRequest s2ReadOrphan) ++
            submitSteps 9 (plainRequest s2Offline) ++
            [.serviceMsgPort plainOutcome])
          (loadedDriver (idleRegisters 0x1800#16))) :=
    Machine.reach_run _
      (Machine.Reach.start (start_loadedDriver _))
      (by decide +kernel)
  refine ⟨_, hReach, by decide +kernel, by decide +kernel,
    by decide +kernel, ?_⟩
  intro hFlushes
  have hLinked := (conserved_of_reach hReach).toLinked
  have hNone :=
    (Driver.flushes_flushRequests_iff hLinked).mp hFlushes
  revert hNone
  decide +kernel

end KszDriver
