import KszDriver.Device.Transmit
import KszDriver.Device.Metadata

/-
  The event `S2EVENT_BUFF` in the drain of the transmit
  queue.

  It is fired for a request whose wire error is set when its
  turn ends, and only an error sets that.  So it is fired for
  a request that came with an old error as well, and for one
  of a wrong length.

  Main declarations:
    * `drainTurns`, `log_sendAllPackets`
    * `TurnExact`, `ExactDrain`
    * `CopyFails`, `BuffErrorClear`
    * `handles_handlePacket`, `turned_sendOne`
    * `exactDrain_iff`
    * `not_exactDrain_reused`
-/

------------------------------------------------------------
-- The Turns of a Drain
------------------------------------------------------------

namespace KszDriver

open Driver

/- The requests of a drain, each with what its turn adds to
   the history. -/
def turns (o : Outcome) :
    List APTR → Driver → List (APTR × List Event)
| [], _ => []
| ios2 :: rest, s =>
    (ios2, s.since (sendOne o ios2 (s.remove ios2))) ::
      turns o rest (sendOne o ios2 (s.remove ios2))

def drainTurns (o : Outcome) (s : Driver) :
    List (APTR × List Event) :=
  turns o (s.lists .euTx) s

def Event.isFired (events : ULONG) : Event → Bool
| .fired other => other == events
| _ => false

/- The copy function of the opener has failed. -/
def Event.isCopyFailure (ios2 : APTR) : Event → Bool
| .copiedFromBuffer r copied => r == ios2 && !copied
| _ => false

/- The event is fired for a failed copy and for nothing else,
   and a request without an error has no wire error. -/
structure TurnExact (ios2 : APTR) (turn : List Event) : Prop
    where
  fired :
    turn.countP (Event.isFired s2eventBuff) =
      if turn.any (Event.isCopyFailure ios2) then 1 else 0
  clean : ∀ req, .terminated ios2 req ∈ turn →
    req.ioError = 0 → req.wireError = 0#32

/- All turns of the drain are as they should be. -/
def ExactDrain (o : Outcome) (s : Driver) : Prop :=
  ∀ turn ∈ drainTurns o s, TurnExact turn.1 turn.2

------------------------------------------------------------
-- One Request
------------------------------------------------------------

/- The driver takes a packet of this length. -/
def SendableLength (req : IOSana2Req) : Prop :=
  if req.Raw then req.dataLength.toNat > etherPacketHeadSize
  else req.dataLength.toNat ≤ ethernetMtu

/- The copy function is called and fails. -/
def CopyFails (o : Outcome) (ios2 : APTR) (s : Driver) : Prop :=
  SendableLength (s.reqs ios2) ∧
    ((s.reqs ios2).Raw ∨ dmaPacketBuffer o ios2 s = none) ∧
    (o.copyFromBuffer ios2).1 = false

/- The copy fails, or the length is accepted and no error is
   left from before. -/
def BuffErrorClear
    (o : Outcome) (ios2 : APTR) (s : Driver) : Prop :=
  CopyFails o ios2 s ∨
    SendableLength (s.reqs ios2) ∧
      (s.reqs ios2).wireError = 0#32

/- A packet is handed on, or its request marked as failed. -/
def handlePacket (o : Outcome) (ios2 : APTR) (s : Driver) :
    Driver :=
  if (s.reqs ios2).Raw then sendRaw o ios2 s
  else sendCooked o ios2 s

/- No event of this kind ends a request or fires anything. -/
def Event.OfPacket : Event → Prop
| .copiedFromBuffer _ _ => True
| .sent _ _ => True
| _ => False

/- What is done with a packet before its request is looked
   at. -/
structure Handles
    (o : Outcome)
    (ios2 : APTR)
    (s s' : Driver)
    (newer : List Event) : Prop where
  grows : GrowsBy newer s s'
  events : ∀ event ∈ newer, event.OfPacket
  lists : s'.lists = s.lists
  others : ∀ r, r ≠ ios2 → s'.reqs r = s.reqs r
  bms : s'.bms = s.bms
  failure :
    newer.any (Event.isCopyFailure ios2) = true ↔
      CopyFails o ios2 s
  failed : (CopyFails o ios2 s ∨
      ¬SendableLength (s.reqs ios2)) →
    (s'.reqs ios2).wireError = s2werrBuffError ∧
      (s'.reqs ios2).ioError ≠ 0
  passed : SendableLength (s.reqs ios2) →
    ¬CopyFails o ios2 s → s'.reqs ios2 = s.reqs ios2

section Packets

variable {o : Outcome} {ios2 : APTR} {s : Driver}

/- The packet is handed on. -/
theorem handles_runSend
    {s₁ : Driver}
    (p : NicM ErrorT)
    {copies : List Event}
    (hCopies : copies = [] ∨
      copies = [.copiedFromBuffer ios2 true])
    (hLog : GrowsBy copies s s₁)
    (hReqs : s₁.reqs = s.reqs)
    (hLists : s₁.lists = s.lists)
    (hBms : s₁.bms = s.bms)
    (hLength : SendableLength (s.reqs ios2))
    (hWorks : ¬CopyFails o ios2 s) :
    Handles o ios2 s (s₁.runSend ios2 p)
      (.sent ios2 (p.runOn s₁.nic).1 :: copies) where
  grows := by
    unfold GrowsBy at hLog ⊢
    rw [List.cons_append, ← hLog]
    rfl
  events := by
    intro event hMem
    rcases List.mem_cons.mp hMem with rfl | hCopy
    · trivial
    · rcases hCopies with rfl | rfl
      · exact absurd hCopy List.not_mem_nil
      · rw [List.mem_singleton.mp hCopy]
        trivial
  lists := hLists
  others := fun r _ => congrFun hReqs r
  bms := hBms
  failure := by
    refine iff_of_false ?_ hWorks
    rcases hCopies with rfl | rfl
    · simp [Event.isCopyFailure]
    · simp [Event.isCopyFailure]
  failed := fun hEither =>
    absurd hLength (hEither.resolve_left hWorks)
  passed := fun _ _ => congrFun hReqs ios2

/- The request is marked as failed. -/
theorem handles_setError
    {s₁ : Driver}
    {ioError : Int}
    {copies : List Event}
    (hError : ioError ≠ 0)
    (hCopies : copies = [] ∧ ¬CopyFails o ios2 s ∧
        ¬SendableLength (s.reqs ios2) ∨
      copies = [.copiedFromBuffer ios2 false] ∧
        CopyFails o ios2 s)
    (hLog : GrowsBy copies s s₁)
    (hReqs : s₁.reqs = s.reqs)
    (hLists : s₁.lists = s.lists)
    (hBms : s₁.bms = s.bms) :
    Handles o ios2 s
      (s₁.setErrorOnRequest ios2 ioError s2werrBuffError)
      copies where
  grows := hLog
  events := by
    intro event hMem
    rcases hCopies with ⟨rfl, -⟩ | ⟨rfl, -⟩
    · exact absurd hMem List.not_mem_nil
    · rw [List.mem_singleton.mp hMem]
      trivial
  lists := hLists
  others := by
    intro r hOther
    unfold setErrorOnRequest
    rw [reqs_setReq, if_neg hOther, hReqs]
  bms := hBms
  failure := by
    rcases hCopies with ⟨rfl, hNot, -⟩ | ⟨rfl, hFails⟩
    · exact iff_of_false (by simp) hNot
    · exact iff_of_true (by simp [Event.isCopyFailure]) hFails
  failed := by
    intro _
    unfold setErrorOnRequest
    rw [reqs_setReq, if_pos rfl]
    exact ⟨rfl, hError⟩
  passed := by
    intro hLength hWorks
    rcases hCopies with ⟨-, -, hNot⟩ | ⟨-, hFails⟩
    · exact absurd hLength hNot
    · exact absurd hFails hWorks

theorem handles_sendRaw
    (hRaw : (s.reqs ios2).Raw) :
    ∃ newer, Handles o ios2 s (sendRaw o ios2 s) newer := by
  have hAccepted : SendableLength (s.reqs ios2) ↔
      (s.reqs ios2).dataLength.toNat > etherPacketHeadSize := by
    unfold SendableLength
    rw [if_pos hRaw]
  unfold sendRaw
  dsimp only
  by_cases hLong :
      (s.reqs ios2).dataLength.toNat > etherPacketHeadSize
  · rw [if_pos hLong]
    have hLog : GrowsBy
        [.copiedFromBuffer ios2 (o.copyFromBuffer ios2).1] s
        (s.copyFromBuffer o ios2 0) := rfl
    cases hCopy : (o.copyFromBuffer ios2).1 with
    | true =>
        rw [hCopy] at hLog
        rw [if_pos rfl]
        exact ⟨_, handles_runSend _ (Or.inr rfl) hLog rfl rfl
          rfl (hAccepted.mpr hLong)
          (fun hFails => Bool.false_ne_true
            (hFails.2.2.symm.trans hCopy))⟩
    | false =>
        rw [hCopy] at hLog
        rw [if_neg Bool.false_ne_true]
        exact ⟨_, handles_setError (by decide)
          (Or.inr ⟨rfl, hAccepted.mpr hLong, Or.inl hRaw, hCopy⟩)
          hLog rfl rfl rfl⟩
  · rw [if_neg hLong]
    have hNot : ¬SendableLength (s.reqs ios2) :=
      fun hAll => hLong (hAccepted.mp hAll)
    exact ⟨[], handles_setError (by decide)
      (Or.inl ⟨rfl, fun hFails => hNot hFails.1, hNot⟩)
      rfl rfl rfl rfl⟩

theorem handles_sendCooked
    (hCooked : ¬(s.reqs ios2).Raw) :
    ∃ newer, Handles o ios2 s (sendCooked o ios2 s) newer := by
  have hAccepted : SendableLength (s.reqs ios2) ↔
      (s.reqs ios2).dataLength.toNat ≤ ethernetMtu := by
    unfold SendableLength
    rw [if_neg hCooked]
  unfold sendCooked
  dsimp only
  by_cases hShort :
      (s.reqs ios2).dataLength.toNat ≤ ethernetMtu
  · rw [if_pos hShort]
    cases hDma : dmaPacketBuffer o ios2 s with
    | some packet =>
        have hNotCalled : ¬CopyFails o ios2 s := by
          rintro ⟨-, hRaw | hNone, -⟩
          · exact hCooked hRaw
          · rw [hDma] at hNone
            exact Option.some_ne_none packet hNone
        exact ⟨_, handles_runSend _ (Or.inl rfl) rfl rfl rfl
          rfl (hAccepted.mpr hShort) hNotCalled⟩
    | none =>
        unfold sendCopied
        dsimp only
        have hLog : GrowsBy
            [.copiedFromBuffer ios2 (o.copyFromBuffer ios2).1] s
            ((storeHeader ios2 s).copyFromBuffer o ios2
              etherPacketHeadSize) := rfl
        cases hCopy : (o.copyFromBuffer ios2).1 with
        | true =>
            rw [hCopy] at hLog
            rw [if_pos rfl]
            exact ⟨_, handles_runSend _ (Or.inr rfl) hLog rfl
              rfl rfl (hAccepted.mpr hShort)
              (fun hFails => Bool.false_ne_true
                (hFails.2.2.symm.trans hCopy))⟩
        | false =>
            rw [hCopy] at hLog
            rw [if_neg Bool.false_ne_true]
            exact ⟨_, handles_setError (by decide)
              (Or.inr ⟨rfl, hAccepted.mpr hShort, Or.inr hDma,
                hCopy⟩) hLog rfl rfl rfl⟩
  · rw [if_neg hShort]
    have hNot : ¬SendableLength (s.reqs ios2) :=
      fun hAll => hShort (hAccepted.mp hAll)
    exact ⟨[], handles_setError (by decide)
      (Or.inl ⟨rfl, fun hFails => hNot hFails.1, hNot⟩)
      rfl rfl rfl rfl⟩

theorem handles_handlePacket :
    ∃ newer, Handles o ios2 s (handlePacket o ios2 s) newer := by
  unfold handlePacket
  split
  next hRaw => exact handles_sendRaw hRaw
  next hCooked => exact handles_sendCooked hCooked

end Packets

------------------------------------------------------------
-- One Turn
------------------------------------------------------------

/- Firing an event is one event, and the ends of requests that
   waited for it. -/
theorem grows_doEvent_mem (events : ULONG) (s : Driver) :
    ∃ waiters,
      GrowsBy (waiters ++ [.fired events]) s
        (s.doEvent events) ∧
      ∀ event ∈ waiters, ∃ r ∈ s.lists .euEvents, ∃ req,
        event = .terminated r req := by
  obtain ⟨waiters, hGrows, hEvents⟩ :=
    grows_doEventLoop_mem events (s.lists .euEvents)
      (s.record (.fired events))
  have hFired :
      GrowsBy [.fired events] s (s.record (.fired events)) :=
    rfl
  exact ⟨waiters, hFired.trans hGrows, hEvents⟩

/- Nothing that concerns a packet fires an event. -/
theorem countP_fired_of_packet
    {newer : List Event}
    (hEvents : ∀ event ∈ newer, event.OfPacket)
    (events : ULONG) :
    newer.countP (Event.isFired events) = 0 := by
  rw [List.countP_eq_zero]
  intro event hMem hFired
  have hPacket := hEvents event hMem
  cases event with
  | fired other => exact hPacket
  | _ => exact absurd hFired Bool.false_ne_true

/- What stands between the packet and the end of its request:
   the event, and the ends of others, if there was an error. -/
structure Between
    (ios2 : APTR)
    (wireError : ULONG)
    (between : List Event) : Prop where
  count :
    between.countP (Event.isFired s2eventBuff) =
      if wireError = 0#32 then 0 else 1
  noCopy :
    between.any (Event.isCopyFailure ios2) = false
  others : ∀ req, Event.terminated ios2 req ∉ between

/- No event. -/
theorem between_nil
    {ios2 : APTR} :
    Between ios2 0#32 [] where
  count := rfl
  noCopy := rfl
  others := fun _ => List.not_mem_nil

/- The event, and whoever waited for it. -/
theorem between_fired
    {ios2 : APTR}
    {wireError : ULONG}
    {waiters : List Event}
    (hError : wireError ≠ 0#32)
    (hWaiters : ∀ event ∈ waiters, ∃ r req,
      r ≠ ios2 ∧ event = .terminated r req) :
    Between ios2 wireError
      (waiters ++ [.fired s2eventBuff]) where
  count := by
    have hEnds :
        waiters.countP (Event.isFired s2eventBuff) = 0 := by
      rw [List.countP_eq_zero]
      intro event hMem hFired
      obtain ⟨r, req, -, rfl⟩ := hWaiters event hMem
      exact absurd hFired Bool.false_ne_true
    rw [List.countP_append, hEnds, if_neg hError]
    rfl
  noCopy := by
    rw [List.any_append, Bool.or_eq_false_iff,
      List.any_eq_false]
    refine ⟨?_, rfl⟩
    intro event hMem hFailure
    obtain ⟨r, req, -, rfl⟩ := hWaiters event hMem
    exact absurd hFailure Bool.false_ne_true
  others := by
    intro req hMem
    rcases List.mem_append.mp hMem with hIn | hIn
    · obtain ⟨r, req', hOther, hSame⟩ := hWaiters _ hIn
      exact hOther (Event.terminated.inj hSame).1.symm
    · exact absurd (List.mem_singleton.mp hIn)
        Event.noConfusion

section Turn

variable {o : Outcome} {ios2 : APTR} {s s' : Driver}
variable {newer between : List Event}

/- The one end of the request in its turn. -/
theorem eq_of_mem_turn
    {req req' : IOSana2Req}
    {wireError : ULONG}
    (hBetween : Between ios2 wireError between)
    (hEvents : ∀ event ∈ newer, event.OfPacket)
    (hMem : Event.terminated ios2 req ∈
      .terminated ios2 req' :: between ++ newer) :
    req = req' := by
  rcases List.mem_append.mp hMem with hIn | hIn
  · rcases List.mem_cons.mp hIn with hSame | hLater
    · exact (Event.terminated.inj hSame).2
    · exact absurd hLater (hBetween.others req)
  · exact absurd (hEvents _ hIn) id

/- A turn is as it should be exactly if no old error was left
   and none was made up. -/
theorem turnExact_iff_of_handles
    (hHandles : Handles o ios2 s s' newer)
    (hBetween :
      Between ios2 (s'.reqs ios2).wireError between) :
    TurnExact ios2
        (.terminated ios2 (s'.reqs ios2) ::
          between ++ newer) ↔
      BuffErrorClear o ios2 s := by
  have hCount :
      (Event.terminated ios2 (s'.reqs ios2) ::
          between ++ newer).countP
        (Event.isFired s2eventBuff) =
      if (s'.reqs ios2).wireError = 0#32 then 0 else 1 := by
    rw [List.cons_append, List.countP_cons,
      List.countP_append, hBetween.count,
      countP_fired_of_packet hHandles.events]
    rfl
  have hAny :
      (Event.terminated ios2 (s'.reqs ios2) ::
          between ++ newer).any
        (Event.isCopyFailure ios2) =
      newer.any (Event.isCopyFailure ios2) := by
    rw [List.cons_append, List.any_cons, List.any_append,
      hBetween.noCopy]
    rfl
  by_cases hFails : CopyFails o ios2 s
  · have hFailed := hHandles.failed (Or.inl hFails)
    have hError : (s'.reqs ios2).wireError ≠ 0#32 := by
      rw [hFailed.1]
      decide
    refine iff_of_true ⟨?_, ?_⟩ (Or.inl hFails)
    · rw [hCount, hAny, if_neg hError,
        if_pos (hHandles.failure.mpr hFails)]
    · intro req hMem hClean
      rw [eq_of_mem_turn hBetween hHandles.events hMem]
        at hClean
      exact absurd hClean hFailed.2
  · have hWorked :
        ¬newer.any (Event.isCopyFailure ios2) = true :=
      fun hAny => hFails (hHandles.failure.mp hAny)
    constructor
    · intro hExact
      have hFired := hExact.fired
      rw [hCount, hAny, if_neg hWorked] at hFired
      have hNone : (s'.reqs ios2).wireError = 0#32 := by
        by_contra hError
        rw [if_neg hError] at hFired
        exact Nat.one_ne_zero hFired
      have hLength : SendableLength (s.reqs ios2) := by
        by_contra hNot
        rw [(hHandles.failed (Or.inr hNot)).1] at hNone
        exact absurd hNone (by decide)
      refine Or.inr ⟨hLength, ?_⟩
      rw [← hHandles.passed hLength hFails]
      exact hNone
    · intro hClear
      obtain ⟨hLength, hOld⟩ := hClear.resolve_left hFails
      have hNone : (s'.reqs ios2).wireError = 0#32 := by
        rw [hHandles.passed hLength hFails]
        exact hOld
      refine ⟨?_, ?_⟩
      · rw [hCount, hAny, if_neg hWorked, if_pos hNone]
      · intro req hMem _
        rw [eq_of_mem_turn hBetween hHandles.events hMem]
        exact hNone

/- One turn, and what the later ones find. -/
structure Turned
    (o : Outcome)
    (ios2 : APTR)
    (s s' : Driver)
    (turn : List Event) : Prop where
  grows : GrowsBy turn s s'
  exactly : TurnExact ios2 turn ↔ BuffErrorClear o ios2 s
  linked : s'.Linked
  events : ∀ r, r ∈ s'.lists .euEvents → r ∈ s.lists .euEvents
  reqs : ∀ r, r ≠ ios2 → r ∉ s.lists .euEvents →
    s'.reqs r = s.reqs r
  bms : s'.bms = s.bms

/- The packet has been handled and no error is left. -/
theorem turned_of_clean
    (hHandles : Handles o ios2 s s' newer)
    (hLinked : s.Linked)
    (hClean : (s'.reqs ios2).wireError = 0#32) :
    Turned o ios2 s (s'.termIo ios2)
      (.terminated ios2 (s'.reqs ios2) :: [] ++ newer) where
  grows := hHandles.grows.trans (grows_termIo s' ios2)
  exactly := by
    apply turnExact_iff_of_handles hHandles
    rw [hClean]
    exact between_nil
  linked := hLinked.congr
    ((lists_termIo s' ios2).trans hHandles.lists)
  events := by
    intro r hMem
    rw [lists_termIo, hHandles.lists] at hMem
    exact hMem
  reqs := by
    intro r hOther _
    rw [reqs_termIo_of_ne s' ios2 r hOther,
      hHandles.others r hOther]
  bms := (congrArg Rest.bms (rest_termIo s' ios2)).trans
    hHandles.bms

/- The packet has been handled and an error is left. -/
theorem turned_of_error
    (hHandles : Handles o ios2 s s' newer)
    (hLinked : s.Linked)
    (hFree : ios2 ∉ s.lists .euEvents)
    (hError : (s'.reqs ios2).wireError ≠ 0#32) :
    ∃ turn, Turned o ios2 s
      ((s'.doEvent s2eventBuff).termIo ios2) turn := by
  have hLinked' : s'.Linked := hLinked.congr hHandles.lists
  have hFree' : ios2 ∉ s'.lists .euEvents := by
    rw [hHandles.lists]
    exact hFree
  have hFires := firesExactly_doEvent s2eventBuff hLinked'
  have hSame : (s'.doEvent s2eventBuff).reqs ios2 =
      s'.reqs ios2 :=
    (spares_doEvent s' s2eventBuff hFree').reqs
  obtain ⟨waiters, hFired, hWaiters⟩ :=
    grows_doEvent_mem s2eventBuff s'
  have hEnded :=
    grows_termIo (s'.doEvent s2eventBuff) ios2
  rw [hSame] at hEnded
  have hBetween : Between ios2 (s'.reqs ios2).wireError
      (waiters ++ [.fired s2eventBuff]) := by
    apply between_fired hError
    intro event hMem
    obtain ⟨r, hIn, req, hEvent⟩ := hWaiters event hMem
    exact ⟨r, req, fun hOwn => hFree' (hOwn ▸ hIn), hEvent⟩
  refine ⟨.terminated ios2 (s'.reqs ios2) ::
    (waiters ++ [.fired s2eventBuff]) ++ newer, ?_⟩
  constructor
  case grows =>
    exact hHandles.grows.trans (hFired.trans hEnded)
  case exactly =>
    exact turnExact_iff_of_handles hHandles hBetween
  case linked =>
    exact (linked_doEvent s2eventBuff hLinked').congr
      (lists_termIo _ ios2)
  case events =>
    intro r hMem
    rw [lists_termIo, hFires.lists] at hMem
    rw [← hHandles.lists]
    exact List.mem_of_mem_filter hMem
  case reqs =>
    intro r hOther hIdle
    rw [← hHandles.lists] at hIdle
    rw [reqs_termIo_of_ne _ ios2 r hOther,
      (spares_doEvent s' s2eventBuff hIdle).reqs,
      hHandles.others r hOther]
  case bms =>
    have hRest := (rest_termIo (s'.doEvent s2eventBuff)
      ios2).trans (rest_doEvent s' s2eventBuff)
    exact (congrArg Rest.bms hRest).trans hHandles.bms

theorem turned_sendOne
    (hLinked : s.Linked)
    (hFree : ios2 ∉ s.lists .euEvents) :
    ∃ turn, Turned o ios2 s (sendOne o ios2 s) turn := by
  obtain ⟨newer, hHandles⟩ := @handles_handlePacket o ios2 s
  show ∃ turn, Turned o ios2 s
    ((if ((handlePacket o ios2 s).reqs ios2).wireError ≠ 0#32
      then (handlePacket o ios2 s).doEvent s2eventBuff
      else handlePacket o ios2 s).termIo ios2) turn
  by_cases hClean :
      ((handlePacket o ios2 s).reqs ios2).wireError = 0#32
  · rw [if_neg (not_not_intro hClean)]
    exact ⟨_, turned_of_clean hHandles hLinked hClean⟩
  · rw [if_pos hClean]
    exact turned_of_error hHandles hLinked hFree hClean

end Turn

------------------------------------------------------------
-- All Requests
------------------------------------------------------------

/- Whether a turn will be right depends on the request and its
   opener alone. -/
theorem buffErrorClear_congr
    {o : Outcome}
    {r : APTR}
    {s s' : Driver}
    (hReq : s'.reqs r = s.reqs r)
    (hBms : s'.bms = s.bms) :
    BuffErrorClear o r s' ↔ BuffErrorClear o r s := by
  unfold BuffErrorClear CopyFails dmaPacketBuffer
  rw [hReq, hBms]

section Drain

variable {o : Outcome} {s : Driver} {rs : List APTR}

/- By induction on the requests that are still to be sent.  The
   turns before have not touched them. -/
theorem forall_turns_iff
    (hLinked : s.Linked)
    (hNodup : rs.Nodup)
    (hFree : ∀ r ∈ rs, r ∉ s.lists .euEvents) :
    (∀ turn ∈ turns o rs s, TurnExact turn.1 turn.2) ↔
      ∀ r ∈ rs, BuffErrorClear o r s := by
  induction rs generalizing s with
  | nil => exact iff_of_true (by simp [turns]) (by simp)
  | cons ios2 rs ih =>
      have hTail := (List.nodup_cons.mp hNodup).2
      have hFree₁ :
          ∀ r ∈ ios2 :: rs,
            r ∉ (s.remove ios2).lists .euEvents :=
        fun r hIn hMem =>
          hFree r hIn (List.mem_of_mem_erase hMem)
      obtain ⟨turn, hTurn⟩ := turned_sendOne (o := o)
        hLinked.remove (hFree₁ ios2 List.mem_cons_self)
      have hFirst : BuffErrorClear o ios2 (s.remove ios2) ↔
          BuffErrorClear o ios2 s :=
        buffErrorClear_congr rfl rfl
      have hLater :
          (∀ r ∈ rs, BuffErrorClear o r
            (sendOne o ios2 (s.remove ios2))) ↔
          ∀ r ∈ rs, BuffErrorClear o r s := by
        apply forall₂_congr
        intro r hIn
        have hOther : r ≠ ios2 := fun hSame =>
          (List.nodup_cons.mp hNodup).1 (hSame ▸ hIn)
        exact buffErrorClear_congr
          (hTurn.reqs r hOther
            (hFree₁ r (List.mem_cons_of_mem ios2 hIn)))
          hTurn.bms
      have hRest := ih hTurn.linked hTail (fun r hIn hMem =>
        hFree₁ r (List.mem_cons_of_mem ios2 hIn)
          (hTurn.events r hMem))
      have hGrows : GrowsBy turn s
          (sendOne o ios2 (s.remove ios2)) :=
        hTurn.grows
      unfold turns
      rw [since_of_append hGrows, List.forall_mem_cons,
        List.forall_mem_cons, hTurn.exactly, hFirst, hRest,
        hLater]

/- The turns are the whole of what a drain adds. -/
theorem log_sendLoop
    (hLinked : s.Linked)
    (hFree : ∀ r ∈ rs, r ∉ s.lists .euEvents) :
    (sendLoop o rs s).log =
      ((turns o rs s).map Prod.snd).reverse.flatten ++
        s.log := by
  induction rs generalizing s with
  | nil => rfl
  | cons ios2 rs ih =>
      have hFree₁ :
          ∀ r ∈ ios2 :: rs,
            r ∉ (s.remove ios2).lists .euEvents :=
        fun r hIn hMem =>
          hFree r hIn (List.mem_of_mem_erase hMem)
      obtain ⟨turn, hTurn⟩ := turned_sendOne (o := o)
        hLinked.remove (hFree₁ ios2 List.mem_cons_self)
      have hRest := ih hTurn.linked (fun r hIn hMem =>
        hFree₁ r (List.mem_cons_of_mem ios2 hIn)
          (hTurn.events r hMem))
      have hGrows : (sendOne o ios2 (s.remove ios2)).log =
          turn ++ s.log :=
        hTurn.grows
      unfold sendLoop turns
      rw [hRest, since_of_append hGrows, hGrows]
      simp

end Drain

theorem log_sendAllPackets
    (o : Outcome)
    (s : Driver)
    (hLinked : s.Linked) :
    (sendAllPackets o s).log =
      ((drainTurns o s).map Prod.snd).reverse.flatten ++
        s.log :=
  log_sendLoop hLinked (fun r hIn hMem =>
    absurd (hLinked.apart .euTx .euEvents r hIn hMem)
      (by decide))

/- The event is exact if and only if no request of the queue
   came with an error, and none has a wrong length. -/
theorem exactDrain_iff
    (o : Outcome)
    (s : Driver)
    (hLinked : s.Linked) :
    ExactDrain o s ↔
      ∀ r ∈ s.lists .euTx, BuffErrorClear o r s :=
  forall_turns_iff hLinked (hLinked.once .euTx)
    (fun r hIn hMem =>
      absurd (hLinked.apart .euTx .euEvents r hIn hMem)
        (by decide))

------------------------------------------------------------
-- Writes That Are Submitted
------------------------------------------------------------

/- A write as it is handed to `sendAllPackets`. -/
def queuedWrite (ios2 : APTR) (s : Driver) : Driver :=
  (s.setReq ios2 (fun req =>
    { req with
      ioFlags := req.ioFlags &&& ~~~iofQuick
      lnType := ntMessage })).putMsg .euTx ios2

theorem devCmdWritePacket_of_fits
    {o : Outcome}
    {ios2 : APTR}
    {s : Driver}
    (hOnline : s.Online)
    (hFits : (s.reqs ios2).dataLength ≤ s.unit.mtu) :
    devCmdWritePacket o ios2 s =
      sendAllPackets o (queuedWrite ios2 s) := by
  unfold devCmdWritePacket
  rw [if_pos hOnline, if_pos hFits]
  rfl

theorem lists_queuedWrite
    (ios2 : APTR)
    (s : Driver)
    (head : ListHead) :
    (queuedWrite ios2 s).lists head =
      if head = .euTx then s.lists .euTx ++ [ios2]
      else s.lists head :=
  lists_addTail _ ios2 .euTx head

theorem mem_queuedWrite
    {ios2 r : APTR}
    {s : Driver}
    {head : ListHead}
    (hMem : r ∈ (queuedWrite ios2 s).lists head) :
    r ∈ s.lists head ∨ r = ios2 ∧ head = .euTx := by
  rw [lists_queuedWrite] at hMem
  split at hMem
  next hHead =>
    rcases List.mem_append.mp hMem with hOld | hNew
    · exact Or.inl (hHead ▸ hOld)
    · exact Or.inr ⟨List.mem_singleton.mp hNew, hHead⟩
  next => exact Or.inl hMem

/- A request that is in no list may be put into the queue. -/
theorem linked_queuedWrite
    {ios2 : APTR}
    {s : Driver}
    (hLinked : s.Linked)
    (hFree : ∀ head, ios2 ∉ s.lists head) :
    (queuedWrite ios2 s).Linked where
  once := by
    intro head
    rw [lists_queuedWrite]
    split
    next =>
      refine List.nodup_append.mpr
        ⟨hLinked.once .euTx, List.nodup_singleton ios2, ?_⟩
      rintro r hOld r' hNew rfl
      exact hFree .euTx (List.mem_singleton.mp hNew ▸ hOld)
    next => exact hLinked.once head
  apart := by
    intro head head' r hMem hMem'
    rcases mem_queuedWrite hMem with hOld | ⟨hNew, hHead⟩
    · rcases mem_queuedWrite hMem' with hOld' | ⟨hNew', -⟩
      · exact hLinked.apart head head' r hOld hOld'
      · exact absurd (hNew' ▸ hOld) (hFree head)
    · rcases mem_queuedWrite hMem' with hOld' | ⟨-, hHead'⟩
      · exact absurd (hNew ▸ hOld') (hFree head')
      · rw [hHead, hHead']

/- A write is sent, and its request used once more. -/
def reuseSteps : List Op :=
  .openDevice 7 0#32 0#32 (plainOpen 40) ::
    submitSteps 9 (plainPacket 0#8 100#32) ++
      submitSteps 8 (plainRequest s2ConfigInterface) ++
        [.serviceMsgPort plainOutcome]

/- The client has been told that the unit was offline. -/
def reusedWrite : Driver :=
  deviceMachine.run reuseSteps
    (loadedDriver (idleRegisters 0x1800#16))

/- The second time the packet is sent without an error, and
   still reported as a failure of the buffer management. -/
theorem not_exactDrain_reused :
    deviceMachine.Reach Machine.Free reusedWrite ∧
      (Op.beginIo 9 plainOutcome).Allowed reusedWrite ∧
      deviceBeginIo plainOutcome 9 reusedWrite =
        sendAllPackets plainOutcome
          (queuedWrite 9 (reusedWrite.dispatched 9)) ∧
      ¬ ExactDrain plainOutcome
        (queuedWrite 9 (reusedWrite.dispatched 9)) := by
  have hReach :
      deviceMachine.Reach Machine.Free reusedWrite :=
    Machine.reach_run _
      (Machine.Reach.start (start_loadedDriver _))
      (by decide +kernel)
  have hAllowed :
      (Op.beginIo 9 plainOutcome).Allowed reusedWrite := by
    decide +kernel
  refine ⟨hReach, hAllowed, ?_, ?_⟩
  · rw [deviceBeginIo_of_isWrite (by decide +kernel)]
    exact devCmdWritePacket_of_fits (by decide +kernel)
      (by decide +kernel)
  · have hCon := conserved_of_reach hReach
    have hFree : ∀ head, 9 ∉ reusedWrite.lists head :=
      fun head hMem => hAllowed.2 (hCon.outstanding hMem)
    have hLists : (reusedWrite.dispatched 9).lists =
        reusedWrite.lists :=
      (dispatched_dispatched 9 reusedWrite).lists
    have hLinked :
        (queuedWrite 9 (reusedWrite.dispatched 9)).Linked :=
      linked_queuedWrite (hCon.toLinked.congr hLists)
        (fun head hMem => hFree head (hLists ▸ hMem))
    have hQueue : (queuedWrite 9
        (reusedWrite.dispatched 9)).lists .euTx = [9] := by
      decide +kernel
    intro hExact
    have hClear := (forall_turns_iff hLinked
      (hLinked.once .euTx) (fun r hIn hMem =>
        absurd (hLinked.apart .euTx .euEvents r hIn hMem)
          (by decide))).mp hExact 9 (by
            rw [hQueue]
            exact List.mem_singleton_self 9)
    rcases hClear with hFails | hOld
    · exact absurd hFails.2.2 (by decide)
    · exact absurd hOld.2 (by decide +kernel)

/- The buffer of the first of two requests cannot be read. -/
def firstCopyFails : Outcome :=
  { plainOutcome with
    copyFromBuffer := fun ios2 => (ios2 != 9, fun _ => 0#8) }

/- Two packets are waiting to be sent. -/
def twoWrites : Driver :=
  queuedWrite 10
    (queuedWrite 9 (wantsToSend (plainPacket 0#8 100#32)))

theorem exactDrain_iff_twoWrites :
    twoWrites.lists .euTx = [9, 10] ∧
      ExactDrain firstCopyFails twoWrites := by
  have hReach : deviceMachine.Reach Machine.Free
      (wantsToSend (plainPacket 0#8 100#32)) :=
    Machine.reach_run _
      (Machine.Reach.start (start_loadedDriver _))
      (by decide +kernel)
  have hCon := conserved_of_reach hReach
  have hFree : ∀ r,
      (wantsToSend (plainPacket 0#8 100#32)).Owned r →
      ∀ head,
        r ∉ (wantsToSend (plainPacket 0#8 100#32)).lists head :=
    fun r hOwned head hMem => hOwned (hCon.outstanding hMem)
  have hFirst : (queuedWrite 9
      (wantsToSend (plainPacket 0#8 100#32))).Linked :=
    linked_queuedWrite hCon.toLinked
      (hFree 9 (by decide +kernel))
  have hLinked : twoWrites.Linked := by
    apply linked_queuedWrite hFirst
    intro head hMem
    rcases mem_queuedWrite hMem with hOld | ⟨hSame, -⟩
    · exact hFree 10 (by decide +kernel) head hOld
    · exact absurd hSame (by decide)
  have hQueue : twoWrites.lists .euTx = [9, 10] := by
    decide +kernel
  refine ⟨hQueue, ?_⟩
  rw [exactDrain_iff firstCopyFails twoWrites hLinked, hQueue,
    List.forall_mem_cons, List.forall_mem_singleton]
  refine ⟨Or.inl ⟨?_, Or.inr ?_, rfl⟩,
    Or.inr ⟨?_, by decide +kernel⟩⟩
  · unfold SendableLength
    decide +kernel
  · unfold dmaPacketBuffer
    split <;> rfl
  · unfold SendableLength
    decide +kernel

end KszDriver
