import KszDriver.Device.QueueSteps

/-
  What the handlers are made of.  A handler changes and ends
  requests that do not wait for an event, aborts requests,
  fires the events that the driver knows, queues requests for
  packets, and does things that no request sees.

  Main declarations:
    * `Driver.Work`, `Driver.Works`
    * `Driver.Workable`
    * `works_performIo`
    * `works_onPktReceived`
    * `works_deviceOpen`, `works_deviceClose`
-/

------------------------------------------------------------
-- Pieces of Work
------------------------------------------------------------

namespace KszDriver

namespace Driver

/- The request waits for events, or to be looked at. -/
def Parked (s : Driver) (r : APTR) : Prop :=
  r ∈ s.lists .euEvents ∨ r ∈ s.lists .unitMsgPort

/- No request is changed, ended or queued. -/
structure Unseen (s s' : Driver) : Prop where
  reqs : s'.reqs = s.reqs
  lists : ∀ head, (s'.lists head).Sublist (s.lists head)
  log : s'.log = s.log ∨
    ∃ event : Event, event.Neutral ∧ s'.log = event :: s.log

/- One piece of work. -/
inductive Work : Driver → Driver → Prop where
| unseen {s s' : Driver} (hUnseen : Unseen s s') : Work s s'
| changes {s : Driver} {r : APTR} (f : IOSana2Req → IOSana2Req)
    (hFree : ¬ s.Parked r)
    (hCommand : (f (s.reqs r)).ioCommand =
      (s.reqs r).ioCommand) : Work s (s.setReq r f)
| ends {s : Driver} {r : APTR}
    (hOther : (s.reqs r).ioCommand ≠ s2OnEvent) :
    Work s (s.termIo r)
| aborts {s : Driver} (r : APTR) : Work s (s.abortOne r)
| fires {s : Driver} (events : ULONG)
    (hKnown : events ∈ firedEvents) :
    Work s (s.doEvent events)
| queues {s : Driver} (r : APTR) (head : ListHead)
    (hEvents : head ≠ .euEvents)
    (hPort : head ≠ .unitMsgPort) : Work s (s.addTail head r)

/- Any amount of work. -/
def Works : Driver → Driver → Prop :=
  Relation.ReflTransGen Work

variable {s s' s'' : Driver} {r ios2 : APTR}

------------------------------------------------------------
-- What No Work Does
------------------------------------------------------------

theorem reqs_doEventLoop_command
    (events : ULONG)
    (rs : List APTR)
    (s : Driver)
    (r : APTR) :
    ((doEventLoop events rs s).reqs r).ioCommand =
      (s.reqs r).ioCommand := by
  induction rs generalizing s with
  | nil => rfl
  | cons other rs ih =>
      unfold doEventLoop
      split
      · rw [ih, reqs_termIo]
        by_cases hSame : r = other
        · subst hSame
          split <;> simp [setErrorOnRequest]
        · rw [if_neg (fun hBoth => hSame hBoth.1)]
          simp [setErrorOnRequest, hSame]
      · exact ih s

theorem sublist_doEventLoop
    (events : ULONG)
    (rs : List APTR)
    (s : Driver)
    (head : ListHead) :
    ((doEventLoop events rs s).lists head).Sublist
      (s.lists head) := by
  induction rs generalizing s with
  | nil => exact List.Sublist.refl _
  | cons other rs ih =>
      unfold doEventLoop
      split
      · have hRest := ih (((s.setErrorOnRequest other 0
          events).remove other).termIo other)
        rw [lists_termIo] at hRest
        exact hRest.trans List.erase_sublist
      · exact ih s

/- The command of a request stays. -/
theorem Work.command
    (hWork : Work s s')
    (r : APTR) :
    (s'.reqs r).ioCommand = (s.reqs r).ioCommand := by
  cases hWork with
  | unseen hUnseen => rw [hUnseen.reqs]
  | @changes other f hFree hCommand =>
      rw [reqs_setReq]
      split
      next hSame => rw [hSame, hCommand]
      next => rfl
  | @ends other hOther =>
      rw [reqs_termIo]
      split
      next hSame => rw [hSame.1]
      next => rfl
  | aborts other =>
      unfold abortOne
      rw [reqs_termIo]
      by_cases hSame : r = other
      · subst hSame
        split <;> simp
      · rw [if_neg (fun hBoth => hSame hBoth.1)]
        simp [hSame]
  | fires events hKnown =>
      exact reqs_doEventLoop_command events _ _ r
  | queues other head hEvents hPort => rfl

/- Nobody else begins to wait. -/
theorem Work.lists
    {head : ListHead}
    (hWork : Work s s')
    (hHead : head = .euEvents ∨ head = .unitMsgPort) :
    (s'.lists head).Sublist (s.lists head) := by
  cases hWork with
  | unseen hUnseen => exact hUnseen.lists head
  | changes f hFree hCommand => exact List.Sublist.refl _
  | ends hOther => rw [lists_termIo]
  | aborts other =>
      unfold abortOne
      rw [lists_termIo]
      exact List.erase_sublist
  | fires events hKnown =>
      exact sublist_doEventLoop events _ _ head
  | queues other port hEvents hPort =>
      have hOther : head ≠ port := by
        rcases hHead with rfl | rfl
        · exact hEvents.symm
        · exact hPort.symm
      rw [lists_addTail, if_neg hOther]

theorem Works.command
    (hWorks : Works s s')
    (r : APTR) :
    (s'.reqs r).ioCommand = (s.reqs r).ioCommand := by
  induction hWorks with
  | refl => rfl
  | tail hBefore hWork ih => rw [hWork.command, ih]

theorem Works.parked
    (hWorks : Works s s')
    (hParked : s'.Parked r) :
    s.Parked r := by
  induction hWorks with
  | refl => exact hParked
  | tail hBefore hWork ih =>
      exact ih (hParked.imp (hWork.lists (Or.inl rfl)).mem
        (hWork.lists (Or.inr rfl)).mem)

------------------------------------------------------------
-- Building Work
------------------------------------------------------------

/- A handler may work on the request. -/
structure Workable (s : Driver) (r : APTR) : Prop where
  free : ¬ s.Parked r
  command : (s.reqs r).ioCommand ≠ s2OnEvent

namespace Works

theorem refl : Works s s :=
  Relation.ReflTransGen.refl

theorem trans
    (hFirst : Works s s')
    (hSecond : Works s' s'') :
    Works s s'' :=
  Relation.ReflTransGen.trans hFirst hSecond

theorem workable
    (hWorks : Works s s')
    (hHand : s.Workable r) :
    s'.Workable r where
  free := fun hParked => hHand.free (hWorks.parked hParked)
  command := by
    rw [hWorks.command]
    exact hHand.command

theorem ite
    {c : Prop} [Decidable c]
    {s₁ s₂ : Driver}
    (hThen : c → Works s s₁)
    (hElse : ¬ c → Works s s₂) :
    Works s (if c then s₁ else s₂) := by
  by_cases hCond : c
  · rw [if_pos hCond]
    exact hThen hCond
  · rw [if_neg hCond]
    exact hElse hCond

/- Something is done that no request sees. -/
theorem same
    (hWorks : Works s s')
    (hReqs : s''.reqs = s'.reqs)
    (hLists : s''.lists = s'.lists)
    (hLog : s''.log = s'.log) :
    Works s s'' := by
  apply Relation.ReflTransGen.tail hWorks
  exact .unseen
    { reqs := hReqs
      lists := fun head => by rw [hLists]
      log := Or.inl hLog }

theorem noted
    (hWorks : Works s s')
    (event : Event)
    (hNeutral : event.Neutral)
    (hReqs : s''.reqs = s'.reqs)
    (hLists : s''.lists = s'.lists)
    (hLog : s''.log = event :: s'.log) :
    Works s s'' := by
  apply Relation.ReflTransGen.tail hWorks
  exact .unseen
    { reqs := hReqs
      lists := fun head => by rw [hLists]
      log := Or.inr ⟨event, hNeutral, hLog⟩ }

theorem record
    (hWorks : Works s s')
    (event : Event)
    (hNeutral : event.Neutral) :
    Works s (s'.record event) :=
  hWorks.noted event hNeutral rfl rfl rfl

theorem cut
    (hWorks : Works s s')
    (hReqs : s''.reqs = s'.reqs)
    (hLists : ∀ head,
      (s''.lists head).Sublist (s'.lists head))
    (hLog : s''.log = s'.log) :
    Works s s'' := by
  apply Relation.ReflTransGen.tail hWorks
  exact .unseen
    { reqs := hReqs
      lists := hLists
      log := Or.inl hLog }

theorem remove
    (hWorks : Works s s')
    (r : APTR) :
    Works s (s'.remove r) :=
  hWorks.cut rfl (fun _ => List.erase_sublist) rfl

theorem setReq
    (hWorks : Works s s')
    (hFree : ¬ s.Parked r)
    (f : IOSana2Req → IOSana2Req)
    (hCommand : ∀ req, (f req).ioCommand = req.ioCommand) :
    Works s (s'.setReq r f) := by
  apply Relation.ReflTransGen.tail hWorks
  exact .changes f (fun hParked => hFree (hWorks.parked hParked))
    (hCommand _)

theorem termIo
    (hWorks : Works s s')
    (hOther : (s.reqs r).ioCommand ≠ s2OnEvent) :
    Works s (s'.termIo r) := by
  apply Relation.ReflTransGen.tail hWorks
  apply Work.ends
  rw [hWorks.command]
  exact hOther

theorem doEvent
    (hWorks : Works s s')
    (events : ULONG)
    (hKnown : events ∈ firedEvents) :
    Works s (s'.doEvent events) :=
  Relation.ReflTransGen.tail hWorks (.fires events hKnown)

theorem addTail
    {head : ListHead}
    (hWorks : Works s s')
    (hEvents : head ≠ .euEvents)
    (hPort : head ≠ .unitMsgPort) :
    Works s (s'.addTail head r) :=
  Relation.ReflTransGen.tail hWorks
    (.queues r head hEvents hPort)

theorem abortOne
    (hWorks : Works s s')
    (r : APTR) :
    Works s (s'.abortOne r) :=
  Relation.ReflTransGen.tail hWorks (.aborts r)

theorem runNic
    {α : Type}
    (hWorks : Works s s')
    (p : NicM α) :
    Works s (s'.runNic p) :=
  hWorks.same rfl rfl rfl

theorem setUnit
    (hWorks : Works s s')
    (f : DeviceDriverUnit → DeviceDriverUnit) :
    Works s (s'.setUnit f) :=
  hWorks.same rfl rfl rfl

theorem setBase
    (hWorks : Works s s')
    (f : DeviceBase → DeviceBase) :
    Works s (s'.setBase f) :=
  hWorks.same rfl rfl rfl

end Works

end Driver

open Driver

------------------------------------------------------------
-- Sending
------------------------------------------------------------

section Handlers

variable {o : Outcome} {ios2 : APTR} {s s' : Driver}

theorem works_copyFromBuffer
    (o : Outcome)
    (ios2 : APTR)
    (hWorks : Works s s')
    (offset : Nat) :
    Works s (s'.copyFromBuffer o ios2 offset) :=
  hWorks.noted (.copiedFromBuffer ios2 _) trivial rfl rfl rfl

theorem works_runSend
    (hWorks : Works s s')
    (p : NicM ErrorT) :
    Works s (s'.runSend ios2 p) :=
  hWorks.noted (.sent ios2 _) trivial rfl rfl rfl

theorem works_setError
    (hWorks : Works s s')
    (hHand : s.Workable ios2)
    (ioError : Int)
    (wireError : ULONG) :
    Works s (s'.setErrorOnRequest ios2 ioError wireError) :=
  hWorks.setReq hHand.free _ (by intro _; rfl)

theorem works_sendRaw
    (hWorks : Works s s')
    (hHand : s.Workable ios2) :
    Works s (sendRaw o ios2 s') := by
  have hCopied :=
    works_copyFromBuffer o ios2 hWorks 0
  exact Works.ite
    (fun _ => Works.ite
      (fun _ => works_runSend hCopied _)
      (fun _ => works_setError hCopied hHand _ _))
    (fun _ => works_setError hWorks hHand _ _)

theorem works_sendCooked
    (hWorks : Works s s')
    (hHand : s.Workable ios2) :
    Works s (sendCooked o ios2 s') := by
  have hStored : Works s (storeHeader ios2 s') :=
    hWorks.same rfl rfl rfl
  have hCopied :=
    works_copyFromBuffer o ios2 hStored etherPacketHeadSize
  unfold sendCooked
  apply Works.ite
  · intro _
    cases dmaPacketBuffer o ios2 s' with
    | some packet => exact works_runSend hWorks _
    | none =>
        exact Works.ite
          (fun _ => works_runSend hCopied _)
          (fun _ => works_setError hCopied hHand _ _)
  · intro _
    exact works_setError hWorks hHand _ _

theorem works_sendOne
    (hWorks : Works s s')
    (hHand : s.Workable ios2) :
    Works s (sendOne o ios2 s') := by
  have hSent :
      Works s (if (s'.reqs ios2).Raw then sendRaw o ios2 s'
        else sendCooked o ios2 s') :=
    Works.ite (fun _ => works_sendRaw hWorks hHand)
      (fun _ => works_sendCooked hWorks hHand)
  exact Works.termIo
    (Works.ite (fun _ => hSent.doEvent s2eventBuff (by decide))
      (fun _ => hSent)) hHand.command

/- What waits to be sent may be worked on. -/
def Driver.Sendable (s : Driver) : Prop :=
  ∀ r ∈ s.lists .euTx, s.Workable r

------------------------------------------------------------
-- Performing
------------------------------------------------------------

/- An act on a request that may be worked on. -/
theorem works_act
    {waiting : List APTR}
    {t t' : Driver}
    (hAct : Act o ios2 waiting t t')
    (hWorks : Works s t)
    (hHand : s.Workable ios2)
    (hHands : ∀ r ∈ waiting, s.Workable r) :
    Works s t' := by
  cases hAct with
  | setReq f hCommand =>
      exact hWorks.setReq hHand.free f hCommand
  | setUnit f hSparing => exact hWorks.setUnit f
  | runNic p => exact hWorks.runNic p
  | setQuery query f => exact hWorks.same rfl rfl rfl
  | queues head hPort hEvents =>
      have hOther : head ≠ .euEvents :=
        fun hHead =>
          (hWorks.workable hHand).command (hEvents hHead)
      exact hWorks.addTail hOther hPort
  | sends r hWaits =>
      exact works_sendOne (hWorks.remove r) (hHands r hWaits)
  | aborts r => exact hWorks.abortOne r
  | fires events hKnown => exact hWorks.doEvent events hKnown
  | ends => exact hWorks.termIo hHand.command

/- Performing any request but one that waits for an event. -/
theorem works_performIo
    (hWorks : Works s s')
    (hHand : s.Workable ios2)
    (hQueue : s'.lists .euTx = s.lists .euTx)
    (hSendable : s.Sendable) :
    Works s (performIo o ios2 s') := by
  have hHands : ∀ r ∈ ios2 :: s'.lists .euTx,
      s.Workable r := by
    intro r hIn
    rcases List.mem_cons.mp hIn with rfl | hWaits
    · exact hHand
    · exact hSendable r (hQueue ▸ hWaits)
  exact performIo_rule hWorks
    (fun _ _ hAct hBefore =>
      works_act hAct hBefore hHand hHands)

end Handlers

------------------------------------------------------------
-- Reception
------------------------------------------------------------

section Packets

variable (o : Outcome) (buffer : Memory) (size : UWORD)
variable {r : APTR} {s s' : Driver}

theorem ne_s2OnEvent_of_isWrite
    {command : UWORD}
    (hWrite : IsWrite command) :
    command ≠ s2OnEvent := by
  rcases hWrite with rfl | rfl | rfl
  · decide
  · decide
  · decide

/- What waits for packets may be worked on. -/
theorem Driver.Orderly.workable
    {head : ListHead}
    (hOrderly : s.Orderly)
    (hMem : r ∈ s.lists head)
    (hEvents : head ≠ .euEvents)
    (hPort : head ≠ .unitMsgPort) :
    s.Workable r where
  free := by
    rintro (hIn | hIn)
    · exact hEvents (hOrderly.apart head _ r hMem hIn)
    · exact hPort (hOrderly.apart head _ r hMem hIn)
  command := by
    have hFor := hOrderly.isFor head r hMem
    cases head with
    | unitMsgPort => exact absurd rfl hPort
    | euEvents => exact absurd rfl hEvents
    | bmRxQueue bm =>
        rw [show (s.reqs r).ioCommand = cmdRead from hFor.1]
        decide
    | euReadOrphan =>
        rw [show (s.reqs r).ioCommand = s2ReadOrphan from hFor]
        decide
    | euTx => exact ne_s2OnEvent_of_isWrite hFor

theorem Driver.Orderly.sendable
    (hOrderly : s.Orderly) :
    s.Sendable :=
  fun _ hMem => hOrderly.workable hMem (by decide) (by decide)

theorem works_fulfillReadIORequest
    (head : ListHead)
    (hHand : s.Workable r) :
    Works s (fulfillReadIORequest o head r buffer size s).2
    := by
  have hDescribed :
      Works s (s.setReq r (describePacket buffer size)) :=
    Works.refl.setReq hHand.free _ (by intro _; rfl)
  unfold fulfillReadIORequest
  dsimp only
  split
  · split
    · split
      · have hCopied :=
          (hDescribed.record (.copiedToBuffer r
            (deliveredBytes buffer size (s.reqs r)))
              trivial).record (.offered head r true) trivial
        exact (hCopied.remove r).termIo hHand.command
      · have hOffered :=
          hDescribed.record (.offered head r false) trivial
        exact (((works_setError hOffered hHand _ _).doEvent
          s2eventBuff (by decide)).remove r).termIo
            hHand.command
    · exact hDescribed.record (.offered head r false) trivial
  · exact Works.refl.record (.offered head r false) trivial

theorem works_onPktReceived
    (hOrderly : s.Orderly) :
    Works s (onPktReceived o buffer size s) := by
  -- the lists stay orderly while the packet is offered
  have hKept :
      Thins s (onPktReceived o buffer size s) ∧
        Works s (onPktReceived o buffer size s) := by
    apply onPktReceived_rule
      (I := fun t => Thins s t ∧ Works s t)
    · rintro t head r hMem hEvents hPort ⟨hThins, hWorks⟩
      have hNow := hOrderly.thins hThins
      have hOffered := works_fulfillReadIORequest o buffer size
        head (hNow.workable hMem hEvents hPort)
      exact ⟨hThins.trans (hNow.fulfillReadIORequest o buffer
        size hMem hEvents hPort), hWorks.trans hOffered⟩
    · exact ⟨Thins.refl, Works.refl⟩
  exact hKept.2

end Packets

------------------------------------------------------------
-- Entry Points
------------------------------------------------------------

section Entry

variable {o : Outcome} {ios2 : APTR} {s s' : Driver}

theorem works_initUnitProcess
    (hWorks : Works s s')
    (env : OpenEnv) :
    Works s (initUnitProcess env s') := by
  unfold initUnitProcess
  apply Works.ite
  · intro _
    exact hWorks
  · intro _
    apply Works.ite
    · intro _
      have hCut : ∀ head,
          (newLists s'.lists head).Sublist (s'.lists head) := by
        intro head
        cases head with
        | bmRxQueue bm => exact List.Sublist.refl _
        | _ => exact List.nil_sublist _
      exact hWorks.cut rfl hCut rfl
    · intro _
      exact hWorks

theorem works_addOpener
    (hWorks : Works s s')
    (hFree : ¬ s.Parked ios2)
    (env : OpenEnv) :
    Works s (addOpener ios2 env s') := by
  have hCut : ∀ head,
      (Function.update s'.lists (.bmRxQueue env.bm) []
        head).Sublist (s'.lists head) := by
    intro head
    rw [Function.update_apply]
    split
    · exact List.nil_sublist _
    · exact List.Sublist.refl _
  unfold addOpener
  dsimp only
  refine Works.setReq ?_ hFree _ (by intro _; rfl)
  exact hWorks.cut rfl hCut rfl

theorem works_deviceOpen
    (hFree : ¬ s.Parked ios2)
    (s2unit s2flags : ULONG)
    (env : OpenEnv) :
    Works s (deviceOpen ios2 s2unit s2flags env s) := by
  apply deviceOpen_rule (I := Works s) (J := Works s)
  · intro t flags count hWorks
    exact hWorks.setBase _
  · intro t count hWorks
    exact hWorks.setBase _
  · intro t hWorks
    exact hWorks.runNic _
  · intro t hWorks
    exact works_initUnitProcess hWorks env
  · intro t hWorks
    exact hWorks.setReq hFree _ (by intro _; rfl)
  · intro t _ _ hWorks
    exact works_addOpener hWorks hFree env
  · exact Works.refl

theorem works_deviceExpunge
    (hWorks : Works s s') :
    Works s (deviceExpunge s').2 := by
  rw [deviceExpunge_setBase]
  exact hWorks.setBase _

theorem works_expungeUnit
    (hWorks : Works s s') :
    Works s (expungeUnit s') :=
  Works.ite
    (fun _ => ((hWorks.setUnit _).runNic _).setBase _)
    (fun _ => hWorks)

theorem works_deviceClose
    (hFree : ¬ s.Parked ios2) :
    Works s (deviceClose ios2 s).2 := by
  have hKept : KeptByClose ios2 (Works s) :=
    { abortOne := fun _ r hWorks => hWorks.abortOne r
      erase := fun _ _ hWorks => hWorks.setUnit _
      setReq := fun _ f hSame hWorks =>
        hWorks.setReq hFree f hSame
      setBase := fun _ _ _ hWorks => hWorks.setBase _
      countDown := fun _ hWorks => hWorks.setUnit _
      expungeUnit := fun _ hWorks => works_expungeUnit hWorks }
  exact hKept.deviceClose Works.refl

theorem works_deviceAbortIo (r : APTR) :
    Works s (deviceAbortIo r s).2 := by
  rcases deviceAbortIo_cases r s with hSame | ⟨-, hAborted⟩
  · rw [hSame]
    exact Works.refl
  · rw [hAborted]
    exact Works.refl.abortOne r

end Entry

end KszDriver
