import KszDriver.Device.Locking

/-
  The order in which the driver obtains its semaphores, and
  what it uses under which one.

  Main declarations:
    * `DriverLock.rank`, `SharedList.guard`
    * `LockRule`, `DriverCall.obeys`
    * `calls_return`
    * `exists_race_iff`
-/

------------------------------------------------------------
-- The Rule
------------------------------------------------------------

namespace KszDriver

open SemAct

/- Semaphores are obtained in this order. -/
def DriverLock.rank : DriverLock → Nat
| .edDeviceLock => 0
| .euBuffMgmtLock => 1
| .bmRxQueueLock _ => 2
| .euReadOrphanLock => 2
| .euTrackLock => 2
| .forbid => 3

/- What each list is guarded by.  The list of the openers is
   not always used under `eu_BuffMgmtLock`. -/
def SharedList.guard : SharedList → Option DriverLock
| .requests head => some (queueLock head)
| .euBuffMgmt => none
| .euTrack => some .euTrackLock

/-
  What the task `t` may do with these semaphores.  Openers
  are added and removed under `ed_DeviceLock`, and looked at
  under `eu_BuffMgmtLock` or without any semaphore.
-/
structure LockRule
    (t : DriverTask)
    (held : List DriverLock)
    (a : LockAct) : Prop where
  order : a.InOrder DriverLock.rank 1 held
  guarded : a.Guarded SharedList.guard held
  server : t = .unitProcess → a.ByServer DriverLock.rank 1
  writes : a = .writes .euBuffMgmt → .edDeviceLock ∈ held
  reads : a = .reads .euBuffMgmt →
    .euBuffMgmtLock ∈ held ∨ held = []

section Rules

variable {t : DriverTask} {held : List DriverLock}
variable {acts : List LockAct} {l : DriverLock}

theorem lockRule_obtains
    (hAbove : ∀ k ∈ held, k.rank < l.rank)
    (hServer : t = .unitProcess → 1 ≤ l.rank) :
    LockRule t held (.obtains l) where
  order := Or.inr hAbove
  guarded := by
    rintro x (hUses | hUses) <;> cases hUses
  server := hServer
  writes := nofun
  reads := nofun

theorem lockRule_releases :
    LockRule t (l :: held) (.releases l) where
  order := List.mem_cons_self
  guarded := by
    rintro x (hUses | hUses) <;> cases hUses
  server := fun _ => trivial
  writes := nofun
  reads := nofun

/- A queue of requests is used under its semaphore. -/
theorem lockRule_requests
    (head : ListHead)
    {a : LockAct}
    (hHeld : queueLock head ∈ held)
    (hUses : a.Uses (.requests head)) :
    LockRule t held a := by
  rcases hUses with rfl | rfl
  all_goals
    refine ⟨trivial, ?_, fun _ => trivial, nofun, nofun⟩
    rintro x (hSame | hSame) l hGuard <;> cases hSame
    cases hGuard
    exact hHeld

theorem lockRule_track
    {a : LockAct}
    (hHeld : .euTrackLock ∈ held)
    (hUses : a.Uses .euTrack) :
    LockRule t held a := by
  rcases hUses with rfl | rfl
  all_goals
    refine ⟨trivial, ?_, fun _ => trivial, nofun, nofun⟩
    rintro x (hSame | hSame) l hGuard <;> cases hSame
    cases hGuard
    exact hHeld

theorem lockRule_reads
    (hHeld : .euBuffMgmtLock ∈ held ∨ held = []) :
    LockRule t held (.reads .euBuffMgmt) := by
  refine ⟨trivial, ?_, fun _ => trivial, nofun, fun _ => hHeld⟩
  rintro x (hSame | hSame) l hGuard <;> cases hSame
  cases hGuard

theorem lockRule_writes
    (hHeld : .edDeviceLock ∈ held) :
    LockRule t held (.writes .euBuffMgmt) := by
  refine ⟨trivial, ?_, fun _ => trivial, fun _ => hHeld, nofun⟩
  rintro x (hSame | hSame) l hGuard <;> cases hSame
  cases hGuard

/- The unit process is waited for by clients, with no
   semaphore but `ed_DeviceLock`. -/
theorem lockRule_awaits
    (hHeld : ∀ k ∈ held, k.rank < 1)
    (hClient : t ≠ .unitProcess) :
    LockRule t held .awaits where
  order := hHeld
  guarded := by
    rintro x (hUses | hUses) <;> cases hUses
  server := fun hSame => absurd hSame hClient
  writes := nofun
  reads := nofun

theorem keeps_lock
    (hAbove : ∀ k ∈ held, k.rank < l.rank)
    (hServer : t = .unitProcess → 1 ≤ l.rank)
    (hInside : Keeps (LockRule t) (l :: held) acts) :
    Keeps (LockRule t) held (under l acts) :=
  keeps_under (lockRule_obtains hAbove hServer)
    lockRule_releases hInside

/- The first semaphore. -/
theorem keeps_outer
    (hServer : t = .unitProcess → 1 ≤ l.rank)
    (hInside : Keeps (LockRule t) [l] acts) :
    Keeps (LockRule t) [] (under l acts) :=
  keeps_lock (fun _ hNone => nomatch hNone) hServer hInside

/- One act that leaves the semaphores alone. -/
theorem keeps_one
    {a : LockAct}
    (hRule : LockRule t held a)
    (hSame : a.stack held = held) :
    Keeps (LockRule t) held [a] :=
  keeps_cons hRule hSame keeps_nil

theorem keeps_ite
    {c : Prop} [Decidable c]
    {a : LockAct}
    (hRule : LockRule t held a)
    (hSame : a.stack held = held) :
    Keeps (LockRule t) held (if c then [a] else []) := by
  split
  · exact keeps_one hRule hSame
  · exact keeps_nil

------------------------------------------------------------
-- Parts of Calls
------------------------------------------------------------

theorem keeps_walk
    {x : SharedList}
    (passed : Nat)
    (hReads : LockRule t held (.reads x)) :
    Keeps (LockRule t) held (walk passed x) := by
  unfold walk
  induction passed with
  | zero => exact keeps_one hReads rfl
  | succ passed ih => exact keeps_cons hReads rfl ih

theorem keeps_walkAndRemove
    {x : SharedList}
    (removed : Nat)
    (hReads : LockRule t held (.reads x))
    (hWrites : LockRule t held (.writes x)) :
    Keeps (LockRule t) held (walkAndRemove removed x) :=
  keeps_cons hReads rfl (keeps_flatMap _ (fun _ _ =>
    keeps_cons hWrites rfl (keeps_one hReads rfl)))

theorem keeps_lockAbortReqList
    (head : ListHead)
    (count : Nat)
    (hHeld : queueLock head ∈ held) :
    Keeps (LockRule t) held (lockAbortReqList count head) :=
  keeps_walkAndRemove count
    (lockRule_requests head hHeld (Or.inl rfl))
    (lockRule_requests head hHeld (Or.inr rfl))

/- Below `Forbid` there is always room for it. -/
theorem keeps_forbid
    (hBelow : ∀ k ∈ held, k.rank < 3)
    (hInside : Keeps (LockRule t) (.forbid :: held) acts) :
    Keeps (LockRule t) held (under .forbid acts) :=
  keeps_lock hBelow (fun _ => by decide) hInside

theorem keeps_portAccess
    {port : ListHead}
    (hBelow : ∀ k ∈ held, k.rank < 3)
    (hPort : queueLock port = .forbid) :
    Keeps (LockRule t) held (portAccess port) := by
  apply keeps_forbid hBelow
  apply keeps_one _ rfl
  apply lockRule_requests port _ (Or.inr rfl)
  rw [hPort]
  exact List.mem_cons_self

theorem keeps_lockDoEvent
    (waiters : Nat)
    (hBelow : ∀ k ∈ held, k.rank < 3) :
    Keeps (LockRule t) held (lockDoEvent waiters) :=
  keeps_forbid hBelow
    (keeps_lockAbortReqList .euEvents waiters
      List.mem_cons_self)

theorem keeps_lockFulfillReadIORequest
    {head : ListHead}
    (offering : Offering)
    (hBelow : ∀ k ∈ held, k.rank < 3)
    (hHeld : queueLock head ∈ held) :
    Keeps (LockRule t) held
      (lockFulfillReadIORequest head offering) := by
  have hRemove :=
    keeps_one
      (lockRule_requests (t := t) head hHeld (Or.inr rfl)) rfl
  cases offering with
  | refused => exact keeps_nil
  | copied => exact hRemove
  | failed waiters =>
      exact (keeps_lockDoEvent waiters hBelow).append hRemove

/- An opener is looked after with `eu_BuffMgmtLock`. -/
theorem keeps_lockOfferTo
    (opener : APTR × Nat × Option Offering) :
    Keeps (LockRule t) [.euBuffMgmtLock]
      (lockOfferTo opener) := by
  have hHeld : queueLock (.bmRxQueue opener.1) ∈
      [DriverLock.bmRxQueueLock opener.1, .euBuffMgmtLock] :=
    List.mem_cons_self
  apply Keeps.append
  · apply keeps_lock
    · simp [DriverLock.rank]
    · exact fun _ => by simp [DriverLock.rank]
    · apply Keeps.append
      · exact keeps_walk _
          (lockRule_requests _ hHeld (Or.inl rfl))
      · split
        · exact keeps_lockFulfillReadIORequest _
            (by simp [DriverLock.rank]) hHeld
        · exact keeps_nil
  · exact keeps_one
      (lockRule_reads (Or.inl List.mem_cons_self)) rfl

theorem keeps_lockOnPktReceived (path : PacketPath) :
    Keeps (LockRule t) [] (lockOnPktReceived path) := by
  apply Keeps.append
  · apply keeps_outer (fun _ => by decide)
    exact keeps_cons
      (lockRule_reads (Or.inl List.mem_cons_self)) rfl
      (keeps_flatMap _ (fun opener _ =>
        keeps_lockOfferTo opener))
  · split
    · exact keeps_nil
    · have hHeld : queueLock .euReadOrphan ∈
          [DriverLock.euReadOrphanLock] :=
        List.mem_cons_self
      apply keeps_outer (fun _ => by decide)
      apply keeps_cons
        (lockRule_requests _ hHeld (Or.inl rfl)) rfl
      split
      · exact keeps_lockFulfillReadIORequest _
          (by simp [DriverLock.rank]) hHeld
      · exact keeps_nil

theorem keeps_lockSendAllPackets
    (reports : List (Option Nat)) :
    Keeps (LockRule t) [] (lockSendAllPackets reports) := by
  apply Keeps.append
  · apply keeps_flatMap
    intro report _
    apply (keeps_portAccess (by simp) rfl).append
    split
    · exact keeps_lockDoEvent _ (by simp)
    · exact keeps_nil
  · exact keeps_portAccess (by simp) rfl

theorem keeps_lockDevCmdFlush (path : FlushPath) :
    Keeps (LockRule t) [] (lockDevCmdFlush path) := by
  apply Keeps.append
  · apply keeps_outer (fun _ => by decide)
    apply keeps_cons
      (lockRule_reads (Or.inl List.mem_cons_self)) rfl
    apply keeps_flatMap
    intro opener _
    apply Keeps.append
    · apply keeps_lock
      · simp [DriverLock.rank]
      · exact fun _ => by simp [DriverLock.rank]
      · exact keeps_lockAbortReqList (.bmRxQueue _) _
          List.mem_cons_self
    · exact keeps_one
        (lockRule_reads (Or.inl List.mem_cons_self)) rfl
  · apply keeps_forbid (by simp)
    exact (keeps_lockAbortReqList .euTx _
      List.mem_cons_self).append (keeps_lockAbortReqList
        .euEvents _ List.mem_cons_self)

------------------------------------------------------------
-- Calls
------------------------------------------------------------

theorem LockingCommand.keeps (command : LockingCommand) :
    Keeps (LockRule t) [] command.acts := by
  cases command with
  | writePacket reports =>
      exact (keeps_portAccess (by simp) rfl).append
        (keeps_lockSendAllPackets reports)
  | writeTooLong waiters => exact keeps_lockDoEvent _ (by simp)
  | readPacket passed found =>
      apply Keeps.append
      · apply keeps_outer (fun _ => by decide)
        apply Keeps.append
        · exact keeps_walk _
            (lockRule_reads (Or.inl List.mem_cons_self))
        · split
          · apply keeps_lock
            · simp [DriverLock.rank]
            · exact fun _ => by simp [DriverLock.rank]
            · exact keeps_one (lockRule_requests (.bmRxQueue _)
                List.mem_cons_self (Or.inr rfl)) rfl
          · exact keeps_nil
      · exact keeps_one (lockRule_reads (Or.inr rfl)) rfl
  | readOrphan =>
      exact keeps_outer (fun _ => by decide) (keeps_one
        (lockRule_requests .euReadOrphan List.mem_cons_self
          (Or.inr rfl)) rfl)
  | flush path => exact keeps_lockDevCmdFlush path
  | onEvent =>
      exact keeps_outer (fun _ => by decide) (keeps_one
        (lockRule_requests .euEvents List.mem_cons_self
          (Or.inr rfl)) rfl)
  | goesOnline waiters => exact keeps_lockDoEvent _ (by simp)
  | goesOffline waiters path =>
      exact (keeps_lockDoEvent _ (by simp)).append
        (keeps_lockDevCmdFlush path)
  | trackType passed added =>
      apply keeps_outer (fun _ => by decide)
      exact (keeps_walk _ (lockRule_track List.mem_cons_self
        (Or.inl rfl))).append (keeps_ite (lockRule_track
          List.mem_cons_self (Or.inr rfl)) rfl)
  | unTrackType passed found =>
      apply keeps_outer (fun _ => by decide)
      exact (keeps_walk _ (lockRule_track List.mem_cons_self
        (Or.inl rfl))).append (keeps_ite (lockRule_track
          List.mem_cons_self (Or.inr rfl)) rfl)
  | plain => exact keeps_nil

/- A close, by a task that is not the unit process. -/
theorem keeps_close
    (opener : Option (APTR × Nat))
    (passed : Nat)
    (found last : Bool)
    (hClient : t ≠ .unitProcess) :
    Keeps (LockRule t) []
      (DriverCall.close opener passed found last).acts := by
  apply keeps_outer (fun hSame => absurd hSame hClient)
  apply Keeps.append
  · split
    · apply Keeps.append
      · apply keeps_lock
        · simp [DriverLock.rank]
        · exact fun _ => by simp [DriverLock.rank]
        · exact keeps_lockAbortReqList (.bmRxQueue _) _
            List.mem_cons_self
      · apply keeps_lock
        · simp [DriverLock.rank]
        · exact fun _ => Nat.le_refl 1
        · exact (keeps_walk _ (lockRule_reads
            (Or.inl List.mem_cons_self))).append (keeps_ite
              (lockRule_writes (by simp)) rfl)
    · exact keeps_nil
  · exact keeps_ite
      (lockRule_awaits (by simp [DriverLock.rank]) hClient) rfl

theorem keeps_openDevice
    (starts adds : Bool)
    (hClient : t ≠ .unitProcess) :
    Keeps (LockRule t) []
      (DriverCall.openDevice starts adds).acts := by
  apply keeps_outer (fun hSame => absurd hSame hClient)
  exact (keeps_ite (lockRule_awaits (by simp [DriverLock.rank])
    hClient) rfl).append (keeps_ite
      (lockRule_writes List.mem_cons_self) rfl)

/- Every call keeps to the rule. -/
theorem DriverCall.obeys
    {call : DriverCall}
    (hBy : call.By t) :
    Obeys (LockRule t) [] call.acts := by
  apply Keeps.obeys
  cases call with
  | openDevice starts adds =>
      cases t with
      | unitProcess => exact hBy.elim
      | client n => exact keeps_openDevice _ _ nofun
  | close opener passed found last =>
      cases t with
      | unitProcess => exact hBy.elim
      | client n => exact keeps_close _ _ _ _ nofun
  | abortIo head passed found =>
      have hLow :
          t = .unitProcess → 1 ≤ (queueLock head).rank := by
        cases head <;> simp [queueLock, DriverLock.rank]
      exact keeps_outer hLow
        ((keeps_walk _ (lockRule_requests head
          List.mem_cons_self (Or.inl rfl))).append
            (keeps_ite (lockRule_requests head
              List.mem_cons_self (Or.inr rfl)) rfl))
  | performIo command => exact command.keeps
  | queueRequest => exact keeps_portAccess (by simp) rfl
  | processEvents packets =>
      exact keeps_flatMap _ (fun path _ =>
        keeps_lockOnPktReceived path)
  | serviceMsgPort commands =>
      exact (keeps_flatMap _ (fun command _ =>
        (keeps_portAccess (by simp) rfl).append
          command.keeps)).append (keeps_portAccess (by simp) rfl)
  | noLists => exact keeps_nil

end Rules

------------------------------------------------------------
-- All Runs
------------------------------------------------------------

section Runs

variable {p : LockedDriver} {t t' : DriverTask}

theorem mem_of_lockRule
    (t : DriverTask)
    (held : List DriverLock)
    (l : DriverLock)
    (hRule : LockRule t held (.releases l)) :
    l ∈ held :=
  hRule.order

theorem ranked_lockRule :
    SemTasks.Ranked .forbid .unitProcess DriverLock.rank 1
      LockRule where
  order := fun _ _ _ hRule => hRule.order
  server := fun _ _ hRule => hRule.server rfl
  last := by
    intro l
    cases l <;> simp [DriverLock.rank]
  bar := by decide

theorem sound_of_locking
    (hReach : lockingMachine.Reach Machine.Free p) :
    SemTasks.Sound LockRule p := by
  apply SemTasks.Sound.of_reach mem_of_lockRule ?_ hReach
  rintro t acts ⟨call, hBy, rfl⟩
  exact call.obeys hBy

/- A client opens the device while the unit process hands on
   a packet. -/
def openWhilePacket :
    List (SemTasks.Input DriverTask DriverLock SharedList) :=
  [.calls (.client 0) (DriverCall.openDevice false true).acts,
    .runs (.client 0),
    .calls .unitProcess
      (DriverCall.processEvents [⟨[], none⟩]).acts,
    .runs .unitProcess]

theorem runs_openWhilePacket :
    lockingMachine.Runs Machine.Free openWhilePacket
      idleTasks := by
  refine ⟨⟨⟨rfl, .openDevice false true, trivial, rfl⟩,
      trivial⟩, ⟨?_, trivial⟩,
    ⟨⟨rfl, .processEvents [⟨[], none⟩], trivial, rfl⟩,
      trivial⟩, ⟨?_, trivial⟩, trivial⟩
  · exact ⟨Or.inl rfl, Or.inl rfl⟩
  · exact ⟨Or.inl rfl, Or.inl rfl⟩

/-
  The semaphores never lock each other: while a call has not
  returned, some task can go on; after `Forbid` no task waits
  before `Permit`; and while no new calls are made, all of
  them return after as many steps as they have left, however
  the tasks are scheduled.
-/
theorem calls_return
    (hReach : lockingMachine.Reach Machine.Free p) :
    (∀ t, p.rest t ≠ [] →
      ∃ t', p.CanRun .forbid .unitProcess t') ∧
    (∀ t, p.owner .forbid = some t →
      p.CanRun .forbid .unitProcess t) ∧
    ∀ (ts : Finset DriverTask) (schedule : List DriverTask),
      (∀ t, p.rest t ≠ [] → t ∈ ts) →
      lockingMachine.Runs Machine.Free
        (schedule.map .runs) p →
      schedule.length ≤ p.work ts ∧
        ((∀ t, (lockingMachine.run
            (schedule.map .runs) p).rest t = []) ↔
          schedule.length = p.work ts) := by
  have hSound := sound_of_locking hReach
  refine ⟨fun t => hSound.exists_canRun ranked_lockRule,
    fun t => hSound.canRun_of_alone ranked_lockRule, ?_⟩
  intro ts schedule hTasks hRuns
  have hReturned := hSound.returned_iff mem_of_lockRule
    ranked_lockRule hTasks hRuns
  exact ⟨hReturned.1, hReturned.2.1⟩

theorem calls_return_openWhilePacket :
    (∃ t, (lockingMachine.run openWhilePacket
      idleTasks).CanRun .forbid .unitProcess t) ∧
    ∀ t, (lockingMachine.run
      ([.client 0, .unitProcess, .unitProcess,
        .client 0].map .runs)
      (lockingMachine.run openWhilePacket
        idleTasks)).rest t = [] := by
  have hReturn := calls_return (Machine.reach_run
    openWhilePacket (.start start_idleTasks)
    runs_openWhilePacket)
  refine ⟨hReturn.1 (.client 0) nofun, ?_⟩
  refine (hReturn.2.2 {.client 0, .unitProcess} _ ?_ ?_).2.mpr
    (by decide)
  · intro t hBusy
    cases t with
    | unitProcess => decide
    | client n =>
        cases n with
        | zero => decide
        | succ n => exact absurd rfl hBusy
  · refine ⟨⟨?_, trivial⟩, ⟨?_, trivial⟩, ⟨?_, trivial⟩,
      ⟨?_, trivial⟩, trivial⟩
    all_goals
      show SemTasks.CanRun _ _ _ _
      decide

/- Who is about to use a guarded list has its semaphore. -/
theorem owner_of_guard
    {x : SharedList}
    {l : DriverLock}
    {a : LockAct}
    (hSound : SemTasks.Sound LockRule p)
    (hGuard : x.guard = some l)
    (hUses : a.Uses x)
    (hPoised : p.Poised t a) :
    p.owner l = some t :=
  hSound.owner_of_under
    (fun _ hRule => hRule.guarded x hUses l hGuard) hPoised

/- One task at a time uses a guarded list. -/
theorem not_races_of_guard
    {x : SharedList}
    {l : DriverLock}
    (hSound : SemTasks.Sound LockRule p)
    (hGuard : x.guard = some l) :
    ¬ p.Races x t t' := by
  rintro ⟨hOther, hWrites, hUses⟩
  have hFirst :=
    owner_of_guard hSound hGuard (Or.inr rfl) hWrites
  have hSecond : p.owner l = some t' := by
    rcases hUses with hReads | hWrites
    · exact owner_of_guard hSound hGuard (Or.inl rfl) hReads
    · exact owner_of_guard hSound hGuard (Or.inr rfl) hWrites
  rw [hFirst] at hSecond
  exact hOther (Option.some.inj hSecond)

/- Two tasks at the list of the openers: one of them adds or
   removes an opener, the other one reads; and the one has
   no `eu_BuffMgmtLock`, or the other no semaphore at all. -/
theorem races_euBuffMgmt
    (hSound : SemTasks.Sound LockRule p)
    (hRaces : p.Races .euBuffMgmt t t') :
    p.owner .edDeviceLock = some t ∧
      p.Poised t' (.reads .euBuffMgmt) ∧
      (p.owner .euBuffMgmtLock ≠ some t ∨
        ∀ l, p.owner l ≠ some t') := by
  rcases hRaces with ⟨hOther, hWrites, hUses⟩
  have hOwner {t : DriverTask}
      (hPoised : p.Poised t (.writes .euBuffMgmt)) :
      p.owner .edDeviceLock = some t :=
    hSound.owner_of_under (fun _ hRule => hRule.writes rfl)
      hPoised
  have hReads : p.Poised t' (.reads .euBuffMgmt) := by
    rcases hUses with hReads | hWrites'
    · exact hReads
    · have hBoth := hOwner hWrites'
      rw [hOwner hWrites] at hBoth
      exact absurd (Option.some.inj hBoth) hOther
  refine ⟨hOwner hWrites, hReads, ?_⟩
  rcases hSound.poised hReads with ⟨held, hMem, hRule⟩
  rcases hRule.reads rfl with hLocked | hNone
  · refine Or.inl (fun hMine => hOther ?_)
    rw [(hMem _).mp hLocked] at hMine
    exact (Option.some.inj hMine).symm
  · refine Or.inr (fun l hMine => ?_)
    have hIn := (hMem l).mpr hMine
    rw [hNone] at hIn
    cases hIn

/-
  Of all lists, exactly that of the openers can be changed by
  one task while another one uses it.  Where that happens, an
  opener is added or removed and the other task reads; either
  it is added, without `eu_BuffMgmtLock`, or the other task
  is past all semaphores, at the end of `DevCmdReadPacket`.
-/
theorem exists_race_iff
    (x : SharedList) :
    ((∃ p, lockingMachine.Reach Machine.Free p ∧
        ∃ t t', p.Races x t t') ↔ x = .euBuffMgmt) ∧
      ∀ p, lockingMachine.Reach Machine.Free p →
        ∀ t t', p.Races x t t' →
          p.owner .edDeviceLock = some t ∧
            p.Poised t' (.reads .euBuffMgmt) ∧
            (p.owner .euBuffMgmtLock ≠ some t ∨
              ∀ l, p.owner l ≠ some t') := by
  have hOnly {p : LockedDriver} {t t' : DriverTask}
      (hReach : lockingMachine.Reach Machine.Free p)
      (hRaces : p.Races x t t') :
      x = .euBuffMgmt := by
    cases hGuard : x.guard with
    | some l =>
        exact absurd hRaces
          (not_races_of_guard (sound_of_locking hReach) hGuard)
    | none =>
        cases x with
        | euBuffMgmt => rfl
        | requests head => cases hGuard
        | euTrack => cases hGuard
  refine ⟨⟨?_, ?_⟩, ?_⟩
  · rintro ⟨p, hReach, t, t', hRaces⟩
    exact hOnly hReach hRaces
  · rintro rfl
    exact ⟨_, Machine.reach_run openWhilePacket
        (.start start_idleTasks) runs_openWhilePacket,
      .client 0, .unitProcess, nofun, rfl, Or.inl rfl⟩
  · intro p hReach t t' hRaces
    have hSame := hOnly hReach hRaces
    subst hSame
    exact races_euBuffMgmt (sound_of_locking hReach) hRaces

end Runs

end KszDriver
