import KszDriver.Device.Handles
import KszDriver.Nic.Plain
import Mathlib.Data.Multiset.AddSub

/-
  What the driver has allocated and not freed.  An account is
  kept beside the state: it is noted in it where a function
  of the source allocates or frees something.

  Main declarations:
    * `Resource`
    * `NicOp.account`, `accountCalls`
    * `Driver.account`
    * `resourceMachine`
    * `Possession`, `after_accountCall`
    * `live_accountCall_init`
-/

------------------------------------------------------------
-- Resources
------------------------------------------------------------

namespace KszDriver

open Driver

/-
  What is allocated and freed: the receive buffer, the signal
  and the interrupt server of the low level driver; the unit
  structure, the signal of its port, the port for writes and
  its signal, and the signal for changes of the configuration
  file; the buffer management of an opener, and the node of a
  tracked type.
-/
inductive Resource where
| rxBuffer
| sigNumber
| interruptServer
| deviceDriverUnit
| unitMsgPortSignal
| euTx
| euTxSignal
| configFileNotifySignal
| bufferManagement (bm : APTR)
| superS2PTStats (packetType : ULONG)
deriving DecidableEq

abbrev Resources := Multiset Resource

------------------------------------------------------------
-- The Low Level Driver
------------------------------------------------------------

/- What an operation allocates and frees. -/
def NicOp.account :
    NicOp → NicState → Resources → Resources
| .allocSignal, n, live =>
    if n.freeSignal = -1 then live else .sigNumber ::ₘ live
| .freeSignal, _, live => live.erase .sigNumber
| .addIntServer, _, live => .interruptServer ::ₘ live
| .remIntServer, _, live => live.erase .interruptServer
| .memPoolAlloc, n, live =>
    if n.freeMemory then .rxBuffer ::ₘ live else live
| _, _, live => live

/- A call, with the account. -/
def accountCall (c : LowLevelCall) (p : NicState × Resources) :
    NicState × Resources :=
  (Program.run (Program.recorded NicOp.exec NicOp.account)
    c.program p).2

/- Several calls. -/
def accountCalls :
    List LowLevelCall → NicState × Resources →
      NicState × Resources
| [], p => p
| c :: cs, p => accountCalls cs (accountCall c p)

------------------------------------------------------------
-- The Device
------------------------------------------------------------

/-
  `InitUnitProcess`, with the start of `DevProcEntry`.  The
  reply port is deleted before the function returns, and a
  unit structure without a process is freed.
-/
def accountUnit
    (env : OpenEnv) (s : Driver) (live : Resources) :
    Resources :=
  if s.base.unit0 then live
  else if env.unitMem then
    let live := .deviceDriverUnit ::ₘ live
    if env.replyPort ∧ env.process then
      let live := .unitMsgPortSignal ::ₘ live
      let live := .euTxSignal ::ₘ .euTx ::ₘ live
      .configFileNotifySignal ::ₘ live
    else live.erase .deviceDriverUnit
  else live

/- `DeviceOpen` -/
def accountOpen
    (s2unit s2flags : ULONG)
    (env : OpenEnv)
    (s : Driver)
    (live : Resources) : Resources :=
  if ReachesUnit s2unit s2flags env s then
    let live := accountUnit env s live
    if GetsUnit env s ∧ env.bm ≠ 0 then
      .bufferManagement env.bm ::ₘ live
    else live
  else live

/-
  The end of `DevProcEntry` and `ExpungeUnit`.  The port for
  writes stays, and so do the nodes in `eu_Track`.
-/
def accountExpunge (live : Resources) : Resources :=
  let live := live.erase .euTxSignal
  let live := live.erase .unitMsgPortSignal
  let live := live.erase .configFileNotifySignal
  live.erase .deviceDriverUnit

/- `DeviceClose` -/
def accountClose
    (ios2 : APTR) (s : Driver) (live : Resources) :
    Resources :=
  let bm := (s.reqs ios2).bufferManagement
  if (s.reqs ios2).ioDevice ≠ none ∧
      (s.reqs ios2).ioUnit ≠ none then
    let live :=
      if bm ≠ 0 ∧ bm ∈ s.unit.buffMgmt then
        live.erase (.bufferManagement bm)
      else live
    if ClosesUnit ios2 s then accountExpunge live else live
  else live

/- `PerformIO`; of its commands only two allocate or free. -/
def accountCommand
    (o : Outcome)
    (ios2 : APTR)
    (s : Driver)
    (live : Resources) : Resources :=
  let packetType := (s.reqs ios2).packetType
  if (s.reqs ios2).ioCommand = s2TrackType then
    if s.unit.track.contains packetType then live
    else if o.allocMem then
      .superS2PTStats packetType ::ₘ live
    else live
  else if (s.reqs ios2).ioCommand = s2UntrackType then
    if s.unit.track.contains packetType then
      live.erase (.superS2PTStats packetType)
    else live
  else live

/- What the device allocates and frees in a step. -/
def Driver.account (s : Driver) :
    Op → Resources → Resources
| .openDevice _ s2unit s2flags env, live =>
    accountOpen s2unit s2flags env s live
| .close ios2, live => accountClose ios2 s live
| .beginIo ios2 o, live =>
    if PerformedNow (s.reqs ios2).ioCommand then
      accountCommand o ios2 s live
    else live
| .serviceMsgPort o, live =>
    match s.lists .unitMsgPort with
    | [] => live
    | ios2 :: _ => accountCommand o ios2 s live
| _, live => live

/- The account after a step. -/
def Driver.resources
    (s : Driver) (op : Op) (live : Resources) : Resources :=
  s.account op (accountCalls (s.calls op) (s.nic, live)).2

/- The runs of the device, with the account. -/
def resourceMachine : Machine (Driver × Resources) Op :=
  deviceMachine.recording 0
    (fun live s op _ => s.resources op live)

------------------------------------------------------------
-- Calls
------------------------------------------------------------

/- The account, and whether the driver knows of an interrupt
   server. -/
structure Possession where
  signalTask : Bool
  live : Resources

def possession (p : NicState × Resources) : Possession where
  signalTask := p.1.iface.signalTask
  live := p.2

/- A program leads from one possession to others. -/
def Possesses
    {α : Type}
    (w : Possession)
    (p : NicM α)
    (Q : α → Possession → Prop) : Prop :=
  Program.Walks
    (Program.recorded NicOp.exec NicOp.account) possession
    (fun _ _ => True) Q p w

section Possession

variable {α β : Type} {w : Possession}

theorem Possesses.bind
    {Q : α → Possession → Prop}
    {Q' : β → Possession → Prop}
    {p : NicM α}
    {f : α → NicM β}
    (hFirst : Possesses w p Q)
    (hRest : ∀ a v, Q a v → Possesses v (f a) Q') :
    Possesses w (p >>= f) Q' :=
  Program.Walks.bind hFirst hRest

theorem Possesses.pure
    {Q : α → Possession → Prop}
    {value : α}
    (hGoal : Q value w) :
    Possesses w (Pure.pure value : NicM α) Q :=
  Program.Walks.pure hGoal

theorem Possesses.ite
    {c : Prop} [Decidable c]
    {Q : α → Possession → Prop}
    {p q : NicM α}
    (hThen : c → Possesses w p Q)
    (hElse : ¬ c → Possesses w q Q) :
    Possesses w (if c then p else q) Q :=
  Program.Walks.ite hThen hElse

/- A single operation. -/
theorem Possesses.perform
    {op : NicOp}
    {Q : op.Ret → Possession → Prop}
    (hGoal : ∀ n live, possession (n, live) = w →
      Q (NicOp.exec op n).1
        (possession ((NicOp.exec op n).2,
          NicOp.account op n live))) :
    Possesses w (Program.perform op) Q :=
  Program.Walks.perform trivial
    (fun p hSeen => hGoal p.1 p.2 hSeen)

/- A plain program leaves the account. -/
theorem possesses_plain
    {p : NicM α}
    (hPlain : p.Plain) :
    Possesses w p (fun _ w' => w' = w) := by
  apply Program.Only.walks (A := NicOp.Plain)
  · exact fun _ _ _ => trivial
  · intro op s hOp
    cases op with
    | setInterface f =>
        exact congrArg (Possession.mk · s.2) (hOp s.1.iface)
    | allocSignal => exact hOp.elim
    | freeSignal => exact hOp.elim
    | addIntServer => exact hOp.elim
    | remIntServer => exact hOp.elim
    | memPoolAlloc => exact hOp.elim
    | _ => rfl
  · exact hPlain

/- It is followed by something. -/
theorem NicM.Plain.thenPossesses
    {Q : β → Possession → Prop}
    {p : NicM α}
    {f : α → NicM β}
    (hPlain : p.Plain)
    (hRest : ∀ a, Possesses w (f a) Q) :
    Possesses w (p >>= f) Q := by
  apply Possesses.bind (possesses_plain hPlain)
  rintro a v rfl
  exact hRest a

/- Initialization succeeds if it gets the receive buffer. -/
theorem possesses_init :
    Possesses w ksz8851Init (fun result w' =>
      w' = if result = noError then
          { w with live := .rxBuffer ::ₘ w.live }
        else w) := by
  unfold ksz8851Init
  refine plain_disable.thenPossesses fun _ => ?_
  refine (plain_detectLoop 2).thenPossesses fun _ => ?_
  refine (plain_ksz8851SoftReset _).thenPossesses fun _ => ?_
  refine (plain_ksz8851ReadReg _).thenPossesses fun cider => ?_
  apply Possesses.ite
  · intro _
    exact plain_enable.thenPossesses fun _ => Possesses.pure rfl
  · intro _
    refine (plain_ksz8851SwitchEndianessMode true).thenPossesses
      fun _ => ?_
    refine (plain_setInterface (fun _ => rfl)).thenPossesses
      fun _ => ?_
    have hAlloc :
        Possesses w memPoolAlloc (fun allocated v =>
          (allocated = true →
              v = { w with live := .rxBuffer ::ₘ w.live }) ∧
            (¬ allocated = true → v = w)) := by
      apply Possesses.perform
      rintro n live rfl
      exact
        ⟨fun hMemory => congrArg (Possession.mk _)
            (if_pos hMemory),
          fun hFull => congrArg (Possession.mk _)
            (if_neg hFull)⟩
    refine hAlloc.bind fun allocated v hLive => ?_
    refine (plain_setInterface (fun _ => rfl)).thenPossesses
      fun _ => ?_
    apply Possesses.ite
    · intro hAllocated
      refine plain_configureRegisters.thenPossesses fun _ => ?_
      exact plain_enable.thenPossesses fun _ =>
        Possesses.pure (hLive.1 hAllocated)
    · intro hFailed
      exact plain_enable.thenPossesses fun _ =>
        Possesses.pure (hLive.2 hFailed)

/- The interrupt server with its signal is there already, or
   comes, or there is no signal. -/
def Possession.Installed (w w' : Possession) : Prop :=
  w' = w ∨ w.signalTask = false ∧
    w' =
      { signalTask := true
        live := .interruptServer ::ₘ .sigNumber ::ₘ w.live }

theorem possesses_getInterface :
    Possesses w getInterface (fun context v =>
      v = w ∧ context.signalTask = w.signalTask) := by
  apply Possesses.perform
  rintro n live rfl
  exact ⟨rfl, rfl⟩

/- Storing whether there is a server. -/
theorem possesses_setSignalTask (signalTask : Bool) :
    Possesses w (setInterface (fun iface =>
      { iface with signalTask := signalTask }))
      (fun _ v => v = { w with signalTask := signalTask }) := by
  apply Possesses.perform
  rintro n live rfl
  rfl

theorem possesses_installInterruptHandler :
    Possesses w installInterruptHandler
      (fun _ w' => w.Installed w') := by
  unfold installInterruptHandler
  refine possesses_getInterface.bind fun context v hContext => ?_
  rcases hContext with ⟨rfl, hTask⟩
  apply Possesses.ite
  · exact fun _ => Possesses.pure (Or.inl rfl)
  · intro hNot
    have hNone : v.signalTask = false := by
      rw [← hTask]
      simpa using hNot
    refine (possesses_setSignalTask true).bind fun _ u hMarked => ?_
    have hAlloc :
        Possesses u allocSignal (fun sigNumber u' =>
          (sigNumber = -1 → u' = u) ∧
            (¬ sigNumber = -1 →
              u' =
                { u with
                  live := .sigNumber ::ₘ u.live })) := by
      apply Possesses.perform
      rintro n live rfl
      exact
        ⟨fun hFull => congrArg (Possession.mk _)
            (if_pos hFull),
          fun hGot => congrArg (Possession.mk _)
            (if_neg hGot)⟩
    refine hAlloc.bind fun sigNumber u' hSignal => ?_
    refine (plain_setInterface (fun _ => rfl)).thenPossesses
      fun _ => ?_
    apply Possesses.ite
    · intro hFailed
      refine (possesses_setSignalTask false).bind
        fun _ t hBack => Possesses.pure (Or.inl ?_)
      rw [hBack, hSignal.1 hFailed, hMarked, ← hNone]
    · intro hGot
      have hLinked :
          Possesses u' addIntServer (fun _ t =>
            t =
              { u' with
                live := .interruptServer ::ₘ u'.live }) := by
        apply Possesses.perform
        rintro n live rfl
        rfl
      refine hLinked.bind fun _ t hLast =>
        Possesses.pure (Or.inr ⟨hNone, ?_⟩)
      rw [hLast, hSignal.2 hGot, hMarked]

theorem possesses_online :
    Possesses w ksz8851Online (fun _ w' => w.Installed w') := by
  unfold ksz8851Online
  refine possesses_installInterruptHandler.bind
    fun _ v hInstalled => ?_
  refine plain_disable.thenPossesses fun _ => ?_
  refine (plain_ksz8851SetBit _ _).thenPossesses fun _ => ?_
  refine (plain_ksz8851SetBit _ _).thenPossesses fun _ => ?_
  refine (plain_ksz8851SetBit _ _).thenPossesses fun _ => ?_
  refine (plain_ksz8851SetBit _ _).thenPossesses fun _ => ?_
  exact Program.Walks.mono (possesses_plain plain_enable)
    (fun _ _ hSame => hSame ▸ hInstalled)

/- The interrupt server and its signal are gone. -/
def Possession.uninstalled (w : Possession) : Possession :=
  if w.signalTask then
    { signalTask := false
      live := (w.live.erase .interruptServer).erase
        .sigNumber }
  else w

theorem possesses_uninstallInterruptHandler :
    Possesses w uninstallInterruptHandler
      (fun _ w' => w' = w.uninstalled) := by
  unfold uninstallInterruptHandler Possession.uninstalled
  refine possesses_getInterface.bind fun context v hContext => ?_
  rcases hContext with ⟨rfl, hTask⟩
  rw [hTask]
  apply Possesses.ite
  · intro hInstalled
    rw [if_pos hInstalled]
    have hRemoved :
        Possesses v remIntServer (fun _ u =>
          u =
            { v with
              live := v.live.erase .interruptServer }) := by
      apply Possesses.perform
      rintro n live rfl
      rfl
    refine hRemoved.bind fun _ u hUnlinked => ?_
    refine (possesses_setSignalTask false).bind
      fun _ u' hMarked => ?_
    have hFreed :
        Possesses u' freeSignal (fun _ t =>
          t = { u' with live := u'.live.erase .sigNumber }) := by
      apply Possesses.perform
      rintro n live rfl
      rfl
    refine hFreed.bind fun _ t hLast => ?_
    have hPlain :
        (setInterface (fun iface =>
          { iface with sigNumber := -1 })).Plain :=
      plain_setInterface (fun _ => rfl)
    apply Program.Walks.mono (possesses_plain hPlain)
    rintro _ t' rfl
    rw [hLast, hMarked, hUnlinked]
  · intro hNot
    rw [if_neg hNot]
    exact Possesses.pure rfl

theorem possesses_offline :
    Possesses w ksz8851Offline
      (fun _ w' => w' = w.uninstalled) := by
  unfold ksz8851Offline
  refine plain_disable.thenPossesses fun _ => ?_
  refine (plain_ksz8851WriteReg _ _).thenPossesses fun _ => ?_
  refine (plain_ksz8851ClearBit _ _).thenPossesses fun _ => ?_
  refine (plain_ksz8851ClearBit _ _).thenPossesses fun _ => ?_
  refine plain_enable.thenPossesses fun _ => ?_
  exact possesses_uninstallInterruptHandler

theorem plain_dumpRegisters (count : Nat) (i : UBYTE) :
    (dumpRegisters count i).Plain := by
  induction count generalizing i with
  | zero => exact plain_pure ()
  | succ count ih =>
      exact (plain_ksz8851ReadReg i).bind
        (fun _ => ih (i + 2#8))

/- A program whose result is dropped. -/
theorem Possesses.discard
    {Q : α → Possession → Prop}
    {Q' : Unit → Possession → Prop}
    {p : NicM α}
    (hProgram : Possesses w p Q)
    (hGoal : ∀ a w', Q a w' → Q' () w') :
    Possesses w (do let _ ← p) Q' :=
  hProgram.bind (fun a _ hEnd => Possesses.pure (hGoal a _ hEnd))

end Possession

/- What a call leads to. -/
def Possession.After (w : Possession) :
    LowLevelCall → Possession → Prop
| .init, w' =>
    w' = w ∨ w' = { w with live := .rxBuffer ::ₘ w.live }
| .online, w' => w.Installed w'
| .offline, w' => w' = w.uninstalled
| .deinit, w' => w' = w.uninstalled
| _, w' => w' = w

theorem possesses_call (w : Possession) (c : LowLevelCall) :
    Possesses w c.program (fun _ w' => w.After c w') := by
  cases c with
  | setReceiver =>
      exact possesses_plain (plain_setInterface (fun _ => rfl))
  | probe =>
      exact (possesses_plain
        plain_ksz8851DetectNICEndiness).discard
          (fun _ _ hSame => hSame)
  | init =>
      apply possesses_init.discard
      intro result w' hEnd
      split at hEnd
      · exact Or.inr hEnd
      · exact Or.inl hEnd
  | online => exact possesses_online
  | offline => exact possesses_offline
  | deinit =>
      refine possesses_offline.bind fun _ v hOff => ?_
      apply Program.Walks.mono
        (possesses_plain (plain_dumpRegisters 128 0#8))
      intro _ w' hSame
      exact hSame.trans hOff
  | setNetworkAddress addr =>
      exact possesses_plain
        (plain_ksz8851SetNetworkAddress addr)
  | sendPacket buffer length =>
      exact (possesses_plain
        (plain_ksz8851SendPacket buffer length)).discard
          (fun _ _ hSame => hSame)
  | sendPacketCooked dst src packetType payload length =>
      exact (possesses_plain
        (plain_ksz8851SendPacketCooked dst src packetType
          payload length)).discard (fun _ _ hSame => hSame)

theorem after_accountCall
    (c : LowLevelCall) (p : NicState × Resources) :
    (possession p).After c (possession (accountCall c p)) :=
  (possesses_call (possession p) c).run

/- The account does not interfere. -/
theorem fst_accountCall
    (c : LowLevelCall) (p : NicState × Resources) :
    (accountCall c p).1 = c.run p.1 :=
  (Program.run_recorded c.program p.1 p.2).2

/- The receive buffer is allocated where the chip answers and
   there is memory. -/
theorem live_accountCall_init (p : NicState × Resources) :
    (accountCall .init p).2 =
      if p.1.means.cider = revA3Id ∧
          p.1.means.freeMemory = true then
        .rxBuffer ::ₘ p.2
      else p.2 := by
  have hRun := (possesses_init (w := possession p)).run
  have hResult :
      (Program.run (Program.recorded NicOp.exec NicOp.account)
        ksz8851Init p).1 = (ksz8851Init.runOn p.1).1 :=
    (Program.run_recorded ksz8851Init p.1 p.2).1
  have hDropped :
      accountCall .init p =
        (Program.run (Program.recorded NicOp.exec
          NicOp.account) ksz8851Init p).2 :=
    congrArg Prod.snd (Program.run_bind ksz8851Init _ p)
  rw [hResult, result_ksz8851Init, ← hDropped] at hRun
  have hLive := congrArg Possession.live hRun
  change (accountCall .init p).2 = _ at hLive
  rw [hLive]
  by_cases hAnswers : p.1.means.cider = revA3Id
  · by_cases hMemory : p.1.means.freeMemory = true
    · simp [hAnswers, hMemory, possession]
    · simp [hAnswers, hMemory, possession, errorOutOfMemory,
        noError]
  · simp [hAnswers, possession, errorWrongIdentifier, noError]

end KszDriver
