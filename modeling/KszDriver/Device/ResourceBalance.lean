import KszDriver.Device.ReadQueues
import KszDriver.Device.Resources
import KszDriver.Device.Station

/-
  Which resources the driver gives back.  A receive buffer is
  allocated whenever the unit goes online and never freed, and
  the port for writes is never deleted; what else the unit and
  its openers have is given back by the last close, but for
  the nodes of types that are still tracked.

  Main declarations:
    * `AllocatesRxBuffer`
    * `Balances`, `Frugal`
    * `balances_iff`
    * `not_balances_onlineAgain`
    * `Accounted`, `accounted_run`
    * `left_of_closesLast`
-/

------------------------------------------------------------
-- Counting over Calls
------------------------------------------------------------

namespace KszDriver

open Driver

section Calls

variable {cs : List LowLevelCall} {r : Resource}
variable {p : NicState × Resources}

/- A call leaves what the driver of the chip does not own. -/
theorem count_accountCall
    {c : LowLevelCall}
    (hSignal : r ≠ .sigNumber)
    (hServer : r ≠ .interruptServer)
    (hInit : c = .init → r ≠ .rxBuffer) :
    (accountCall c p).2.count r = p.2.count r := by
  have hAfter := after_accountCall c p
  have hRemoved :
      (possession p).uninstalled.live.count r =
        p.2.count r := by
    unfold Possession.uninstalled
    split
    · dsimp only
      rw [Multiset.count_erase_of_ne hSignal,
        Multiset.count_erase_of_ne hServer]
      rfl
    · rfl
  have hSame {w : Possession}
      (hEnd : possession (accountCall c p) = w) :
      (accountCall c p).2.count r = w.live.count r :=
    congrArg (fun w : Possession => w.live.count r) hEnd
  cases c with
  | init =>
      rcases hAfter with hNone | hMore
      · exact hSame hNone
      · refine (hSame hMore).trans ?_
        exact Multiset.count_cons_of_ne (hInit rfl) p.2
  | online =>
      rcases hAfter with hNone | ⟨-, hMore⟩
      · exact hSame hNone
      · refine (hSame hMore).trans ?_
        dsimp only
        rw [Multiset.count_cons_of_ne hServer,
          Multiset.count_cons_of_ne hSignal]
        rfl
  | offline => exact (hSame hAfter).trans hRemoved
  | deinit => exact (hSame hAfter).trans hRemoved
  | _ => exact hSame hAfter

theorem count_accountCalls
    (hSignal : r ≠ .sigNumber)
    (hServer : r ≠ .interruptServer)
    (hInit : .init ∈ cs → r ≠ .rxBuffer) :
    (accountCalls cs p).2.count r = p.2.count r := by
  induction cs generalizing p with
  | nil => rfl
  | cons c cs ih =>
      have hTail := ih (p := accountCall c p)
        (fun hIn => hInit (List.mem_cons_of_mem c hIn))
      have hHead : c = .init → r ≠ .rxBuffer := by
        rintro rfl
        exact hInit List.mem_cons_self
      exact hTail.trans
        (count_accountCall hSignal hServer hHead)

/- The calls that allocate a receive buffer. -/
theorem calls_of_init
    {s : Driver}
    {op : Op}
    (hInit : .init ∈ s.calls op) :
    s.calls op = goOnlineCalls ∨
      ∃ addr, s.calls op =
        .setNetworkAddress addr :: goOnlineCalls := by
  cases op with
  | beginIo ios2 o => exact (sends_of_mem_beginCalls hInit).elim
  | serviceMsgPort o =>
      unfold Driver.calls at hInit ⊢
      dsimp only at hInit ⊢
      split at hInit
      · exact absurd hInit List.not_mem_nil
      · rename_i ios2 others hFirst
        unfold performCalls at hInit ⊢
        by_cases hSwitches :
            Switches ((s.remove ios2).reqs ios2).ioCommand
        · rcases hSwitches with hCommand | hCommand | hCommand
          · rw [hCommand, dispatchCalls_s2Online] at hInit ⊢
            unfold onlineCalls at hInit ⊢
            split
            · exact Or.inl rfl
            · rename_i hNot
              rw [if_neg hNot] at hInit
              exact absurd hInit List.not_mem_nil
          · rw [hCommand, dispatchCalls_s2Offline] at hInit
            split at hInit <;> simp at hInit
          · rw [hCommand,
              dispatchCalls_s2ConfigInterface] at hInit ⊢
            unfold configCalls at hInit ⊢
            split
            · rename_i hDone
              rw [if_pos hDone] at hInit
              exact absurd hInit List.not_mem_nil
            · rename_i hFirstTime
              rw [if_neg hFirstTime] at hInit
              split
              · rename_i hOnline
                rw [if_pos hOnline] at hInit
                simp at hInit
              · exact Or.inr ⟨_, rfl⟩
        · exact (sends_of_mem_dispatchCalls hSwitches
            hInit).elim
  | openDevice ios2 s2unit s2flags env =>
      unfold Driver.calls at hInit
      dsimp only at hInit
      split at hInit <;> simp at hInit
  | close ios2 =>
      unfold Driver.calls at hInit
      dsimp only at hInit
      split at hInit <;> simp at hInit
  | _ => exact absurd hInit List.not_mem_nil

end Calls

------------------------------------------------------------
-- The Receive Buffer
------------------------------------------------------------

/- The call of `ksz8851Init`. -/
def LowLevelCall.Inits : LowLevelCall → Prop
| .init => True
| _ => False

instance (c : LowLevelCall) : Decidable c.Inits :=
  match c with
  | .init => isTrue trivial
  | .setReceiver | .probe | .online | .offline | .deinit
  | .setNetworkAddress _ | .sendPacket _ _
  | .sendPacketCooked _ _ _ _ _ => isFalse id

theorem init_mem_iff (cs : List LowLevelCall) :
    .init ∈ cs ↔ ∃ c ∈ cs, c.Inits := by
  constructor
  · exact fun hIn => ⟨_, hIn, trivial⟩
  · rintro ⟨c, hIn, hInits⟩
    cases c with
    | init => exact hIn
    | _ => exact hInits.elim

/- The step allocates a receive buffer: the unit goes online,
   the chip answers, and there is memory. -/
def AllocatesRxBuffer (s : Driver) (op : Op) : Prop :=
  (∃ c ∈ s.calls op, c.Inits) ∧
    s.nic.means.cider = revA3Id ∧
    s.nic.means.freeMemory = true

instance (s : Driver) (op : Op) :
    Decidable (AllocatesRxBuffer s op) := by
  unfold AllocatesRxBuffer
  infer_instance

section RxBuffer

variable {s : Driver} {op : Op} {live : Resources}

/- Going online allocates one. -/
theorem count_rxBuffer_goOnlineCalls
    (n : NicState) (live : Resources) :
    (accountCalls goOnlineCalls (n, live)).2.count .rxBuffer =
      live.count .rxBuffer +
        if n.means.cider = revA3Id ∧
          n.means.freeMemory = true then 1 else 0 := by
  have hOnline (p : NicState × Resources) :
      (accountCall .online p).2.count .rxBuffer =
        p.2.count .rxBuffer := by
    apply count_accountCall
    · decide
    · decide
    · exact fun hInit => absurd hInit (by simp)
  have hReceiver :
      (accountCall .setReceiver (n, live)).2.count .rxBuffer =
        live.count .rxBuffer := by
    apply count_accountCall
    · decide
    · decide
    · exact fun hInit => absurd hInit (by simp)
  have hMeans :
      (accountCall .setReceiver (n, live)).1.means =
        n.means := by
    rw [fst_accountCall]
    rfl
  show (accountCall .online (accountCall .init
    (accountCall .setReceiver (n, live)))).2.count _ = _
  rw [hOnline, live_accountCall_init, hMeans, ← hReceiver]
  split
  · rw [Multiset.count_cons_self]
  · rfl

theorem count_rxBuffer_calls (live : Resources) :
    (accountCalls (s.calls op) (s.nic, live)).2.count
        .rxBuffer =
      live.count .rxBuffer +
        if AllocatesRxBuffer s op then 1 else 0 := by
  have hAllocates :
      AllocatesRxBuffer s op ↔ .init ∈ s.calls op ∧
        s.nic.means.cider = revA3Id ∧
        s.nic.means.freeMemory = true := by
    unfold AllocatesRxBuffer
    rw [init_mem_iff]
  by_cases hInit : .init ∈ s.calls op
  · rw [if_congr (hAllocates.trans (and_iff_right hInit))
      rfl rfl]
    rcases calls_of_init hInit with hCalls | ⟨addr, hCalls⟩
    · rw [hCalls]
      exact count_rxBuffer_goOnlineCalls s.nic live
    · have hMeans :
          (accountCall (.setNetworkAddress addr)
            (s.nic, live)).1.means = s.nic.means := by
        rw [fst_accountCall]
        exact spares_setNetworkAddress addr s.nic
      have hCount :
          (accountCall (.setNetworkAddress addr)
            (s.nic, live)).2.count .rxBuffer =
              live.count .rxBuffer := by
        apply count_accountCall
        · decide
        · decide
        · exact fun hInit => absurd hInit (by simp)
      have hLater := count_rxBuffer_goOnlineCalls
        (accountCall (.setNetworkAddress addr)
          (s.nic, live)).1
        (accountCall (.setNetworkAddress addr)
          (s.nic, live)).2
      rw [hCalls]
      rw [hMeans, hCount] at hLater
      exact hLater
  · rw [if_neg (fun hAll => hInit (hAllocates.mp hAll).1),
      Nat.add_zero]
    apply count_accountCalls
    · decide
    · decide
    · exact fun hIn => absurd hIn hInit

end RxBuffer

------------------------------------------------------------
-- Counting over the Device
------------------------------------------------------------

/- What a unit has. -/
def Resource.OfUnit : Resource → Prop
| .deviceDriverUnit | .unitMsgPortSignal | .euTx
| .euTxSignal | .configFileNotifySignal => True
| _ => False

instance decidableOfUnit : (r : Resource) → Decidable r.OfUnit
| .deviceDriverUnit | .unitMsgPortSignal | .euTx
| .euTxSignal | .configFileNotifySignal => isTrue trivial
| .rxBuffer | .sigNumber | .interruptServer
| .bufferManagement _ | .superS2PTStats _ => isFalse id

section Device

variable {s : Driver} {r : Resource} {live : Resources}

/- A unit is started. -/
def StartsUnit (env : OpenEnv) (s : Driver) : Prop :=
  s.base.unit0 = false ∧ GetsUnit env s

instance (env : OpenEnv) (s : Driver) :
    Decidable (StartsUnit env s) := by
  unfold StartsUnit
  infer_instance

theorem count_accountUnit (env : OpenEnv) :
    (accountUnit env s live).count r =
      live.count r +
        if StartsUnit env s ∧ r.OfUnit then 1 else 0 := by
  unfold accountUnit StartsUnit GetsUnit
  by_cases hThere : s.base.unit0 = true
  · simp [hThere]
  · rw [if_neg hThere]
    rw [Bool.not_eq_true] at hThere
    by_cases hMemory : env.unitMem = true
    · by_cases hStarts :
          env.replyPort = true ∧ env.process = true
      · cases r <;> simp [hThere, hMemory, hStarts,
          Resource.OfUnit]
      · simp only [hMemory, hThere, if_neg hStarts]
        simp [hStarts]
    · simp [hMemory, hThere]

theorem count_accountOpen
    (s2unit s2flags : ULONG) (env : OpenEnv) :
    (accountOpen s2unit s2flags env s live).count r =
      live.count r +
        (if ReachesUnit s2unit s2flags env s ∧
          StartsUnit env s ∧ r.OfUnit then 1 else 0) +
        if Succeeds s2unit s2flags env s ∧
          r = .bufferManagement env.bm then 1 else 0 := by
  unfold accountOpen Succeeds
  by_cases hReaches : ReachesUnit s2unit s2flags env s
  · rw [if_pos hReaches]
    simp only [hReaches, true_and, and_assoc]
    by_cases hGets : GetsUnit env s ∧ env.bm ≠ 0
    · rw [if_pos hGets, Multiset.count_cons,
        count_accountUnit]
      simp [hGets]
    · rw [if_neg hGets, count_accountUnit]
      rw [not_and_or] at hGets
      rcases hGets with hNone | hNull
      · simp [hNone, StartsUnit]
      · simp [hNull]
  · simp [hReaches]

/- Something is freed. -/
theorem count_erase (r' : Resource) :
    (live.erase r').count r =
      live.count r - if r = r' then 1 else 0 := by
  by_cases hSame : r = r'
  · rw [if_pos hSame, hSame, Multiset.count_erase_self]
  · rw [if_neg hSame, Multiset.count_erase_of_ne hSame,
      Nat.sub_zero]

theorem count_accountExpunge :
    (accountExpunge live).count r =
      live.count r -
        if r.OfUnit ∧ r ≠ .euTx then 1 else 0 := by
  unfold accountExpunge
  cases r <;> simp [Resource.OfUnit]

/- The buffer management of a handle is freed. -/
def FreesOpener (ios2 : APTR) (s : Driver) : Prop :=
  ((s.reqs ios2).ioDevice ≠ none ∧
      (s.reqs ios2).ioUnit ≠ none) ∧
    (s.reqs ios2).bufferManagement ≠ 0 ∧
    (s.reqs ios2).bufferManagement ∈ s.unit.buffMgmt

instance (ios2 : APTR) (s : Driver) :
    Decidable (FreesOpener ios2 s) := by
  unfold FreesOpener
  infer_instance

theorem count_accountClose (ios2 : APTR) :
    (accountClose ios2 s live).count r =
      (live.count r -
        if FreesOpener ios2 s ∧
          r = .bufferManagement
            (s.reqs ios2).bufferManagement then 1 else 0) -
        if ClosesUnit ios2 s ∧ r.OfUnit ∧ r ≠ .euTx then 1
        else 0 := by
  unfold accountClose
  by_cases hHandle : (s.reqs ios2).ioDevice ≠ none ∧
      (s.reqs ios2).ioUnit ≠ none
  · rw [if_pos hHandle]
    dsimp only
    generalize hBm : (s.reqs ios2).bufferManagement = bm
    have hFrees :
        FreesOpener ios2 s ↔
          bm ≠ 0 ∧ bm ∈ s.unit.buffMgmt := by
      rw [← hBm]
      exact and_iff_right hHandle
    have hFreed :
        (if bm ≠ 0 ∧ bm ∈ s.unit.buffMgmt then
            live.erase (.bufferManagement bm)
          else live).count r =
        live.count r -
          if FreesOpener ios2 s ∧ r = .bufferManagement bm
          then 1 else 0 := by
      by_cases hListed : bm ≠ 0 ∧ bm ∈ s.unit.buffMgmt
      · rw [if_pos hListed, count_erase]
        simp only [hFrees.mpr hListed, true_and]
      · rw [if_neg hListed, if_neg
          (fun hAll => hListed (hFrees.mp hAll.1)),
          Nat.sub_zero]
    rw [← hFreed]
    by_cases hLast : ClosesUnit ios2 s
    · rw [if_pos hLast, count_accountExpunge]
      simp only [hLast, true_and]
    · have hNone : ¬ (ClosesUnit ios2 s ∧ r.OfUnit ∧
          r ≠ .euTx) := fun hAll => hLast hAll.1
      rw [if_neg hLast, if_neg hNone, Nat.sub_zero]
  · rw [if_neg hHandle, if_neg (fun hAll => hHandle hAll.1.1),
      if_neg (fun hAll => hHandle ⟨hAll.1.1, hAll.1.2.1⟩),
      Nat.sub_zero, Nat.sub_zero]

/- Only nodes of tracked types come and go with a command. -/
theorem count_accountCommand
    (o : Outcome)
    (ios2 : APTR)
    (hOther : ∀ packetType, r ≠ .superS2PTStats packetType) :
    (accountCommand o ios2 s live).count r = live.count r := by
  unfold accountCommand
  dsimp only
  split
  · split
    · rfl
    · split
      · exact Multiset.count_cons_of_ne (hOther _) live
      · rfl
  · split
    · split
      · exact Multiset.count_erase_of_ne (hOther _) live
      · rfl
    · rfl

/- A step is an open or a close, or neither. -/
theorem Op.kinds (op : Op) :
    (∃ ios2 s2unit s2flags env,
        op = .openDevice ios2 s2unit s2flags env) ∨
      (∃ ios2, op = .close ios2) ∨ Tally.Calm op := by
  cases op with
  | openDevice ios2 s2unit s2flags env =>
      exact Or.inl ⟨ios2, s2unit, s2flags, env, rfl⟩
  | close ios2 => exact Or.inr (Or.inl ⟨ios2, rfl⟩)
  | _ => exact Or.inr (Or.inr ⟨by simp, by simp⟩)

/- No command concerns what is not the node of a type. -/
theorem count_account_of_calm
    {op : Op}
    (hCalm : Tally.Calm op)
    (hOther : ∀ packetType, r ≠ .superS2PTStats packetType) :
    (s.account op live).count r = live.count r := by
  cases op with
  | openDevice ios2 s2unit s2flags env =>
      exact absurd rfl (hCalm.1 ios2 s2unit s2flags env)
  | close ios2 => exact absurd rfl (hCalm.2 ios2)
  | beginIo ios2 o =>
      unfold Driver.account
      dsimp only
      split
      · exact count_accountCommand o ios2 hOther
      · rfl
  | serviceMsgPort o =>
      unfold Driver.account
      dsimp only
      split
      · rfl
      · exact count_accountCommand o _ hOther
  | _ => rfl

/- The device leaves what the low level driver owns. -/
theorem count_account_of_lowLevel
    (hUnit : ¬ r.OfUnit)
    (hOpener : ∀ bm, r ≠ .bufferManagement bm)
    (hNode : ∀ packetType, r ≠ .superS2PTStats packetType)
    (op : Op) :
    (s.account op live).count r = live.count r := by
  rcases op.kinds with ⟨ios2, s2unit, s2flags, env, rfl⟩ |
    ⟨ios2, rfl⟩ | hCalm
  · refine (count_accountOpen s2unit s2flags env).trans ?_
    simp [hUnit, hOpener]
  · refine (count_accountClose ios2).trans ?_
    simp [hUnit, hOpener]
  · exact count_account_of_calm hCalm hNode

/- One receive buffer more after each step that allocates. -/
theorem count_rxBuffer_resources
    (s : Driver) (op : Op) (live : Resources) :
    (s.resources op live).count .rxBuffer =
      live.count .rxBuffer +
        if AllocatesRxBuffer s op then 1 else 0 := by
  unfold Driver.resources
  rw [count_account_of_lowLevel id (by simp) (by simp),
    count_rxBuffer_calls]

/- What is left to the device. -/
theorem count_calls_of_foreign
    (hSignal : r ≠ .sigNumber)
    (hServer : r ≠ .interruptServer)
    (hBuffer : r ≠ .rxBuffer)
    (op : Op) :
    (accountCalls (s.calls op) (s.nic, live)).2.count r =
      live.count r :=
  count_accountCalls hSignal hServer (fun _ => hBuffer)

/- The port for writes is never deleted. -/
theorem count_euTx_le
    (s : Driver) (op : Op) (live : Resources) :
    live.count .euTx ≤ (s.resources op live).count .euTx := by
  have hCalls :
      (accountCalls (s.calls op) (s.nic, live)).2.count .euTx =
        live.count .euTx := by
    apply count_calls_of_foreign
    · decide
    · decide
    · decide
  unfold Driver.resources
  rw [← hCalls]
  rcases op.kinds with ⟨ios2, s2unit, s2flags, env, rfl⟩ |
    ⟨ios2, rfl⟩ | hCalm
  · refine le_trans ?_
      (count_accountOpen s2unit s2flags env).ge
    exact (Nat.le_add_right _ _).trans (Nat.le_add_right _ _)
  · refine le_of_eq ((count_accountClose ios2).trans ?_).symm
    simp
  · exact le_of_eq
      (count_account_of_calm hCalm (by simp)).symm

end Device

------------------------------------------------------------
-- The Port for Writes
------------------------------------------------------------

/- There is a unit, or an opener of one. -/
def Driver.Up (s : Driver) : Prop :=
  s.base.unit0 = true ∨ s.unit.buffMgmt ≠ []

/- A unit that comes up was up before, or is started. -/
theorem up_next
    {s : Driver}
    {op : Op}
    (hAllowed : op.Allowed s)
    (hUp : (s.next op).Up) :
    s.Up ∨ ∃ ios2 s2unit s2flags env,
      op = .openDevice ios2 s2unit s2flags env ∧
        ReachesUnit s2unit s2flags env s ∧
        StartsUnit env s := by
  rcases op.kinds with ⟨ios2, s2unit, s2flags, env, rfl⟩ |
    ⟨ios2, rfl⟩ | hCalm
  · have hOpened := opened_deviceOpen ios2 s2unit s2flags env s
    by_cases hThere : s.base.unit0 = true
    · exact Or.inl (Or.inl hThere)
    · rw [Bool.not_eq_true] at hThere
      by_cases hReaches :
          ReachesUnit s2unit s2flags env s ∧ GetsUnit env s
      · exact Or.inr ⟨ios2, s2unit, s2flags, env, rfl,
          hReaches.1, hThere, hReaches.2⟩
      · rcases hUp with hUnit | hOpeners
        · rcases hOpened.unit0.mp hUnit with hOld | hNew
          · exact Or.inl (Or.inl hOld)
          · exact absurd hNew hReaches
        · rcases hOpened.buffMgmt with ⟨old, hOld, hNow⟩
          rw [if_neg (fun hAll =>
            hReaches ⟨hAll.1, hAll.2.1⟩)] at hNow
          change (deviceOpen ios2 s2unit s2flags env
            s).unit.buffMgmt ≠ [] at hOpeners
          rw [hNow] at hOpeners
          rcases hOld with hSame | hNone
          · exact Or.inl (Or.inr (hSame ▸ hOpeners))
          · exact absurd hNone.2 hOpeners
  · rcases hAllowed.2.2 with hNone | hHandle
    · have hSame : s.next (.close ios2) = s :=
        deviceClose_of_unit_none hNone
      exact Or.inl (hSame ▸ hUp)
    · exact Or.inl (Or.inr (List.ne_nil_of_mem hHandle.2.2))
  · have hSame := Tally.calm_next s hCalm
    unfold Driver.Up at hUp ⊢
    rw [hSame.2.1, hSame.2.2.2.1] at hUp
    exact Or.inl hUp

/- A unit that was started has a port for writes. -/
theorem mem_euTx_next
    {p : Driver × Resources}
    {op : Op}
    (hPort : p.1.Up → .euTx ∈ p.2)
    (hAllowed : op.Allowed p.1)
    (hUp : (p.1.next op).Up) :
    .euTx ∈ p.1.resources op p.2 := by
  rw [← Multiset.one_le_count_iff_mem]
  rcases up_next hAllowed hUp with hOld |
    ⟨ios2, s2unit, s2flags, env, rfl, hReaches, hStarts⟩
  · exact (Multiset.one_le_count_iff_mem.mpr
      (hPort hOld)).trans (count_euTx_le p.1 op p.2)
  · refine le_trans ?_
      (count_accountOpen s2unit s2flags env).ge
    rw [if_pos ⟨hReaches, hStarts, trivial⟩]
    exact (Nat.le_add_left 1 _).trans (Nat.le_add_right _ _)

------------------------------------------------------------
-- Balance
------------------------------------------------------------

/- A handle is closed, and it was the last one. -/
def Driver.ClosesLast (s : Driver) : Op → Prop
| .close ios2 =>
    s.OpenHandle ios2 ∧
      (s.next (.close ios2)).unit.buffMgmt = []
| _ => False

instance decidableClosesLast (s : Driver) :
    (op : Op) → Decidable (s.ClosesLast op)
| .close ios2 =>
    inferInstanceAs (Decidable
      (s.OpenHandle ios2 ∧
        (s.next (.close ios2)).unit.buffMgmt = []))
| .openDevice _ _ _ _ | .expunge | .beginIo _ _ | .abortIo _
| .serviceMsgPort _ | .pktReceived _ _ _ | .doEvent _
| .configChanged _ | .clientWrite _ _ | .hardware _ =>
    isFalse id

/- After the step there is at most one receive buffer, and
   after the last close nothing is left. -/
def Balances (p : Driver × Resources) (op : Op) : Prop :=
  (resourceMachine.next p op).2.count .rxBuffer ≤ 1 ∧
    (p.1.ClosesLast op → (resourceMachine.next p op).2 = 0)

instance (p : Driver × Resources) (op : Op) :
    Decidable (Balances p op) := by
  unfold Balances
  infer_instance

/- No receive buffer is allocated while there is one, and the
   handle that is closed is not the only one. -/
def Frugal (p : Driver × Resources) (op : Op) : Prop :=
  (AllocatesRxBuffer p.1 op → .rxBuffer ∉ p.2) ∧
    ∀ ios2, op = .close ios2 → p.1.OpenHandle ios2 →
      p.1.unit.buffMgmt ≠ [(p.1.reqs ios2).bufferManagement]

/- There is at most one receive buffer, and a unit has a port
   for writes. -/
structure Stocked (p : Driver × Resources) : Prop where
  listed : p.1.Listed
  euTx : p.1.Up → .euTx ∈ p.2
  rxBuffer : p.2.count .rxBuffer ≤ 1

section Balance

variable {p : Driver × Resources} {op : Op}

theorem stocked_start (hStart : resourceMachine.Start p) :
    Stocked p where
  listed := listed_of_reach (.start hStart.1)
  euTx := by
    rintro (hUnit | hOpeners)
    · rw [hStart.1.2.2.2.1] at hUnit
      cases hUnit
    · exact absurd hStart.1.2.2.1 hOpeners
  rxBuffer := by
    rw [hStart.2]
    exact Nat.zero_le 1

/- The last handle is closed when it was the only one. -/
theorem closesLast_iff
    {s : Driver}
    {ios2 : APTR}
    (hListed : s.Listed)
    (hHandle : s.OpenHandle ios2) :
    s.ClosesLast (.close ios2) ↔
      s.unit.buffMgmt = [(s.reqs ios2).bufferManagement] := by
  have hClosed := (hListed.closed hHandle).buffMgmt
  have hErased :
      (s.next (.close ios2)).unit.buffMgmt =
        s.unit.buffMgmt.erase
          (s.reqs ios2).bufferManagement := hClosed
  show s.OpenHandle ios2 ∧
    (s.next (.close ios2)).unit.buffMgmt = [] ↔ _
  rw [hErased]
  constructor
  · rintro ⟨-, hNone⟩
    have hPerm := List.perm_cons_erase hHandle.2.2
    rw [hNone] at hPerm
    exact List.perm_singleton.mp hPerm
  · intro hOnly
    refine ⟨hHandle, ?_⟩
    rw [hOnly]
    exact List.erase_cons_head _ _

/- What a close leaves is never nothing. -/
theorem next_ne_zero_of_closesLast
    (hStocked : Stocked p)
    (hLast : p.1.ClosesLast op) :
    (resourceMachine.next p op).2 ≠ 0 := by
  intro hZero
  cases op with
  | close ios2 =>
      have hUp : p.1.Up :=
        Or.inr (List.ne_nil_of_mem hLast.1.2.2)
      have hPort := hStocked.euTx hUp
      rw [← Multiset.one_le_count_iff_mem] at hPort
      have hStill :=
        hPort.trans (count_euTx_le p.1 (.close ios2) p.2)
      change p.1.resources (.close ios2) p.2 = 0 at hZero
      rw [hZero] at hStill
      exact absurd hStill (by simp)
  | _ => exact hLast

/- A step balances if and only if it is frugal. -/
theorem balances_iff_frugal (hStocked : Stocked p) :
    Balances p op ↔ Frugal p op := by
  have hCount := count_rxBuffer_resources p.1 op p.2
  have hBuffer :
      (resourceMachine.next p op).2.count .rxBuffer ≤ 1 ↔
        (AllocatesRxBuffer p.1 op → .rxBuffer ∉ p.2) := by
    change (p.1.resources op p.2).count .rxBuffer ≤ 1 ↔ _
    rw [hCount, ← Multiset.count_eq_zero]
    have hOne := hStocked.rxBuffer
    by_cases hAllocates : AllocatesRxBuffer p.1 op
    · rw [if_pos hAllocates]
      simp only [hAllocates, forall_const]
      omega
    · rw [if_neg hAllocates]
      simp only [hAllocates, false_implies, iff_true]
      omega
  have hNever :
      (p.1.ClosesLast op → (resourceMachine.next p op).2 = 0) ↔
        ¬ p.1.ClosesLast op :=
    ⟨fun hEmpty hLast =>
        next_ne_zero_of_closesLast hStocked hLast
          (hEmpty hLast),
      fun hNot hLast => absurd hLast hNot⟩
  unfold Balances Frugal
  rw [hBuffer, hNever]
  refine and_congr_right fun _ => ?_
  constructor
  · rintro hNot ios2 rfl hHandle hOnly
    exact hNot ((closesLast_iff hStocked.listed hHandle).mpr
      hOnly)
  · intro hMore hLast
    cases op with
    | close ios2 =>
        exact hMore ios2 rfl hLast.1
          ((closesLast_iff hStocked.listed hLast.1).mp hLast)
    | _ => exact hLast

theorem Stocked.next
    (hStocked : Stocked p)
    (hAllowed : resourceMachine.Allowed p op)
    (hFrugal : Frugal p op) :
    Stocked (resourceMachine.next p op) where
  listed := hStocked.listed.next hAllowed
  euTx := mem_euTx_next hStocked.euTx hAllowed
  rxBuffer :=
    ((balances_iff_frugal hStocked).mpr hFrugal).1

end Balance

/-
  All steps of a run balance if and only if all of them are
  frugal: no receive buffer is allocated a second time, and
  the last handle is never closed.
-/
theorem balances_iff
    (ops : List Op)
    {p : Driver × Resources}
    (hStart : resourceMachine.Start p) :
    resourceMachine.Runs Balances ops p ↔
      resourceMachine.Runs Frugal ops p := by
  apply Machine.runs_congr (I := Stocked)
  · intro p op hStocked _
    exact balances_iff_frugal hStocked
  · intro p op hStocked hAllowed hFrugal
    exact hStocked.next hAllowed hFrugal
  · exact stocked_start hStart

theorem start_resources (regs : UBYTE → UWORD) :
    resourceMachine.Start (loadedDriver regs, 0) :=
  ⟨start_loadedDriver regs, rfl⟩

/- The unit goes online. -/
theorem balances_iff_online :
    resourceMachine.Runs Balances onlineSteps
        (loadedDriver (idleRegisters 0#16), 0) ↔
      resourceMachine.Runs Frugal onlineSteps
        (loadedDriver (idleRegisters 0#16), 0) :=
  balances_iff onlineSteps (start_resources _)

/- The unit goes offline and online again. -/
def onlineAgain : List Op :=
  onlineSteps ++ submitSteps 8 (plainRequest s2Offline) ++
    [.serviceMsgPort plainOutcome] ++
    submitSteps 8 (plainRequest s2Online) ++
    [.serviceMsgPort plainOutcome]

/- The unit is opened and closed. -/
def openedAndClosed : List Op :=
  [.openDevice 7 0#32 0#32 (plainOpen 40), .close 7]

instance
    (C : Driver × Resources → Op → Prop)
    [hGuard : ∀ p op, Decidable (C p op)]
    (ops : List Op)
    (p : Driver × Resources) :
    Decidable (resourceMachine.Runs C ops p) :=
  Machine.decidableRuns resourceMachine C
    (fun p op => inferInstanceAs (Decidable (op.Allowed p.1)))
    hGuard ops p

instance (p : Driver × Resources) (op : Op) :
    Decidable (Machine.Free p op) :=
  isTrue trivial

/- There are two receive buffers after the second time; and a
   port for writes is left by the last close. -/
theorem not_balances_onlineAgain :
    (resourceMachine.Runs Machine.Free onlineAgain
        (loadedDriver (idleRegisters 0#16), 0) ∧
      ¬ resourceMachine.Runs Balances onlineAgain
        (loadedDriver (idleRegisters 0#16), 0)) ∧
      resourceMachine.Runs Machine.Free openedAndClosed
        (loadedDriver (idleRegisters 0#16), 0) ∧
      ¬ resourceMachine.Runs Balances openedAndClosed
        (loadedDriver (idleRegisters 0#16), 0) := by
  decide +kernel

------------------------------------------------------------
-- What Is Left
------------------------------------------------------------

/- The interrupt server and its signal are live as long as
   the driver knows of them. -/
def Possession.Served (w : Possession) : Prop :=
  ∀ r, r = .sigNumber ∨ r = .interruptServer →
    w.live.count r = if w.signalTask then 1 else 0

theorem Possession.Served.installed
    {w w' : Possession}
    (hServed : w.Served)
    (hInstalled : w.Installed w') :
    w'.Served := by
  rcases hInstalled with rfl | ⟨hNone, rfl⟩
  · exact hServed
  · intro r hOwned
    have hOld := hServed r hOwned
    rw [hNone] at hOld
    rcases hOwned with rfl | rfl
    · simpa using hOld
    · simpa using hOld

theorem Possession.Served.uninstalled
    {w : Possession}
    (hServed : w.Served) :
    w.uninstalled.Served ∧
      w.uninstalled.signalTask = false := by
  unfold Possession.uninstalled
  by_cases hTask : w.signalTask = true
  · rw [if_pos hTask]
    refine ⟨fun r hOwned => ?_, rfl⟩
    have hOld := hServed r hOwned
    rw [hTask, if_pos rfl] at hOld
    rcases hOwned with rfl | rfl
    · simp [hOld]
    · simp [hOld]
  · rw [if_neg hTask]
    exact ⟨hServed, by simpa using hTask⟩

/- Every call keeps to that, and after the last one there is
   no server. -/
theorem Possession.Served.after
    {w w' : Possession}
    {c : LowLevelCall}
    (hServed : w.Served)
    (hAfter : w.After c w') :
    w'.Served ∧ (c = .deinit → w'.signalTask = false) := by
  cases c with
  | init =>
      refine ⟨?_, by simp⟩
      rcases hAfter with rfl | rfl
      · exact hServed
      · intro r hOwned
        rw [← hServed r hOwned]
        apply Multiset.count_cons_of_ne
        rcases hOwned with rfl | rfl
        · decide
        · decide
  | online => exact ⟨hServed.installed hAfter, by simp⟩
  | offline =>
      have hEnd : w' = w.uninstalled := hAfter
      rw [hEnd]
      exact ⟨hServed.uninstalled.1, by simp⟩
  | deinit =>
      have hEnd : w' = w.uninstalled := hAfter
      rw [hEnd]
      exact ⟨hServed.uninstalled.1,
        fun _ => hServed.uninstalled.2⟩
  | _ =>
      have hEnd : w' = w := hAfter
      rw [hEnd]
      exact ⟨hServed, by simp⟩

theorem served_accountCalls
    {cs : List LowLevelCall}
    {p : NicState × Resources}
    (hServed : (possession p).Served) :
    (possession (accountCalls cs p)).Served := by
  induction cs generalizing p with
  | nil => exact hServed
  | cons c cs ih =>
      exact ih (hServed.after (after_accountCall c p)).1

theorem fst_accountCalls
    (cs : List LowLevelCall) (p : NicState × Resources) :
    (accountCalls cs p).1 = runCalls cs p.1 := by
  induction cs generalizing p with
  | nil => rfl
  | cons c cs ih =>
      refine (ih (accountCall c p)).trans ?_
      rw [fst_accountCall]
      rfl

/- What is live is what the state tells: the unit, the openers
   and the interrupt server. -/
structure Accounted (p : Driver × Resources) : Prop where
  openers : p.1.Openers
  unit : ∀ r : Resource, r.OfUnit → r ≠ .euTx →
    p.2.count r = if p.1.base.unit0 then 1 else 0
  buffMgmt : ∀ bm, p.2.count (.bufferManagement bm) =
    p.1.unit.buffMgmt.count bm
  served : (possession (p.1.nic, p.2)).Served

section Accounted

variable {p : Driver × Resources} {op : Op}

theorem accounted_start
    (hStart : resourceMachine.Start p)
    (hTask : p.1.nic.iface.signalTask = false) :
    Accounted p where
  openers := Openers.start hStart.1
  unit := by
    intro r _ _
    rw [hStart.2, hStart.1.2.2.2.1]
    rfl
  buffMgmt := by
    intro bm
    rw [hStart.2, hStart.1.2.2.1]
    rfl
  served := by
    intro r _
    have hNone :
        (possession (p.1.nic, p.2)).signalTask = false := hTask
    rw [hNone]
    show p.2.count r = 0
    rw [hStart.2]
    rfl

/- What does not belong to the low level driver. -/
theorem count_next_of_foreign
    {r : Resource}
    (p : Driver × Resources)
    (op : Op)
    (hSignal : r ≠ .sigNumber)
    (hServer : r ≠ .interruptServer)
    (hBuffer : r ≠ .rxBuffer) :
    ∃ live : Resources, live.count r = p.2.count r ∧
      (resourceMachine.next p op).2 = p.1.account op live :=
  ⟨_, count_calls_of_foreign hSignal hServer hBuffer op, rfl⟩

theorem Accounted.unit_next
    {r : Resource}
    (hAccounted : Accounted p)
    (hOf : r.OfUnit)
    (hPort : r ≠ .euTx) :
    (resourceMachine.next p op).2.count r =
      if (p.1.next op).base.unit0 then 1 else 0 := by
  have hOpener (bm : APTR) : r ≠ .bufferManagement bm := by
    rintro rfl
    exact hOf
  have hForeign :
      r ≠ .sigNumber ∧ r ≠ .interruptServer ∧
        r ≠ .rxBuffer ∧
        ∀ packetType, r ≠ .superS2PTStats packetType := by
    cases r <;> simp_all [Resource.OfUnit]
  rcases count_next_of_foreign p op
    hForeign.1 hForeign.2.1 hForeign.2.2.1 with
      ⟨live, hLive, hNext⟩
  have hOld := hLive.trans (hAccounted.unit r hOf hPort)
  rw [hNext]
  rcases op.kinds with ⟨ios2, s2unit, s2flags, env, rfl⟩ |
    ⟨ios2, rfl⟩ | hCalm
  · have hUnit :=
      (opened_deviceOpen ios2 s2unit s2flags env p.1).unit0
    refine (count_accountOpen s2unit s2flags env).trans ?_
    change _ = if (deviceOpen ios2 s2unit s2flags env
      p.1).base.unit0 = true then 1 else 0
    rw [hOld, if_congr hUnit rfl rfl]
    unfold StartsUnit
    by_cases hThere : p.1.base.unit0 = true
    · simp [hThere, hOpener]
    · simp [hThere, hOpener, hOf]
  · refine (count_accountClose ios2).trans ?_
    change _ = if (deviceClose ios2 p.1).2.base.unit0 = true
      then 1 else 0
    rw [hOld, unit0_deviceClose]
    by_cases hLast : ClosesUnit ios2 p.1
    · simp [hLast, hOpener, hOf, hPort, hLast.2.2.2]
    · simp [hLast, hOpener]
  · rw [(Tally.calm_next p.1 hCalm).2.1, ← hOld]
    exact count_account_of_calm hCalm hForeign.2.2.2

theorem Accounted.buffMgmt_next
    (hAccounted : Accounted p)
    (hAllowed : op.Allowed p.1)
    (bm : APTR) :
    (resourceMachine.next p op).2.count
        (.bufferManagement bm) =
      (p.1.next op).unit.buffMgmt.count bm := by
  rcases count_next_of_foreign (r := .bufferManagement bm)
    p op (by simp) (by simp) (by simp) with
      ⟨live, hLive, hNext⟩
  have hOld := hLive.trans (hAccounted.buffMgmt bm)
  rw [hNext]
  rcases op.kinds with ⟨ios2, s2unit, s2flags, env, rfl⟩ |
    ⟨ios2, rfl⟩ | hCalm
  · have hOpened :=
      opened_deviceOpen ios2 s2unit s2flags env p.1
    rcases hOpened.buffMgmt with ⟨old, hSame, hNow⟩
    have hSame : old = p.1.unit.buffMgmt := by
      rcases hSame with hSame | ⟨hFreed, hNone⟩
      · exact hSame
      · rw [hNone, hAccounted.openers.freed hFreed]
    refine (count_accountOpen s2unit s2flags env).trans ?_
    change _ = (deviceOpen ios2 s2unit s2flags env
      p.1).unit.buffMgmt.count bm
    rw [hNow, hOld, hSame]
    by_cases hSucceeds : Succeeds s2unit s2flags env p.1
    · rw [if_pos hSucceeds, List.count_append,
        List.count_singleton]
      by_cases hNew : env.bm = bm
      · simp [hSucceeds, hNew, Resource.OfUnit]
      · simp [hSucceeds, hNew, Ne.symm hNew, Resource.OfUnit]
    · simp [hSucceeds, Resource.OfUnit]
  · refine (count_accountClose ios2).trans ?_
    rw [hOld]
    rcases hAllowed.2.2 with hNone | hHandle
    · have hSame : p.1.next (.close ios2) = p.1 :=
        deviceClose_of_unit_none hNone
      rw [hSame]
      simp [FreesOpener, hNone, Resource.OfUnit]
    · have hClosed :=
        (closed_deviceClose hAccounted.openers
          hHandle).buffMgmt
      have hNonNull : (p.1.reqs ios2).bufferManagement ≠ 0 :=
        fun hNull =>
          hAccounted.openers.nonNull (hNull ▸ hHandle.2.2)
      have hFrees : FreesOpener ios2 p.1 :=
        ⟨⟨hHandle.1, hHandle.2.1⟩, hNonNull, hHandle.2.2⟩
      change _ = (deviceClose ios2 p.1).2.unit.buffMgmt.count bm
      rw [hClosed, List.count_erase]
      by_cases hOwn : (p.1.reqs ios2).bufferManagement = bm
      · simp [hFrees, hOwn, Resource.OfUnit]
      · simp [hFrees, hOwn, Ne.symm hOwn, Resource.OfUnit]
  · rw [(Tally.calm_next p.1 hCalm).2.2.2.1, ← hOld]
    exact count_account_of_calm hCalm (by simp)

/- The account of the device leaves the server. -/
theorem Possession.Served.account
    {n n' : NicState}
    {live : Resources}
    (hServed : (possession (n, live)).Served)
    (hTask : n'.iface.signalTask = n.iface.signalTask)
    (s : Driver)
    (op : Op) :
    (possession (n', s.account op live)).Served := by
  intro r hOwned
  have hSame :
      (possession (n', s.account op live)).signalTask =
        (possession (n, live)).signalTask := hTask
  rw [hSame, ← hServed r hOwned]
  rcases hOwned with rfl | rfl
  · exact count_account_of_lowLevel id (by simp) (by simp) op
  · exact count_account_of_lowLevel id (by simp) (by simp) op

theorem Accounted.served_next (hAccounted : Accounted p) :
    (possession ((p.1.next op).nic,
      (resourceMachine.next p op).2)).Served := by
  have hCalls :
      (possession (accountCalls (p.1.calls op)
        (p.1.nic, p.2))).Served :=
    served_accountCalls hAccounted.served
  have hNic := fst_accountCalls (p.1.calls op) (p.1.nic, p.2)
  refine Possession.Served.account hCalls ?_ p.1 op
  rw [hNic]
  by_cases hHardware : ∃ regs, op = .hardware regs
  · rcases hHardware with ⟨regs, rfl⟩
    rfl
  · rw [nic_next p.1 (fun regs hOp => hHardware ⟨regs, hOp⟩)]

/- A close counts down to zero only with the last opener. -/
def KeepsCount (s : Driver) (op : Op) : Prop :=
  ∀ ios2, op = .close ios2 → s.OpenHandle ios2 → s.CountsDown

theorem Accounted.next
    (hAccounted : Accounted p)
    (hAllowed : resourceMachine.Allowed p op)
    (hCounts : KeepsCount p.1 op) :
    Accounted (resourceMachine.next p op) where
  openers := hAccounted.openers.next hAllowed hCounts
  unit := fun _ hOf hPort => hAccounted.unit_next hOf hPort
  buffMgmt := hAccounted.buffMgmt_next hAllowed
  served := hAccounted.served_next

/- The unit is ended by the last close, and the low level
   driver with it. -/
theorem closesUnit_of_closesLast
    {ios2 : APTR}
    (hAccounted : Accounted p)
    (hLast : p.1.ClosesLast (.close ios2)) :
    ClosesUnit ios2 p.1 := by
  have hOpen := hLast.1.2.2
  have hUnit := hAccounted.openers.unit0_of_mem hOpen
  have hListed : p.1.Listed :=
    ⟨hAccounted.openers.nodup, hAccounted.openers.nonNull⟩
  have hOnly := (closesLast_iff hListed hLast.1).mp hLast
  have hCount := hAccounted.openers.counted hUnit
  refine ⟨hLast.1.1, hLast.1.2.1, ?_, hUnit⟩
  rw [hCount, hOnly, List.length_singleton]
  decide

theorem signalTask_of_closesLast
    {ios2 : APTR}
    (hAccounted : Accounted p)
    (hLast : p.1.ClosesLast (.close ios2)) :
    (p.1.next (.close ios2)).nic.iface.signalTask = false := by
  have hCalls : p.1.calls (.close ios2) = [.deinit] :=
    if_pos (closesUnit_of_closesLast hAccounted hLast)
  have hEnd := (hAccounted.served.after
    (after_accountCall .deinit (p.1.nic, p.2))).2 rfl
  rw [nic_next p.1 (by simp), hCalls]
  change (accountCall .deinit
    (p.1.nic, p.2)).1.iface.signalTask = false at hEnd
  rwa [fst_accountCall] at hEnd

/-
  After the last close, nothing is left but receive buffers,
  ports for writes and nodes of tracked types.
-/
theorem left_of_closesLast
    {r : Resource}
    (hAccounted : Accounted p)
    (hAllowed : resourceMachine.Allowed p op)
    (hCounts : KeepsCount p.1 op)
    (hLast : p.1.ClosesLast op)
    (hLeft : r ∈ (resourceMachine.next p op).2) :
    r = .rxBuffer ∨ r = .euTx ∨
      ∃ packetType, r = .superS2PTStats packetType := by
  cases op with
  | close ios2 =>
      have hNext := hAccounted.next hAllowed hCounts
      have hOpeners : (p.1.next (.close ios2)).unit.buffMgmt =
          [] := hLast.2
      have hUnit :
          (p.1.next (.close ios2)).base.unit0 = false := by
        show (deviceClose ios2 p.1).2.base.unit0 = false
        rw [unit0_deviceClose, if_pos
          (closesUnit_of_closesLast hAccounted hLast)]
      have hTask := signalTask_of_closesLast hAccounted hLast
      rw [← Multiset.one_le_count_iff_mem] at hLeft
      have hNone
          (hZero : (resourceMachine.next p
            (.close ios2)).2.count r = 0) : False := by
        rw [hZero] at hLeft
        cases hLeft
      have hFreed
          (hOwned : r = .sigNumber ∨ r = .interruptServer) :
          (resourceMachine.next p (.close ios2)).2.count r =
            0 := by
        refine (hNext.served r hOwned).trans (if_neg ?_)
        rw [Bool.not_eq_true]
        exact hTask
      by_cases hOf : r.OfUnit ∧ r ≠ .euTx
      · refine (hNone ((hNext.unit r hOf.1 hOf.2).trans
          (if_neg ?_))).elim
        rw [Bool.not_eq_true]
        exact hUnit
      · cases r with
        | rxBuffer => exact Or.inl rfl
        | euTx => exact Or.inr (Or.inl rfl)
        | superS2PTStats packetType =>
            exact Or.inr (Or.inr ⟨packetType, rfl⟩)
        | sigNumber => exact (hNone (hFreed (Or.inl rfl))).elim
        | interruptServer =>
            exact (hNone (hFreed (Or.inr rfl))).elim
        | bufferManagement bm =>
            have hEmpty : (resourceMachine.next p
                (.close ios2)).1.unit.buffMgmt = [] := hOpeners
            apply (hNone ?_).elim
            rw [hNext.buffMgmt, hEmpty]
            rfl
        | _ => exact absurd ⟨trivial, by simp⟩ hOf
  | _ => exact hLast.elim

end Accounted

theorem Accounted.run
    (ops : List Op)
    {p : Driver × Resources}
    (hAccounted : Accounted p)
    (hRuns : resourceMachine.Runs
      (fun p op => KeepsCount p.1 op) ops p) :
    Accounted (resourceMachine.run ops p) := by
  induction ops generalizing p with
  | nil => exact hAccounted
  | cons op ops ih =>
      exact ih (hAccounted.next hRuns.1.1 hRuns.1.2) hRuns.2

/- So it is in every run that starts without an interrupt
   server. -/
theorem accounted_run
    (ops : List Op)
    {p : Driver × Resources}
    (hStart : resourceMachine.Start p)
    (hTask : p.1.nic.iface.signalTask = false)
    (hRuns : resourceMachine.Runs
      (fun p op => KeepsCount p.1 op) ops p) :
    Accounted (resourceMachine.run ops p) :=
  (accounted_start hStart hTask).run ops hRuns

end KszDriver
