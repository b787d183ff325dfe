import KszDriver.Device.Calls
import KszDriver.Device.Openers

/-
  The MTU of the unit is set when the unit is made and stays
  as it is.

  Main declarations:
    * `mtu_performIo`
    * `mtu_of_reach`
-/

------------------------------------------------------------
-- Operations That Keep the MTU
------------------------------------------------------------

namespace KszDriver

open Driver

def Driver.mtu (s : Driver) : ULONG :=
  s.unit.mtu

theorem mtu_of_rest
    {s s' : Driver}
    (hRest : s'.rest = s.rest) :
    s'.mtu = s.mtu :=
  congrArg DeviceDriverUnit.mtu (unit_of_rest hRest)

section Handlers

variable (o : Outcome) (ios2 : APTR) (s : Driver)

@[simp] theorem mtu_runSend (p : NicM ErrorT) :
    (s.runSend ios2 p).mtu = s.mtu := rfl

@[simp] theorem mtu_setErrorOnRequest
    (ioError : Int) (wireError : ULONG) :
    (s.setErrorOnRequest ios2 ioError wireError).mtu = s.mtu :=
  rfl

@[simp] theorem mtu_copyFromBuffer (offset : Nat) :
    (s.copyFromBuffer o ios2 offset).mtu = s.mtu := rfl

@[simp] theorem mtu_termIo : (s.termIo ios2).mtu = s.mtu :=
  mtu_of_rest (rest_termIo s ios2)

@[simp] theorem mtu_doEvent (events : ULONG) :
    (s.doEvent events).mtu = s.mtu :=
  mtu_of_rest (rest_doEvent s events)

/- Either branch of a check. -/
theorem mtu_ite
    {c : Prop} [Decidable c]
    {s₁ s₂ : Driver}
    (hThen : s₁.mtu = s.mtu)
    (hElse : s₂.mtu = s.mtu) :
    (if c then s₁ else s₂).mtu = s.mtu := by
  split
  · exact hThen
  · exact hElse

------------------------------------------------------------
-- Sending
------------------------------------------------------------

theorem mtu_sendOne : (sendOne o ios2 s).mtu = s.mtu := by
  have hRaw : (sendRaw o ios2 s).mtu = s.mtu := by
    unfold sendRaw
    dsimp only
    split
    · split <;> simp
    · simp
  have hCopied : (sendCopied o ios2 s).mtu = s.mtu := by
    unfold sendCopied
    dsimp only
    split <;> simp <;> rfl
  have hCooked : (sendCooked o ios2 s).mtu = s.mtu := by
    unfold sendCooked
    dsimp only
    split
    · split
      · simp
      · exact hCopied
    · simp
  have hSent :
      (if (s.reqs ios2).Raw then sendRaw o ios2 s
        else sendCooked o ios2 s).mtu = s.mtu :=
    mtu_ite s hRaw hCooked
  unfold sendOne
  dsimp only
  rw [mtu_termIo]
  generalize (if (s.reqs ios2).Raw then sendRaw o ios2 s
    else sendCooked o ios2 s) = s₁ at hSent ⊢
  exact mtu_ite s ((mtu_doEvent s₁ _).trans hSent) hSent

------------------------------------------------------------
-- Performing
------------------------------------------------------------

/- No act changes the MTU. -/
theorem mtu_act
    {waiting : List APTR}
    {s s' : Driver}
    (hAct : Act o ios2 waiting s s') :
    s'.mtu = s.mtu := by
  cases hAct with
  | setUnit f hSparing => exact hSparing.mtu s.unit
  | sends r hWaits => exact mtu_sendOne o r _
  | aborts r => exact mtu_of_rest (rest_abortOne s r)
  | fires events hKnown => exact mtu_doEvent s events
  | ends => exact mtu_termIo ios2 s
  | _ => rfl

theorem mtu_performIo : (performIo o ios2 s).mtu = s.mtu :=
  performIo_rule (I := fun t => t.mtu = s.mtu) rfl
    (fun _ _ hAct hMtu => (mtu_act o ios2 hAct).trans hMtu)

------------------------------------------------------------
-- Entry Points
------------------------------------------------------------

theorem mtu_deviceBeginIo :
    (deviceBeginIo o ios2 s).mtu = s.mtu := by
  unfold deviceBeginIo
  exact mtu_ite s (mtu_performIo o ios2 _) rfl

theorem mtu_deviceAbortIo :
    (deviceAbortIo ios2 s).2.mtu = s.mtu := by
  rcases deviceAbortIo_cases ios2 s with
    hSame | ⟨-, hAborted⟩
  · rw [hSame]
  · rw [hAborted]
    exact mtu_of_rest (rest_abortOne s ios2)

theorem mtu_serviceMsgPort :
    (serviceMsgPort o s).mtu = s.mtu := by
  unfold serviceMsgPort
  split
  · rfl
  · exact mtu_performIo o _ _

theorem mtu_fulfillReadIORequest
    (head : ListHead) (buffer : Memory) (size : UWORD) :
    (fulfillReadIORequest o head ios2 buffer size s).2.mtu =
      s.mtu := by
  unfold fulfillReadIORequest
  split
  · dsimp only
    split
    · split
      · exact mtu_termIo ios2 _
      · exact (mtu_termIo ios2 _).trans (mtu_doEvent _ _)
    · rfl
  · rfl

theorem mtu_onPktReceived (buffer : Memory) (size : UWORD) :
    (onPktReceived o buffer size s).mtu = s.mtu := by
  apply onPktReceived_rule (I := fun t => t.mtu = s.mtu)
  · intro t head r _ _ _ hMtu
    exact (mtu_fulfillReadIORequest o r t head buffer
      size).trans hMtu
  · rfl

theorem mtu_deviceExpunge :
    (deviceExpunge s).2.mtu = s.mtu := by
  rw [deviceExpunge_setBase]
  rfl

theorem mtu_deviceClose :
    (deviceClose ios2 s).2.mtu = s.mtu := by
  have hKept : KeptByClose ios2 (fun t => t.mtu = s.mtu) :=
    { abortOne := fun t r hMtu =>
        (mtu_of_rest (rest_abortOne t r)).trans hMtu
      erase := fun _ _ hMtu => hMtu
      setReq := fun _ _ _ hMtu => hMtu
      setBase := fun _ _ _ hMtu => hMtu
      countDown := fun _ hMtu => hMtu
      expungeUnit := fun t hMtu => by
        unfold expungeUnit
        split
        · exact hMtu
        · exact hMtu }
  exact hKept.deviceClose rfl

end Handlers

------------------------------------------------------------
-- Every Run
------------------------------------------------------------

/- The unit, while it is up, has the MTU that it was made
   with. -/
def Driver.EthernetMtu (s : Driver) : Prop :=
  s.base.unit0 = true → s.mtu = 1500#32

/- A unit is made with the MTU of the Ethernet. -/
theorem ethernetMtu_initUnitProcess
    {s : Driver}
    (env : OpenEnv)
    (hMtu : s.EthernetMtu) :
    (initUnitProcess env s).EthernetMtu := by
  unfold initUnitProcess
  split
  · exact hMtu
  · split
    · exact fun _ => rfl
    · exact hMtu

theorem ethernetMtu_deviceOpen
    {s : Driver}
    (ios2 : APTR)
    (s2unit s2flags : ULONG)
    (env : OpenEnv)
    (hMtu : s.EthernetMtu) :
    (deviceOpen ios2 s2unit s2flags env s).EthernetMtu := by
  apply deviceOpen_rule (I := Driver.EthernetMtu)
    (J := Driver.EthernetMtu)
  · exact fun _ _ _ hKept => hKept
  · exact fun _ _ hKept => hKept
  · exact fun _ hKept => hKept
  · exact fun _ hKept => ethernetMtu_initUnitProcess env hKept
  · exact fun _ hKept => hKept
  · exact fun _ _ _ hKept => hKept
  · exact hMtu

/- Every step but an open keeps the MTU. -/
theorem mtu_next
    {op : Op}
    (s : Driver)
    (hOther : ∀ ios2 s2unit s2flags env,
      op ≠ .openDevice ios2 s2unit s2flags env) :
    (s.next op).mtu = s.mtu := by
  cases op with
  | openDevice ios2 s2unit s2flags env =>
      exact absurd rfl (hOther ios2 s2unit s2flags env)
  | close ios2 => exact mtu_deviceClose ios2 s
  | expunge => exact mtu_deviceExpunge s
  | beginIo ios2 o => exact mtu_deviceBeginIo o ios2 s
  | abortIo ios2 => exact mtu_deviceAbortIo ios2 s
  | serviceMsgPort o => exact mtu_serviceMsgPort o s
  | pktReceived buffer size o =>
      exact mtu_onPktReceived o s buffer size
  | doEvent events => exact mtu_doEvent s events
  | configChanged addr => rfl
  | clientWrite ios2 req => rfl
  | hardware regs => rfl

/- And no other step brings the unit up. -/
theorem unit0_of_next
    {op : Op}
    {s : Driver}
    (hOther : ∀ ios2 s2unit s2flags env,
      op ≠ .openDevice ios2 s2unit s2flags env)
    (hUp : (s.next op).base.unit0 = true) :
    s.base.unit0 = true := by
  cases op with
  | openDevice ios2 s2unit s2flags env =>
      exact absurd rfl (hOther ios2 s2unit s2flags env)
  | close ios2 =>
      change (deviceClose ios2 s).2.base.unit0 = true at hUp
      rw [unit0_deviceClose] at hUp
      split at hUp
      · exact absurd hUp Bool.false_ne_true
      · exact hUp
  | expunge =>
      change (deviceExpunge s).2.base.unit0 = true at hUp
      rw [unit0_deviceExpunge] at hUp
      exact hUp
  | serviceMsgPort o =>
      rw [← (serves_serviceMsgPort o s).base]
      exact hUp
  | _ =>
      have hBase := congrArg DeviceBase.unit0
        (steady_next s hOther (by simp) (by simp)
          (by simp)).base
      exact hBase.symm.trans hUp

theorem ethernetMtu_next
    {s : Driver}
    (op : Op)
    (hMtu : s.EthernetMtu) :
    (s.next op).EthernetMtu := by
  by_cases hOpen : ∃ ios2 s2unit s2flags env,
      op = .openDevice ios2 s2unit s2flags env
  · rcases hOpen with ⟨ios2, s2unit, s2flags, env, rfl⟩
    exact ethernetMtu_deviceOpen ios2 s2unit s2flags env hMtu
  · have hOther : ∀ ios2 s2unit s2flags env,
        op ≠ .openDevice ios2 s2unit s2flags env := by
      intro ios2 s2unit s2flags env hSame
      exact hOpen ⟨ios2, s2unit, s2flags, env, hSame⟩
    intro hUp
    rw [mtu_next s hOther]
    exact hMtu (unit0_of_next hOther hUp)

theorem mtu_of_reach
    {s : Driver}
    (hReach : deviceMachine.Reach Machine.Free s)
    (hUp : s.base.unit0 = true) :
    s.unit.mtu = 1500#32 := by
  have hMtu : s.EthernetMtu := by
    refine hReach.invariant (I := Driver.EthernetMtu) ?_ ?_
    · intro s hStart hUp
      rw [hStart.2.2.2.1] at hUp
      exact absurd hUp Bool.false_ne_true
    · intro s op _ _ hMtu
      exact ethernetMtu_next op hMtu
  exact hMtu hUp

end KszDriver
