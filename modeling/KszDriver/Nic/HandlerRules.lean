import KszDriver.Nic.SourceBits

/-
  What the interrupt server and the unit task know about the
  registers they share, and the rules for the register
  accesses of either.

  Assertions speak about a `View`: the interrupt status, the
  enable bits, the acknowledgements, the driver signal and
  the Disable nest count.  `Rely` is what hardware and
  interrupt server may do between two operations of the unit
  task; `Drift` is what the hardware alone may do.

  Main declarations:
    * `View`, `View.Rely`, `View.Drift`
    * `Rely`, `Drift`
    * `Holds.readReg`, `Holds.writeReg`, `Holds.setBit`
-/

------------------------------------------------------------
-- Views
------------------------------------------------------------

namespace KszDriver

/- The part of the host that the assertions speak about. -/
structure View where
  isr : UWORD
  ier : UWORD
  acked : UWORD
  signaled : Bool
  nest : Nat

/- The view of a host. -/
def Host.view (h : Host) : View where
  isr := h.reg regIsr
  ier := h.reg regIer
  acked := h.acked
  signaled := h.nic.signaled
  nest := h.nic.nest

/- The register selection that a data-port access uses. -/
def Host.latch (h : Host) : UWORD × Bool :=
  (h.nic.chip.cmd, h.nic.chip.armed)

/- The view after `v` has been written to register `a`. -/
def View.write
    (byTask : Bool) (a : UBYTE) (v : UWORD) (w : View) :
    View :=
  if a = regIsr then
    { w with
      isr := w.isr &&& ~~~v
      acked := if byTask then w.acked ||| v else w.acked }
  else if a = regIer then { w with ier := v }
  else w

------------------------------------------------------------
-- Interference
------------------------------------------------------------

namespace View

/- What the hardware may do to a view. -/
structure Drift (w w' : View) : Prop where
  nest : w'.nest = w.nest
  acked : w'.acked = w.acked
  signaled : w'.signaled = w.signaled
  ier : w'.ier = w.ier
  pending : ∀ src : Source, src.In w.isr → src.In w'.isr
  fresh : ∀ i, w'.isr.getLsbD i = true →
    w.isr.getLsbD i = true ∨ onlineIerMask.getLsbD i = true

/-
  What the hardware and the interrupt server may do.  A
  source is masked only with its status bit set and the
  driver signal pending, and never under Disable.
-/
structure Rely (w w' : View) : Prop where
  nest : w'.nest = w.nest
  acked : w'.acked = w.acked
  signaled : w.signaled = true → w'.signaled = true
  enabled : ∀ i, w'.ier.getLsbD i = true →
    w.ier.getLsbD i = true
  masked : ∀ src : Source, src.In w.ier → ¬ src.In w'.ier →
    w'.signaled = true ∧ src.In w'.isr
  locked : 0 < w.nest → w'.ier = w.ier
  pending : ∀ src : Source, src.In w.isr → src.In w'.isr
  fresh : ∀ i, w'.isr.getLsbD i = true →
    w.isr.getLsbD i = true ∨ onlineIerMask.getLsbD i = true

theorem Drift.refl (w : View) : w.Drift w where
  nest := rfl
  acked := rfl
  signaled := rfl
  ier := rfl
  pending := fun _ hSet => hSet
  fresh := fun _ hSet => Or.inl hSet

theorem Drift.trans
    {w₁ w₂ w₃ : View}
    (hFirst : w₁.Drift w₂)
    (hSecond : w₂.Drift w₃) :
    w₁.Drift w₃ where
  nest := hSecond.nest.trans hFirst.nest
  acked := hSecond.acked.trans hFirst.acked
  signaled := hSecond.signaled.trans hFirst.signaled
  ier := hSecond.ier.trans hFirst.ier
  pending := fun src hSet =>
    hSecond.pending src (hFirst.pending src hSet)
  fresh := by
    intro i hSet
    rcases hSecond.fresh i hSet with hMiddle | hSource
    · exact hFirst.fresh i hMiddle
    · exact Or.inr hSource

theorem Drift.rely
    {w w' : View}
    (hDrift : w.Drift w') :
    w.Rely w' where
  nest := hDrift.nest
  acked := hDrift.acked
  signaled := fun hSet => hDrift.signaled.trans hSet
  enabled := by
    intro i hSet
    rwa [hDrift.ier] at hSet
  masked := by
    intro src hSet hClear
    rw [hDrift.ier] at hClear
    exact absurd hSet hClear
  locked := fun _ => hDrift.ier
  pending := hDrift.pending
  fresh := hDrift.fresh

theorem Rely.trans
    {w₁ w₂ w₃ : View}
    (hFirst : w₁.Rely w₂)
    (hSecond : w₂.Rely w₃) :
    w₁.Rely w₃ where
  nest := hSecond.nest.trans hFirst.nest
  acked := hSecond.acked.trans hFirst.acked
  signaled := fun hSet =>
    hSecond.signaled (hFirst.signaled hSet)
  enabled := fun i hSet =>
    hFirst.enabled i (hSecond.enabled i hSet)
  masked := by
    intro src hSet hClear
    by_cases hMiddle : src.In w₂.ier
    · exact hSecond.masked src hMiddle hClear
    · rcases hFirst.masked src hSet hMiddle with
        ⟨hSignaled, hPending⟩
      exact ⟨hSecond.signaled hSignaled,
        hSecond.pending src hPending⟩
  locked := by
    intro hNest
    rw [hSecond.locked (by rw [hFirst.nest]; exact hNest),
      hFirst.locked hNest]
  pending := fun src hSet =>
    hSecond.pending src (hFirst.pending src hSet)
  fresh := by
    intro i hSet
    rcases hSecond.fresh i hSet with hMiddle | hSource
    · exact hFirst.fresh i hMiddle
    · exact Or.inr hSource

/- Only bits of the sources are set anew. -/
theorem Rely.onlySources
    {w w' : View}
    (hRely : w.Rely w')
    (hOnly : OnlySources w.isr) :
    OnlySources w'.isr := by
  intro i hSet
  exact (hRely.fresh i hSet).elim (hOnly i) id

end View

/- Interference by the hardware. -/
structure Drift (h h' : Host) : Prop where
  view : h.view.Drift h'.view
  latch : h'.latch = h.latch

/-
  Interference by hardware and interrupt server.  Under
  Disable the server does not run and the register selection
  stays as it is.
-/
structure Rely (h h' : Host) : Prop where
  view : h.view.Rely h'.view
  latch : 0 < h.view.nest → h'.latch = h.latch

theorem Drift.refl (h : Host) : Drift h h where
  view := View.Drift.refl h.view
  latch := rfl

theorem Drift.trans
    (h₁ h₂ h₃ : Host)
    (hFirst : Drift h₁ h₂)
    (hSecond : Drift h₂ h₃) :
    Drift h₁ h₃ where
  view := hFirst.view.trans hSecond.view
  latch := hSecond.latch.trans hFirst.latch

theorem Drift.rely
    {h h' : Host}
    (hDrift : Drift h h') :
    Rely h h' where
  view := hDrift.view.rely
  latch := fun _ => hDrift.latch

theorem Rely.refl (h : Host) : Rely h h :=
  (Drift.refl h).rely

theorem Rely.trans
    (h₁ h₂ h₃ : Host)
    (hFirst : Rely h₁ h₂)
    (hSecond : Rely h₂ h₃) :
    Rely h₁ h₃ where
  view := hFirst.view.trans hSecond.view
  latch := by
    intro hNest
    rw [hSecond.latch (by rw [hFirst.view.nest]; exact hNest),
      hFirst.latch hNest]

/- Hardware that sets source bits only; it changes no
   latch. -/
theorem drift_disturb
    {bits : UWORD}
    (hSources : bits &&& ~~~onlineIerMask = 0#16)
    (values : UBYTE → UWORD)
    (h : Host) :
    Drift h (h.disturb bits values) where
  latch := rfl
  view :=
    { nest := rfl
      acked := rfl
      signaled := rfl
      ier := rfl
      pending := fun src hSet =>
        (src.in_or_iff _ _).mpr (Or.inl hSet)
      fresh := by
        intro i hSet
        have hBits :
            (h.view.isr ||| bits).getLsbD i = true := hSet
        rw [BitVec.getLsbD_or, Bool.or_eq_true] at hBits
        exact hBits.imp id (onlySources_of_and_not hSources i) }

------------------------------------------------------------
-- Operations on Views
------------------------------------------------------------

variable {byTask : Bool}

/- The operations that leave the view as it is. -/
def NicOp.Quiet : NicOp → Prop
| .dataReg _ | .disable | .enable | .signal | .freeSignal =>
    False
| _ => True

theorem view_exec_of_quiet
    (op : NicOp)
    (hQuiet : op.Quiet)
    (h : Host) :
    (h.exec byTask op).2.view = h.view := by
  cases op with
  | readDataReg =>
      simp [Host.exec, Host.view, Host.reg, NicOp.exec,
        Host.ackedAfter]
  | dataReg | disable | enable | signal | freeSignal =>
      exact hQuiet.elim
  | _ => simp [Host.exec, Host.view, Host.reg, NicOp.exec,
      Chip.writeCmd, Host.ackedAfter]

@[simp] theorem view_exec_disable (h : Host) :
    (h.exec byTask .disable).2.view =
      { h.view with nest := h.view.nest + 1 } := by
  simp [Host.exec, Host.view, Host.reg, NicOp.exec,
    Host.ackedAfter]

@[simp] theorem view_exec_enable (h : Host) :
    (h.exec byTask .enable).2.view =
      { h.view with nest := h.view.nest - 1 } := by
  simp [Host.exec, Host.view, Host.reg, NicOp.exec,
    Host.ackedAfter]

@[simp] theorem view_exec_signal (h : Host) :
    (h.exec byTask .signal).2.view =
      { h.view with signaled := true } := by
  simp [Host.exec, Host.view, Host.reg, NicOp.exec,
    Host.ackedAfter]

/- The register selected by a command word. -/
@[simp] theorem selected_cmdWord
    (isInBigEndianMode : Bool) (offset : UBYTE) :
    (cmdWord isInBigEndianMode offset).setWidth 8 =
      offset := by
  cases isInBigEndianMode <;>
    (revert offset; decide +kernel)

/- A command word arms the access to its register. -/
theorem accesses_exec_cmdReg
    (isInBigEndianMode : Bool) (offset : UBYTE) (h : Host) :
    (h.exec byTask
      (.cmdReg (cmdWord isInBigEndianMode offset))).2.Accesses
        offset :=
  ⟨rfl, selected_cmdWord isInBigEndianMode offset⟩

/- The latch decides which register an access goes to. -/
theorem Host.Accesses.of_latch
    {h h' : Host}
    {a : UBYTE}
    (hAccesses : h.Accesses a)
    (hLatch : h'.latch = h.latch) :
    h'.Accesses a := by
  have hCmd : h'.nic.chip.cmd = h.nic.chip.cmd :=
    congrArg Prod.fst hLatch
  have hArmed : h'.nic.chip.armed = h.nic.chip.armed :=
    congrArg Prod.snd hLatch
  refine ⟨hArmed.trans hAccesses.1, ?_⟩
  unfold Chip.selected
  rw [hCmd]
  exact hAccesses.2

/- An armed read answers with the selected register. -/
theorem exec_readDataReg_fst
    {h : Host}
    {a : UBYTE}
    (hAccesses : h.Accesses a) :
    (h.exec byTask .readDataReg).1 = h.reg a := by
  simp [Host.exec, NicOp.exec, Chip.readData, hAccesses.1,
    hAccesses.2, Host.reg]

theorem regIer_ne_regIsr : regIer ≠ regIsr := by
  decide

/- An armed write changes the selected register only. -/
theorem view_exec_dataReg
    {h : Host}
    {a : UBYTE}
    (hAccesses : h.Accesses a)
    (v : UWORD) :
    (h.exec byTask (.dataReg v)).2.view =
      h.view.write byTask a v := by
  have hReg :
      ((h.exec byTask (.dataReg v)).2.nic.chip).reg =
        Function.update h.nic.chip.reg a
          (if a = regIsr then h.nic.chip.reg a &&& ~~~v
          else v) := by
    rw [← hAccesses.2, ← Chip.reg_writeReg]
    exact Chip.reg_writeData_of_armed v hAccesses.1
  unfold Host.view Host.reg View.write
  rw [hReg]
  by_cases hIsr : a = regIsr
  · subst hIsr
    simp [Host.exec, NicOp.exec, Host.ackedAfter, hAccesses,
      regIer_ne_regIsr]
  · have hAcked : ¬ h.Accesses regIsr := by
      rintro ⟨-, hSelected⟩
      exact hIsr (hAccesses.2.symm.trans hSelected)
    by_cases hIer : a = regIer
    · subst hIer
      simp [Host.exec, NicOp.exec, Host.ackedAfter, hAcked,
        hIsr, regIer_ne_regIsr.symm]
    · simp [Host.exec, NicOp.exec, Host.ackedAfter, hAcked,
        hIsr, hIer, Ne.symm hIsr, Ne.symm hIer]

/- Other registers do not show in the view. -/
theorem View.write_of_ne
    {a : UBYTE}
    (hIsr : a ≠ regIsr)
    (hIer : a ≠ regIer)
    (v : UWORD)
    (w : View) :
    w.write byTask a v = w := by
  unfold View.write
  rw [if_neg hIsr, if_neg hIer]

------------------------------------------------------------
-- Rules
------------------------------------------------------------

/- Interference along `R` cannot make `P` false. -/
def Steady
    (R : Host → Host → Prop)
    (P : View → Prop) : Prop :=
  Program.Stable R (fun h => P h.view)

/- While `P` holds, interference keeps the latch as well. -/
structure Locked
    (R : Host → Host → Prop)
    (P : View → Prop) : Prop where
  steady : Steady R P
  latch : ∀ h h', R h h' → P h.view → h'.latch = h.latch

/- Preconditions and postconditions on views. -/
def Holds
    {α : Type}
    (byTask : Bool)
    (R : Host → Host → Prop)
    (A : NicOp → Host → Prop)
    (P : View → Prop)
    (p : NicM α)
    (Q : α → View → Prop) : Prop :=
  Program.Triple (Host.exec byTask) R A
    (fun h => P h.view) p (fun r h => Q r h.view)

namespace Holds

variable {α β : Type}
variable {R : Host → Host → Prop}
variable {A : NicOp → Host → Prop}
variable {P P' : View → Prop}

theorem bind
    {Q : α → View → Prop}
    {Q' : β → View → Prop}
    {p : NicM α}
    {f : α → NicM β}
    (hRefl : ∀ h, R h h)
    (hFirst : Holds byTask R A P p Q)
    (hRest : ∀ a, Holds byTask R A (Q a) (f a) Q') :
    Holds byTask R A P (p >>= f) Q' :=
  Program.Triple.bind hRefl hFirst hRest

theorem pure
    {Q : α → View → Prop}
    (value : α)
    (hSteady : Steady R (Q value))
    (hImp : ∀ w, P w → Q value w) :
    Holds byTask R A P (pure value) Q :=
  Program.Triple.pure value hSteady (fun h => hImp h.view)

theorem assuming
    {c : Prop}
    {Q : α → View → Prop}
    {p : NicM α}
    (hHolds : c → Holds byTask R A P p Q) :
    Holds byTask R A (fun w => c ∧ P w) p Q :=
  Program.Triple.assuming hHolds

theorem ite
    {c : Prop} [Decidable c]
    {Q : α → View → Prop}
    {p q : NicM α}
    (hThen : c → Holds byTask R A P p Q)
    (hElse : ¬ c → Holds byTask R A P q Q) :
    Holds byTask R A P (if c then p else q) Q :=
  Program.Triple.ite hThen hElse

theorem onlyIf
    {c : Prop} [Decidable c]
    {p : NicM Unit}
    (hSteady : Steady R P)
    (hHolds : c → Holds byTask R A P p (fun _ => P)) :
    Holds byTask R A P (Program.onlyIf c p) (fun _ => P) :=
  Program.Triple.onlyIf hSteady hHolds

/- One operation, with assertions on the whole host. -/
theorem perform
    (op : NicOp)
    {I : Host → Prop}
    {Q : op.Ret → Host → Prop}
    (hPre : Program.Stable R I)
    (hPost : ∀ r, Program.Stable R (Q r))
    (hOp :
      ∀ h, I h → A op h →
        Q (h.exec byTask op).1 (h.exec byTask op).2) :
    Program.Triple (Host.exec byTask) R A I
      (Program.perform op) Q :=
  Program.Triple.perform op hPre hPost hOp

/- An operation that the view does not show. -/
theorem quiet
    (op : NicOp)
    (hQuiet : op.Quiet)
    (hSteady : Steady R P) :
    Holds byTask R A P (Program.perform op)
      (fun _ => P) := by
  apply perform op hSteady (fun _ => hSteady)
  intro h hState _
  rwa [view_exec_of_quiet op hQuiet]

/- The armed state is as stable as the latch. -/
theorem stable_accesses
    (a : UBYTE)
    (hLocked : Locked R P) :
    Program.Stable R
      (fun h => P h.view ∧ h.Accesses a) := by
  intro h h' hStep hState
  exact ⟨hLocked.steady h h' hStep hState.1,
    hState.2.of_latch (hLocked.latch h h' hStep hState.1)⟩

/- A register access, up to the data-port access itself. -/
theorem access
    {Q : β → View → Prop}
    (a : UBYTE)
    {p : NicM β}
    (hRefl : ∀ h, R h h)
    (hLocked : Locked R P)
    (hAccess :
      Program.Triple (Host.exec byTask) R A
        (fun h => P h.view ∧ h.Accesses a) p
        (fun r h => Q r h.view)) :
    Holds byTask R A P
      (do
        let context ← getInterface
        cmdReg (cmdWord context.isInBigEndianMode a)
        p) Q := by
  apply bind hRefl (quiet .getInterface trivial hLocked.steady)
  intro context
  apply Program.Triple.bind hRefl _ (fun _ => hAccess)
  apply perform (.cmdReg _)
    hLocked.steady (fun _ => stable_accesses a hLocked)
  intro h hState _
  refine ⟨?_, accesses_exec_cmdReg _ a h⟩
  rwa [view_exec_of_quiet (.cmdReg _) trivial]

/- Reading a register. -/
theorem readReg
    {Q : UWORD → View → Prop}
    (a : UBYTE)
    (hRefl : ∀ h, R h h)
    (hLocked : Locked R P)
    (hSteady : ∀ v, Steady R (Q v))
    (hRead :
      ∀ h, P h.view → h.Accesses a → A .readDataReg h →
        Q (h.reg a) h.view) :
    Holds byTask R A P (ksz8851ReadReg a) Q := by
  apply access a hRefl hLocked
  apply perform .readDataReg
    (stable_accesses a hLocked) hSteady
  intro h hState hMeets
  rw [view_exec_of_quiet .readDataReg trivial,
    exec_readDataReg_fst hState.2]
  exact hRead h hState.1 hState.2 hMeets

/- Writing a register. -/
theorem writeReg
    {Q : View → Prop}
    (a : UBYTE)
    (v : UWORD)
    (hRefl : ∀ h, R h h)
    (hLocked : Locked R P)
    (hSteady : Steady R Q)
    (hWrite :
      ∀ h, P h.view → h.Accesses a → A (.dataReg v) h →
        Q (h.view.write byTask a v)) :
    Holds byTask R A P (ksz8851WriteReg a v)
      (fun _ => Q) := by
  apply access a hRefl hLocked
  apply perform (.dataReg v)
    (stable_accesses a hLocked) (fun _ => hSteady)
  intro h hState hMeets
  rw [view_exec_dataReg hState.2]
  exact hWrite h hState.1 hState.2 hMeets

/- Reading and writing back a changed value. -/
theorem modifyReg
    (a : UBYTE)
    (f : UWORD → UWORD)
    (Q : UWORD → View → Prop)
    (Q' : View → Prop)
    (hRefl : ∀ h, R h h)
    (hLocked : Locked R P)
    (hMiddle : ∀ v, Locked R (Q v))
    (hSteady : Steady R Q')
    (hRead :
      ∀ h, P h.view → h.Accesses a → A .readDataReg h →
        Q (h.reg a) h.view)
    (hWrite :
      ∀ v h, Q v h.view → h.Accesses a →
        A (.dataReg (f v)) h →
          Q' (h.view.write byTask a (f v))) :
    Holds byTask R A P
      (do
        let value ← ksz8851ReadReg a
        ksz8851WriteReg a (f value)) (fun _ => Q') := by
  apply bind hRefl
    (readReg a hRefl hLocked
      (fun v => (hMiddle v).steady) hRead)
  intro v
  exact writeReg a (f v) hRefl (hMiddle v) hSteady (hWrite v)

------------------------------------------------------------
-- Accesses That the View Does Not Show
------------------------------------------------------------

/- Reading any register keeps what holds of the view. -/
theorem readReg_quiet
    (a : UBYTE)
    (hRefl : ∀ h, R h h)
    (hLocked : Locked R P) :
    Holds byTask R A P (ksz8851ReadReg a) (fun _ => P) :=
  readReg a hRefl hLocked (fun _ => hLocked.steady)
    (fun _ hState _ _ => hState)

/- So does writing any register but `ISR` and `IER`. -/
theorem writeReg_quiet
    {a : UBYTE}
    (hIsr : a ≠ regIsr)
    (hIer : a ≠ regIer)
    (v : UWORD)
    (hRefl : ∀ h, R h h)
    (hLocked : Locked R P) :
    Holds byTask R A P (ksz8851WriteReg a v)
      (fun _ => P) := by
  apply writeReg a v hRefl hLocked hLocked.steady
  intro h hState _ _
  rwa [View.write_of_ne hIsr hIer]

theorem setBit_quiet
    {a : UBYTE}
    (hIsr : a ≠ regIsr)
    (hIer : a ≠ regIer)
    (mask : UWORD)
    (hRefl : ∀ h, R h h)
    (hLocked : Locked R P) :
    Holds byTask R A P (ksz8851SetBit a mask)
      (fun _ => P) :=
  bind hRefl (readReg_quiet a hRefl hLocked)
    (fun _ => writeReg_quiet hIsr hIer _ hRefl hLocked)

theorem clearBit_quiet
    {a : UBYTE}
    (hIsr : a ≠ regIsr)
    (hIer : a ≠ regIer)
    (mask : UWORD)
    (hRefl : ∀ h, R h h)
    (hLocked : Locked R P) :
    Holds byTask R A P (ksz8851ClearBit a mask)
      (fun _ => P) :=
  bind hRefl (readReg_quiet a hRefl hLocked)
    (fun _ => writeReg_quiet hIsr hIer _ hRefl hLocked)

/- Reading words from the receive queue. -/
theorem readWords_quiet
    (isInBigEndianMode : Bool)
    (hRefl : ∀ h, R h h)
    (hSteady : Steady R P)
    (sizeInWord i : Nat)
    (data : Memory) :
    Holds byTask R A P
      (readWords isInBigEndianMode sizeInWord i data)
      (fun _ => P) := by
  induction sizeInWord generalizing i data with
  | zero => exact pure data hSteady (fun _ hState => hState)
  | succ sizeInWord ih =>
      apply bind hRefl (quiet .readDataReg trivial hSteady)
      intro value
      exact ih _ _

theorem readFifo_quiet
    (length : Nat)
    (hRefl : ∀ h, R h h)
    (hSteady : Steady R P) :
    Holds byTask R A P (ksz8851ReadFifo length)
      (fun _ => P) := by
  apply bind hRefl (quiet .getInterface trivial hSteady)
  intro context
  apply bind hRefl (readWords_quiet _ hRefl hSteady _ _ _)
  intro data
  exact quiet (.setInterface _) trivial hSteady

theorem notifyLinkChange_quiet
    (hRefl : ∀ h, R h h)
    (hSteady : Steady R P) :
    Holds byTask R A P notifyLinkChange (fun _ => P) := by
  apply bind hRefl (quiet .getInterface trivial hSteady)
  intro interface
  exact onlyIf hSteady
    (fun _ => quiet .linkChangeFunction trivial hSteady)

end Holds

end KszDriver
