import KszDriver.Nic.Footing
import KszDriver.Nic.TxStream

/-
  When bringing the low level driver up succeeds: the chip
  has to answer, and there has to be memory and a signal.

  Main declarations:
    * `NicM.Spares`
    * `detect_succeeds_iff`, `init_succeeds_iff`
    * `footing_init`, `footing_online`
-/

------------------------------------------------------------
-- What Initialization Finds
------------------------------------------------------------

namespace KszDriver

/- What bringing the driver up depends on. -/
structure Means where
  cider : UWORD
  freeMemory : Bool
  freeSignal : Int
deriving DecidableEq

def NicState.means (n : NicState) : Means where
  cider := n.chip.reg regCider
  freeMemory := n.freeMemory
  freeSignal := n.freeSignal

namespace NicM

/- The program leaves that as it is. -/
def Spares {α : Type} (p : NicM α) : Prop :=
  ∀ n, (p.runOn n).2.means = n.means

section Rules

variable {α β : Type}

theorem spares_pure (value : α) :
    Spares (pure value : NicM α) :=
  fun _ => rfl

theorem Spares.bind
    {p : NicM α}
    {f : α → NicM β}
    (hFirst : Spares p)
    (hRest : ∀ a, Spares (f a)) :
    Spares (p >>= f) := by
  intro n
  rw [runOn_bind, hRest, hFirst]

theorem Spares.ite
    {c : Prop} [Decidable c]
    {p q : NicM α}
    (hThen : Spares p)
    (hElse : Spares q) :
    Spares (if c then p else q) := by
  by_cases hCond : c
  · rw [if_pos hCond]
    exact hThen
  · rw [if_neg hCond]
    exact hElse

theorem spares_setInterface
    (f : NetInterface → NetInterface) :
    Spares (setInterface f) :=
  fun _ => rfl

theorem spares_getInterface : Spares getInterface :=
  fun _ => rfl

theorem spares_readReg (offset : UBYTE) :
    Spares (ksz8851ReadReg offset) := by
  intro n
  rw [runOn_ksz8851ReadReg]
  rfl

/- A write to another register than the identity. -/
theorem spares_writeReg
    {offset : UBYTE}
    (hOther : offset ≠ regCider)
    (value : UWORD) :
    Spares (ksz8851WriteReg offset value) := by
  intro n
  rw [runOn_ksz8851WriteReg]
  have hReg :
      ((n.access offset).chip.writeReg offset value).reg
        regCider = n.chip.reg regCider := by
    rw [Chip.reg_writeReg,
      Function.update_of_ne hOther.symm]
    rfl
  unfold NicState.means
  exact congrArg
    (fun cider => Means.mk cider n.freeMemory n.freeSignal)
    hReg

end Rules

end NicM

open NicM

theorem spares_detectNICEndiness :
    Spares ksz8851DetectNICEndiness :=
  (spares_readReg regCider).bind (fun _ =>
    Spares.ite
      ((spares_setInterface _).bind (fun _ =>
        (spares_readReg regCider).bind (fun _ =>
          Spares.ite (spares_pure _) (spares_pure _))))
      (spares_pure _))

/- The chip is found if it answers with its identity. -/
theorem detect_succeeds_iff (n : NicState) :
    (ksz8851DetectNICEndiness.runOn n).1 = noError ↔
      n.means.cider = revA3Id := by
  have hReg : n.means.cider = n.chip.reg regCider := rfl
  have hAgain (m : NicState) (value : ErrorT) :
      (((pure value : NicM ErrorT)).runOn m).1 = value := rfl
  rw [hReg]
  unfold ksz8851DetectNICEndiness
  rw [runOn_bind, runOn_ksz8851ReadReg]
  dsimp only
  by_cases hFound : n.chip.reg regCider = revA3Id
  · rw [if_neg (not_not_intro hFound), hAgain]
    simp [hFound]
  · rw [if_pos hFound, runOn_bind, runOn_bind,
      runOn_ksz8851ReadReg]
    have hSame :
        ((setInterface (fun iface =>
          { iface with
            isInBigEndianMode := !iface.isInBigEndianMode })).runOn
              (n.access regCider)).2.chip.reg regCider =
          n.chip.reg regCider := rfl
    dsimp only
    rw [hSame, if_pos hFound, hAgain]
    simp [hFound, noChipFound, noError]

theorem spares_resetInMode (bigEndian : Bool) :
    Spares (resetInMode bigEndian) :=
  (spares_setInterface _).bind (fun _ =>
    (spares_writeReg (by decide) _).bind (fun _ =>
      spares_writeReg (by decide) _))

theorem spares_detectLoop (tries : Nat) :
    Spares (detectLoop tries) := by
  induction tries with
  | zero =>
      exact spares_detectNICEndiness.bind (fun _ =>
        Spares.ite (spares_pure ())
          ((spares_resetInMode false).bind (fun _ =>
            spares_resetInMode true)))
  | succ tries ih =>
      exact spares_detectNICEndiness.bind (fun _ =>
        Spares.ite (spares_pure ())
          ((spares_resetInMode false).bind (fun _ =>
            (spares_resetInMode true).bind (fun _ => ih))))

theorem spares_softReset (resetOperation : UWORD) :
    Spares (ksz8851SoftReset resetOperation) := by
  have hDelay (ticks : Nat) : Spares (delay ticks) :=
    fun _ => rfl
  unfold ksz8851SoftReset
  refine spares_detectNICEndiness.bind fun _ => ?_
  refine Spares.ite (spares_pure ()) ?_
  refine (spares_readReg regIsr).bind fun _ => ?_
  refine (spares_writeReg (by decide) _).bind fun _ => ?_
  refine (spares_writeReg (by decide) _).bind fun _ => ?_
  refine (hDelay 25).bind fun _ => ?_
  refine (spares_writeReg (by decide) _).bind fun _ => ?_
  refine (hDelay 10).bind fun _ => ?_
  refine spares_detectNICEndiness.bind fun _ => ?_
  exact Spares.ite (spares_pure ())
    (spares_writeReg (by decide) _)

theorem spares_switchEndianessMode (bigEndian : Bool) :
    Spares (ksz8851SwitchEndianessMode bigEndian) :=
  (spares_readReg regRxfdpr).bind (fun _ =>
    (spares_writeReg (by decide) _).bind (fun _ =>
      spares_setInterface _))

theorem spares_setNetworkAddress (addr : MacAddr) :
    Spares (ksz8851SetNetworkAddress addr) := by
  have hDisable : Spares disable := fun _ => rfl
  have hEnable : Spares enable := fun _ => rfl
  unfold ksz8851SetNetworkAddress
  refine hDisable.bind fun _ => ?_
  refine (spares_writeReg (by decide) _).bind fun _ => ?_
  refine (spares_writeReg (by decide) _).bind fun _ => ?_
  refine (spares_writeReg (by decide) _).bind fun _ => ?_
  exact hEnable

theorem spares_configureRegisters :
    Spares configureRegisters := by
  have hSetBit (mask : UWORD) :
      Spares (ksz8851SetBit regP1cr mask) :=
    (spares_readReg _).bind (fun _ =>
      spares_writeReg (by decide) _)
  have hClearBit (mask : UWORD) :
      Spares (ksz8851ClearBit regP1cr mask) :=
    (spares_readReg _).bind (fun _ =>
      spares_writeReg (by decide) _)
  unfold configureRegisters
  refine (spares_writeReg (by decide) _).bind fun _ => ?_
  refine (spares_writeReg (by decide) _).bind fun _ => ?_
  refine (spares_writeReg (by decide) _).bind fun _ => ?_
  refine (spares_writeReg (by decide) _).bind fun _ => ?_
  refine (spares_writeReg (by decide) _).bind fun _ => ?_
  refine spares_getInterface.bind fun _ => ?_
  refine (spares_writeReg (by decide) _).bind fun _ => ?_
  refine (spares_writeReg (by decide) _).bind fun _ => ?_
  refine (hClearBit _).bind fun _ => ?_
  exact hSetBit _

theorem spares_init : Spares ksz8851Init := by
  have hDisable : Spares disable := fun _ => rfl
  have hEnable : Spares enable := fun _ => rfl
  have hAlloc : Spares memPoolAlloc := fun _ => rfl
  unfold ksz8851Init
  refine hDisable.bind fun _ => ?_
  refine (spares_detectLoop 2).bind fun _ => ?_
  refine (spares_softReset _).bind fun _ => ?_
  refine (spares_readReg regCider).bind fun _ => ?_
  refine Spares.ite ?_ ?_
  · exact hEnable.bind fun _ => spares_pure _
  refine (spares_switchEndianessMode true).bind fun _ => ?_
  refine (spares_setInterface _).bind fun _ => ?_
  refine hAlloc.bind fun _ => ?_
  refine (spares_setInterface _).bind fun _ => ?_
  refine Spares.ite ?_ ?_
  · refine spares_configureRegisters.bind fun _ => ?_
    exact hEnable.bind fun _ => spares_pure _
  · exact hEnable.bind fun _ => spares_pure _

------------------------------------------------------------
-- Results
------------------------------------------------------------

/- The result of a last statement. -/
theorem result_then
    {α β : Type}
    (p : NicM α)
    (value : β)
    (n : NicState) :
    (NicM.runOn (do
      let _ ← p
      pure value) n).1 = value := by
  rw [runOn_bind, runOn_pure]

/- What is reported depends on the chip and on memory. -/
theorem result_ksz8851Init (n : NicState) :
    (ksz8851Init.runOn n).1 =
      if n.means.cider ≠ revA3Id then errorWrongIdentifier
      else if n.means.freeMemory then noError
      else errorOutOfMemory := by
  have hDisable : Spares disable := fun _ => rfl
  unfold ksz8851Init
  rw [runOn_bind, runOn_bind, runOn_bind, runOn_bind,
    runOn_ksz8851ReadReg]
  have hMeans :
      ((ksz8851SoftReset grrQmuModuleSoftRst).runOn
        ((detectLoop 2).runOn
          (disable.runOn n).2).2).2.means = n.means := by
    rw [spares_softReset, spares_detectLoop, hDisable]
  generalize
    ((ksz8851SoftReset grrQmuModuleSoftRst).runOn
      ((detectLoop 2).runOn (disable.runOn n).2).2).2 = m
    at hMeans ⊢
  have hCider : m.chip.reg regCider = n.means.cider :=
    congrArg Means.cider hMeans
  dsimp only
  rw [hCider]
  by_cases hFound : n.means.cider ≠ revA3Id
  · rw [if_pos hFound, if_pos hFound]
    exact result_then enable errorWrongIdentifier _
  · rw [if_neg hFound, if_neg hFound, runOn_bind, runOn_bind,
      runOn_bind]
    have hMemory : ((setInterface (fun iface =>
        { iface with frameId := 0#16 })).runOn
          ((ksz8851SwitchEndianessMode true).runOn
            (m.access regCider)).2).2.means = n.means := by
      rw [spares_setInterface, spares_switchEndianessMode]
      exact hMeans
    generalize ((setInterface (fun iface =>
        { iface with frameId := 0#16 })).runOn
          ((ksz8851SwitchEndianessMode true).runOn
            (m.access regCider)).2).2 = m' at hMemory ⊢
    have hAlloc :
        memPoolAlloc.runOn m' = (n.means.freeMemory, m') := by
      have hFree := congrArg Means.freeMemory hMemory
      exact congrArg (fun free => (free, m')) hFree
    rw [hAlloc, runOn_bind]
    dsimp only
    cases n.means.freeMemory with
    | true =>
        rw [if_pos rfl, if_pos rfl, runOn_bind]
        exact result_then enable noError _
    | false =>
        rw [if_neg (by decide), if_neg (by decide)]
        exact result_then enable errorOutOfMemory _

/- Success takes a chip that answers and memory. -/
theorem init_succeeds_iff (n : NicState) :
    (ksz8851Init.runOn n).1 = noError ↔
      n.means.cider = revA3Id ∧ n.means.freeMemory = true := by
  rw [result_ksz8851Init]
  by_cases hFound : n.means.cider = revA3Id
  · rw [if_neg (not_not_intro hFound)]
    cases n.means.freeMemory with
    | true => simp [hFound]
    | false => simp [hFound, errorOutOfMemory, noError]
  · rw [if_pos hFound]
    simp [hFound, errorWrongIdentifier, noError]

/- The footing when the receive buffer was allocated. -/
theorem footing_init
    {n : NicState}
    (hSuccess : (ksz8851Init.runOn n).1 = noError) :
    (ksz8851Init.runOn n).2.footing =
      n.footing.allocated true := by
  have hWalks := (treads_init (w := n.footing)).run
  rcases hWalks with ⟨rxBuffer, hFooting, hBuffer⟩
  rw [hBuffer hSuccess] at hFooting
  exact hFooting

/- A driver without a server installs one if there is a
   signal. -/
theorem runOn_installInterruptHandler
    {n : NicState}
    (hTask : n.iface.signalTask = false) :
    (installInterruptHandler.runOn n).1 =
        decide (n.means.freeSignal ≠ -1) ∧
      (n.means.freeSignal ≠ -1 →
        (installInterruptHandler.runOn n).2.footing =
          n.footing.linked n.means.freeSignal) := by
  have hGet : getInterface.runOn n = (n.iface, n) := rfl
  unfold installInterruptHandler
  rw [runOn_bind, hGet]
  dsimp only
  rw [hTask, if_neg Bool.false_ne_true, runOn_bind, runOn_bind,
    runOn_bind]
  generalize hMarked :
    ((setInterface (fun iface =>
      { iface with signalTask := true })).runOn n).2 = m
  have hAlloc : allocSignal.runOn m = (n.freeSignal, m) := by
    rw [← hMarked]
    rfl
  rw [hAlloc]
  dsimp only
  by_cases hSignal : n.freeSignal = -1
  · rw [if_pos hSignal]
    have hNone : n.means.freeSignal = -1 := hSignal
    rw [result_then]
    exact ⟨by simp [hNone], fun hSome => absurd hNone hSome⟩
  · rw [if_neg hSignal]
    have hSome : n.means.freeSignal ≠ -1 := hSignal
    rw [result_then]
    refine ⟨by simp [hSome], fun _ => ?_⟩
    rw [← hMarked]
    rfl

/- Going online, a driver that finds a signal links its
   server. -/
theorem footing_online
    {n : NicState}
    (hTask : n.iface.signalTask = false)
    (hSignal : n.means.freeSignal ≠ -1) :
    (ksz8851Online.runOn n).2.footing =
      n.footing.linked n.means.freeSignal := by
  have hLinked :=
    (runOn_installInterruptHandler hTask).2 hSignal
  unfold ksz8851Online
  rw [runOn_bind]
  have hRest := (goes_enableInterrupts
    (w := (installInterruptHandler.runOn n).2.footing)).run
  exact hRest.trans hLinked

end KszDriver
