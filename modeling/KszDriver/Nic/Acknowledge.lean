import KszDriver.Nic.SourcesKept
import KszDriver.Nic.WatchRules

/-
  The event handler acknowledges precisely, as long as every
  step meets `StepAcknowledges`; otherwise writing back the
  whole interrupt status for an overrun can clear events that
  nobody has serviced.

  Main declarations:
    * `Sight.Exact`, `Sight.Shown`, `Sight.Doomed`
    * `sees_eventHandler`
    * `WatchedSystem.Sound`
    * `precise_of_acknowledges`
    * `not_precise_frameInOverrun`
-/

------------------------------------------------------------
-- Assertions of the Event Handler
------------------------------------------------------------

namespace KszDriver

namespace Sight

/- No source at all. -/
def nothing (_ : StatusBit) : Prop :=
  False

/-
  The call is precise up to now, except that the sources in
  `owing` have been acknowledged ahead of their service.
-/
structure Exact
    (n : Nat)
    (owing : StatusBit → Prop)
    (w : Sight) : Prop where
  nest : w.nest = n
  cleared : ∀ bit : StatusBit, bit.In w.watch.cleared →
    bit.In w.watch.status
  owed : ∀ bit : StatusBit, bit.In w.watch.owed → owing bit
  due : ∀ bit : StatusBit, bit.In w.watch.due →
    bit.In w.isr ∨ bit.In w.watch.owed
  spared : ∀ bit : StatusBit, ¬ bit.In w.watch.doomed

/- Nothing has been acknowledged yet. -/
structure Opened (n : Nat) (w : Sight) : Prop where
  exact : w.Exact n nothing
  cleared : ∀ bit : StatusBit, ¬ bit.In w.watch.cleared

/-
  The variable `status` holds what the call has read, unless
  there was a link change.
-/
structure Shown (status : UWORD) (w : Sight) : Prop where
  exact : w.Exact 1 nothing
  status : StatusBit.link.In w.watch.status ∨
    w.watch.status = status

/- The overrun is counted, but not yet acknowledged. -/
structure Counted (w : Sight) : Prop where
  nest : w.nest = 1
  cleared : ∀ bit : StatusBit, bit.In w.watch.cleared →
    bit.In w.watch.status
  owed : ∀ bit : StatusBit, ¬ bit.In w.watch.owed
  due : ∀ bit : StatusBit, bit.In w.watch.due → bit.In w.isr
  doomed : StatusBit.overrun.In w.watch.doomed

/- The bits in `word` are about to be written back. -/
structure Doomed (word : UWORD) (w : Sight) : Prop where
  counted : w.Counted
  doomed : w.watch.doomed = word
  serviced : ∀ bit : StatusBit, bit.In w.isr → bit.In word →
    bit.In w.watch.status ∧ ¬ bit.In w.watch.due

------------------------------------------------------------
-- Stability
------------------------------------------------------------

section Stability

variable {n : Nat} {owing : StatusBit → Prop}
variable {w w' : Sight}

theorem Exact.stable
    (hRely : w.Rely w')
    (hState : w.Exact n owing) :
    w'.Exact n owing where
  nest := hRely.nest.trans hState.nest
  cleared := by
    rw [hRely.cleared, hRely.status]
    exact hState.cleared
  owed := by
    rw [hRely.owed]
    exact hState.owed
  due := by
    intro bit hDue
    rw [hRely.owed]
    rcases hRely.due bit hDue with ⟨hOld, hKept⟩ | hNew
    · exact (hState.due bit hOld).imp_left hKept
    · exact Or.inl hNew.1
  spared := by
    rw [hRely.doomed]
    exact hState.spared

theorem Opened.stable
    (hRely : w.Rely w')
    (hState : w.Opened n) :
    w'.Opened n where
  exact := hState.exact.stable hRely
  cleared := by
    rw [hRely.cleared]
    exact hState.cleared

theorem Shown.stable
    {status : UWORD}
    (hRely : w.Rely w')
    (hState : w.Shown status) :
    w'.Shown status where
  exact := hState.exact.stable hRely
  status := by
    rw [hRely.status]
    exact hState.status

theorem Counted.stable
    (hRely : w.Rely w')
    (hState : w.Counted) :
    w'.Counted where
  nest := hRely.nest.trans hState.nest
  cleared := by
    rw [hRely.cleared, hRely.status]
    exact hState.cleared
  owed := by
    rw [hRely.owed]
    exact hState.owed
  due := by
    intro bit hDue
    rcases hRely.due bit hDue with ⟨hOld, hKept⟩ | hNew
    · exact hKept (hState.due bit hOld)
    · exact hNew.1
  doomed := by
    rw [hRely.doomed]
    exact hState.doomed

theorem Doomed.stable
    {word : UWORD}
    (hRely : w.Rely w')
    (hState : w.Doomed word) :
    w'.Doomed word where
  counted := hState.counted.stable hRely
  doomed := hRely.doomed.trans hState.doomed
  serviced := by
    intro bit hPending hIn
    have hDoomed : ¬ ¬ bit.In w.watch.doomed := by
      rw [hState.doomed]
      exact not_not.mpr hIn
    have hOld :=
      (hRely.fresh bit hPending).resolve_right hDoomed
    have hServiced := hState.serviced bit hOld hIn
    rw [hRely.status]
    refine ⟨hServiced.1, fun hDue => ?_⟩
    rcases hRely.due bit hDue with hBefore | hNew
    · exact hServiced.2 hBefore.1
    · exact hDoomed hNew.2

end Stability

/- What interference keeps is steady. -/
theorem steady_of_stable
    {P : Sight → Prop}
    (hStable : ∀ w w' : Sight, w.Rely w' → P w → P w') :
    Steady Watched.Rely P :=
  fun _ _ hStep => hStable _ _ hStep.sight

/- Under Disable it is locked as well. -/
theorem locked_of_stable
    {P : Sight → Prop}
    (hStable : ∀ w w' : Sight, w.Rely w' → P w → P w')
    (hNest : ∀ w, P w → w.nest = 1) :
    Locked Watched.Rely P where
  steady := steady_of_stable hStable
  latch := by
    intro t t' hStep hState
    apply hStep.latch
    have hOne : t.host.nic.nest = 1 := hNest _ hState
    rw [hOne]
    exact Nat.one_pos

theorem steady_exact (n : Nat) (owing : StatusBit → Prop) :
    Steady Watched.Rely (Exact n owing) :=
  steady_of_stable (fun _ _ hRely hState =>
    hState.stable hRely)

theorem locked_exact (owing : StatusBit → Prop) :
    Locked Watched.Rely (Exact 1 owing) :=
  locked_of_stable
    (fun _ _ hRely hState => hState.stable hRely)
    (fun _ hState => hState.nest)

theorem steady_opened (n : Nat) :
    Steady Watched.Rely (Opened n) :=
  steady_of_stable (fun _ _ hRely hState =>
    hState.stable hRely)

theorem locked_opened : Locked Watched.Rely (Opened 1) :=
  locked_of_stable
    (fun _ _ hRely hState => hState.stable hRely)
    (fun _ hState => hState.exact.nest)

theorem locked_shown (status : UWORD) :
    Locked Watched.Rely (Shown status) :=
  locked_of_stable
    (fun _ _ hRely hState => hState.stable hRely)
    (fun _ hState => hState.exact.nest)

theorem locked_counted : Locked Watched.Rely Counted :=
  locked_of_stable
    (fun _ _ hRely hState => hState.stable hRely)
    (fun _ hState => hState.nest)

theorem locked_doomed (word : UWORD) :
    Locked Watched.Rely (Doomed word) :=
  locked_of_stable
    (fun _ _ hRely hState => hState.stable hRely)
    (fun _ hState => hState.counted.nest)

------------------------------------------------------------
-- What the Accesses Do
------------------------------------------------------------

section Accesses

variable {w : Sight}

/- Reading the status. -/
theorem Opened.readStatus (hState : w.Opened 1) :
    Shown w.isr (w.read true regIsr) := by
  have hRead :
      w.read true regIsr =
        { w with watch := { w.watch with status := w.isr } } := by
    unfold read Watch.readIsr
    rw [if_pos rfl, if_pos rfl,
      if_neg (hState.exact.spared .overrun)]
  rw [hRead]
  exact
    { exact :=
        { hState.exact with
          cleared := fun bit hCleared =>
            absurd hCleared (hState.cleared bit) }
      status := Or.inr rfl }

/- An acknowledgement ahead of the service of its source. -/
theorem Exact.ackAhead
    {flag : UWORD}
    {source : StatusBit}
    (hFlag : ∀ bit : StatusBit, bit.In flag → bit = source)
    (hSeen : source.In w.isr → source.In w.watch.status)
    (hState : w.Exact 1 nothing) :
    (w.write true regIsr flag).Exact 1 (· = source) where
  nest := hState.nest
  cleared := by
    intro bit hCleared
    rcases (bit.in_or_iff _ _).mp hCleared with hOld | hNew
    · exact hState.cleared bit hOld
    · rw [bit.in_and_iff] at hNew
      have hSource := hFlag bit hNew.1
      rw [hSource] at hNew ⊢
      exact hSeen hNew.2
  owed := by
    intro bit hOwed
    rcases (bit.in_or_iff _ _).mp hOwed with hOld | hNew
    · exact (hState.owed bit hOld).elim
    · rw [bit.in_and_iff, bit.in_and_iff] at hNew
      exact hFlag bit hNew.1.1
  due := by
    intro bit hDue
    have hPending :=
      (hState.due bit hDue).resolve_right (hState.owed bit)
    by_cases hIn : bit.In flag
    · refine Or.inr ((bit.in_or_iff _ _).mpr (Or.inr ?_))
      rw [bit.in_and_iff, bit.in_and_iff]
      exact ⟨⟨hIn, hPending⟩, hDue⟩
    · exact Or.inl
        ((bit.in_and_not_iff _ _).mpr ⟨hPending, hIn⟩)
  spared := StatusBit.not_in_zero

/- The service of the source that was acknowledged. -/
theorem Exact.service
    {flag : UWORD}
    {source : StatusBit}
    (hFlag : source.In flag)
    (hState : w.Exact 1 (· = source)) :
    Exact 1 nothing
      { w with watch := w.watch.serviced flag } where
  nest := hState.nest
  cleared := hState.cleared
  owed := by
    intro bit hOwed
    have hIn := (bit.in_and_not_iff _ _).mp hOwed
    rw [hState.owed bit hIn.1] at hIn
    exact hIn.2 hFlag
  due := by
    intro bit hDue
    have hIn := (bit.in_and_not_iff _ _).mp hDue
    rcases hState.due bit hIn.1 with hPending | hOwed
    · exact Or.inl hPending
    · rw [hState.owed bit hOwed] at hIn
      exact absurd hFlag hIn.2
  spared := hState.spared

/- Counting an overrun. -/
theorem Exact.count (hState : w.Exact 1 nothing) :
    Counted
      { w with
        watch :=
          { w.watch.serviced isrRxois with
            doomed := isrRxois } } where
  nest := hState.nest
  cleared := hState.cleared
  owed := by
    intro bit hOwed
    exact hState.owed bit
      ((bit.in_and_not_iff _ _).mp hOwed).1
  due := by
    intro bit hDue
    have hIn := (bit.in_and_not_iff _ _).mp hDue
    exact (hState.due bit hIn.1).resolve_right
      (hState.owed bit)
  doomed := by
    show StatusBit.overrun.In isrRxois
    decide

/- The overrun branch reads what it is going to write. -/
theorem Counted.readIsr
    (hState : w.Counted)
    (hServiced : ∀ bit : StatusBit, bit.In w.isr →
      bit.In w.watch.status ∧ ¬ bit.In w.watch.due) :
    Doomed (w.isr ||| isrRxois) (w.read true regIsr) := by
  have hRead :
      w.read true regIsr =
        { w with
          watch :=
            { w.watch with doomed := w.isr ||| isrRxois } } := by
    unfold read Watch.readIsr
    rw [if_pos rfl, if_pos rfl, if_pos hState.doomed]
  rw [hRead]
  exact
    { counted :=
        { hState with
          doomed := (StatusBit.in_or_iff _ _ _).mpr
            (Or.inr (by decide)) }
      doomed := rfl
      serviced := fun bit hPending _ =>
        hServiced bit hPending }

/- Writing it back clears only what has been serviced. -/
theorem Doomed.writeBack
    {word : UWORD}
    (hState : w.Doomed word) :
    (w.write true regIsr word).Exact 1 nothing where
  nest := hState.counted.nest
  cleared := by
    intro bit hCleared
    rcases (bit.in_or_iff _ _).mp hCleared with hOld | hNew
    · exact hState.counted.cleared bit hOld
    · rw [bit.in_and_iff] at hNew
      exact (hState.serviced bit hNew.2 hNew.1).1
  owed := by
    intro bit hOwed
    rcases (bit.in_or_iff _ _).mp hOwed with hOld | hNew
    · exact hState.counted.owed bit hOld
    · rw [bit.in_and_iff, bit.in_and_iff] at hNew
      exact (hState.serviced bit hNew.1.2 hNew.1.1).2 hNew.2
  due := by
    intro bit hDue
    have hPending := hState.counted.due bit hDue
    refine Or.inl
      ((bit.in_and_not_iff _ _).mpr ⟨hPending, fun hIn => ?_⟩)
    exact (hState.serviced bit hPending hIn).2 hDue
  spared := StatusBit.not_in_zero

end Accesses

end Sight

------------------------------------------------------------
-- The Branches of the Event Handler
------------------------------------------------------------

/- The rules for the unit task, guarded by `A`. -/
abbrev TaskSees
    {α : Type}
    (A : NicOp → Watched → Prop)
    (P : Sight → Prop)
    (p : NicM α)
    (Q : α → Sight → Prop) : Prop :=
  Sees true Watched.Rely A P p Q

open Sight

section Branches

variable {A : NicOp → Watched → Prop}

theorem sees_disable
    {P Q : Sight → Prop}
    (hSteady : Sight.Steady Watched.Rely P)
    (hSteady' : Sight.Steady Watched.Rely Q)
    (hStep : ∀ w, P w → Q { w with nest := w.nest + 1 }) :
    TaskSees A P disable (fun _ => Q) := by
  apply Sees.perform .disable hSteady (fun _ => hSteady')
  intro t hState _
  rw [sight_exec_disable]
  exact hStep t.sight hState

theorem sees_enable
    {P Q : Sight → Prop}
    (hSteady : Sight.Steady Watched.Rely P)
    (hSteady' : Sight.Steady Watched.Rely Q)
    (hStep : ∀ w, P w → Q { w with nest := w.nest - 1 }) :
    TaskSees A P enable (fun _ => Q) := by
  apply Sees.perform .enable hSteady (fun _ => hSteady')
  intro t hState _
  rw [sight_exec_enable]
  exact hStep t.sight hState

/- Interrupts are enabled while a frame is delivered. -/
theorem sees_delivered :
    TaskSees A (Exact 1 nothing) enable
      (fun _ => Exact 0 nothing) :=
  sees_enable (steady_exact 1 nothing)
    (steady_exact 0 nothing)
    (fun w hState => { hState with
      nest := by
        show w.nest - 1 = 0
        rw [hState.nest] })

/- Receiving a frame acknowledges nothing. -/
theorem sees_receivePacket :
    TaskSees A (Exact 1 nothing) ksz8851ReceivePacket
      (fun _ => Exact 1 nothing) := by
  have hLocked := locked_exact nothing
  have hSteady := steady_exact 0 nothing
  unfold ksz8851ReceivePacket
  apply Sees.bind Watched.Rely.refl
    (Sees.readReg_plain (by decide) Watched.Rely.refl hLocked)
  intro frameStatus
  apply Sees.ite
  · intro _
    apply Sees.bind Watched.Rely.refl
    · exact Sees.onlyIf hLocked.steady (fun _ =>
        Sees.setBit_plain (by decide) _
          Watched.Rely.refl hLocked)
    intro _
    exact Sees.pure _ hLocked.steady (fun _ hState => hState)
  · intro _
    apply Sees.bind Watched.Rely.refl
      (Sees.readReg_plain (by decide)
        Watched.Rely.refl hLocked)
    intro rxfhbcr
    apply Sees.ite
    · intro _
      apply Sees.bind Watched.Rely.refl
        (Sees.blind .getInterface trivial hLocked.steady)
      intro context
      apply Sees.bind Watched.Rely.refl
        (Sees.writeReg_plain (by decide) _
          Watched.Rely.refl hLocked)
      intro _
      apply Program.Triple.bind Watched.Rely.refl
        (Sees.setBit_disarms (by decide) _
          Watched.Rely.refl hLocked)
      intro _
      apply Program.Triple.bind Watched.Rely.refl
        (Sees.readDataReg_disarmed hLocked)
      intro _
      apply Program.Triple.bind Watched.Rely.refl
        (Sees.readDataReg_disarmed hLocked)
      intro _
      apply Program.Triple.bind Watched.Rely.refl
        (Sees.readDataReg_disarmed hLocked)
      intro _
      apply Program.Triple.bind Watched.Rely.refl
        (Sees.readFifo_disarmed _ Watched.Rely.refl hLocked)
      intro _
      apply Sees.bind Watched.Rely.refl
        (Sees.clearBit_plain (by decide) _
          Watched.Rely.refl hLocked)
      intro _
      apply Sees.bind Watched.Rely.refl sees_delivered
      intro _
      apply Sees.bind Watched.Rely.refl
        (Sees.blind .getInterface trivial hSteady)
      intro interface
      apply Sees.bind Watched.Rely.refl
      · exact Sees.onlyIf hSteady (fun _ =>
          Sees.blind (.onPacketReceived _ _) trivial hSteady)
      intro _
      apply Sees.bind Watched.Rely.refl
        (sees_disable (Q := Exact 1 nothing)
          hSteady hLocked.steady
          (fun w hState => { hState with
            nest := congrArg Nat.succ hState.nest }))
      intro _
      exact Sees.pure _ hLocked.steady
        (fun _ hState => hState)
    · intro _
      apply Sees.bind Watched.Rely.refl
        (Sees.setBit_plain (by decide) _
          Watched.Rely.refl hLocked)
      intro _
      exact Sees.pure _ hLocked.steady
        (fun _ hState => hState)

theorem sees_receiveLoop (frameCount : Nat) :
    TaskSees A (Exact 1 nothing) (receiveLoop frameCount)
      (fun _ => Exact 1 nothing) := by
  induction frameCount with
  | zero =>
      exact Sees.pure () (steady_exact 1 nothing)
        (fun _ hState => hState)
  | succ frameCount ih =>
      apply Sees.bind Watched.Rely.refl sees_receivePacket
      intro _
      exact ih

end Branches

/- A link change is acknowledged, then serviced. -/
theorem sees_handleLinkChange (status : UWORD) :
    TaskSees Acknowledges (Shown status)
      (handleLinkChange status)
      (fun result => Shown result.1) := by
  have hShown := locked_shown status
  unfold handleLinkChange
  apply Sees.ite
  · intro hLink
    have hLinkStatus :
        ∀ w : Sight, w.Shown status →
          StatusBit.link.In w.watch.status := by
      intro w hState
      rcases hState.status with hIn | hSame
      · exact hIn
      · rw [hSame]
        exact (link_in_iff status).mp hLink
    have hOwing :
        Sight.Locked Watched.Rely (fun w =>
          w.Exact 1 (· = .link) ∧
            StatusBit.link.In w.watch.status) := by
      apply locked_of_stable
      · intro w w' hRely hState
        refine ⟨hState.1.stable hRely, ?_⟩
        rw [hRely.status]
        exact hState.2
      · intro w hState
        exact hState.1.nest
    apply Sees.bind Watched.Rely.refl
    · apply Sees.writeReg regIsr isrLcis Watched.Rely.refl
        hShown hOwing.steady
      intro t hState _ _
      have hSeen := hLinkStatus t.sight hState
      exact ⟨hState.exact.ackAhead
        (fun _ => StatusBit.eq_link_of_in)
        (fun _ => hSeen), hSeen⟩
    intro _
    apply Sees.bind Watched.Rely.refl
    · apply Sees.readReg regP1sr Watched.Rely.refl hOwing
        (fun p1sr => (locked_shown p1sr).steady)
      intro t hState _ _
      exact
        { exact := hState.1.service (by decide)
          status := Or.inl hState.2 }
    intro p1sr
    have hSteady := (locked_shown p1sr).steady
    refine Sees.bind Watched.Rely.refl
      (Sees.setInterface ?_ hSteady) (fun _ => ?_)
    · intro iface
      unfold NetInterface.updateLink
      split <;> rfl
    apply Sees.bind Watched.Rely.refl
      (Sees.notifyLinkChange_blind Watched.Rely.refl hSteady)
    intro _
    exact Sees.pure _ hSteady (fun _ hState => hState)
  · intro _
    exact Sees.pure _ hShown.steady (fun _ hState => hState)

/- So are received frames. -/
theorem sees_handleReceive (status mask : UWORD) :
    TaskSees Acknowledges (Shown status)
      (handleReceive status mask)
      (fun _ => Exact 1 nothing) := by
  have hShown := locked_shown status
  have hExact := locked_exact nothing
  unfold handleReceive
  apply Sees.ite
  · intro hReceive
    have hOwing := locked_exact (· = .receive)
    apply Sees.bind Watched.Rely.refl
    · apply Sees.writeReg regIsr isrRxis Watched.Rely.refl
        hShown hOwing.steady
      intro t hState hAccesses hMeets
      apply hState.exact.ackAhead
        (fun _ => StatusBit.eq_receive_of_in)
      intro hPending
      rcases hState.status with hLink | hSame
      · exact hMeets hAccesses hLink (by decide) hPending
      · rw [hSame]
        exact (receive_in_iff status).mp hReceive
    intro _
    apply Sees.bind Watched.Rely.refl
    · apply Sees.readReg regRxfctr Watched.Rely.refl hOwing
        (fun _ => hExact.steady)
      intro t hState _ _
      exact hState.service (by decide)
    intro rxfctr
    apply Sees.bind Watched.Rely.refl (sees_receiveLoop _)
    intro _
    exact Sees.pure _ hExact.steady (fun _ hState => hState)
  · intro _
    exact Sees.pure _ hExact.steady
      (fun _ hState => hState.exact)

/- An overrun is counted first and then acknowledged with
   whatever is pending. -/
theorem sees_handleOverrun (status mask : UWORD) :
    TaskSees Acknowledges (Exact 1 nothing)
      (handleOverrun status mask)
      (fun _ => Exact 1 nothing) := by
  have hExact := locked_exact nothing
  unfold handleOverrun
  apply Sees.ite
  · intro _
    have hCount :
        TaskSees Acknowledges (Exact 1 nothing)
          (setInterface (fun iface =>
            { iface with rxOverrun := iface.rxOverrun + 1 }))
          (fun _ => Counted) := by
      apply Sees.perform (.setInterface _) hExact.steady
        (fun _ => locked_counted.steady)
      intro t hState _
      rw [sight_exec_countOverrun
        (fun _ => Nat.succ_ne_self _)]
      exact hState.count
    apply Sees.bind Watched.Rely.refl hCount
    intro _
    apply Sees.bind Watched.Rely.refl
    · apply Sees.bind Watched.Rely.refl
      · exact Sees.readReg regIsr Watched.Rely.refl
          locked_counted
          (fun v => (locked_doomed (v ||| isrRxois)).steady)
          (fun t hState hAccesses hMeets =>
            hState.readIsr (hMeets hAccesses hState.doomed))
      intro v
      exact Sees.writeReg regIsr _ Watched.Rely.refl
        (locked_doomed (v ||| isrRxois)) hExact.steady
        (fun t hState _ _ => hState.writeBack)
    intro _
    exact Sees.pure _ hExact.steady (fun _ hState => hState)
  · intro _
    exact Sees.pure _ hExact.steady (fun _ hState => hState)

theorem sees_handleWakeup (status mask : UWORD) :
    TaskSees Acknowledges (Exact 1 nothing)
      (handleWakeup status mask)
      (fun _ => Exact 1 nothing) := by
  have hSteady := steady_exact 1 nothing
  unfold handleWakeup
  apply Sees.ite
  · intro _
    apply Sees.bind Watched.Rely.refl
      (Sees.notifyLinkChange_blind Watched.Rely.refl hSteady)
    intro _
    exact Sees.pure _ hSteady (fun _ hState => hState)
  · intro _
    exact Sees.pure _ hSteady (fun _ hState => hState)

/- A whole call, from what is pending when it begins. -/
theorem sees_eventHandler :
    TaskSees Acknowledges (Sight.Opened 0) ksz8851EventHandler
      (fun _ => Exact 0 nothing) := by
  have hExact := locked_exact nothing
  have hDone := steady_exact 0 nothing
  unfold ksz8851EventHandler
  apply Sees.bind Watched.Rely.refl
    (sees_disable (Q := Sight.Opened 1)
      (steady_opened 0) (steady_opened 1)
      (fun w hState =>
        { hState with
          exact :=
            { hState.exact with
              nest :=
                congrArg Nat.succ hState.exact.nest } }))
  intro _
  apply Sees.bind Watched.Rely.refl
  · exact Sees.readReg regIsr Watched.Rely.refl
      locked_opened
      (fun status => (locked_shown status).steady)
      (fun t hState _ _ => hState.readStatus)
  intro status
  apply Sees.bind Watched.Rely.refl
    (sees_handleLinkChange status)
  rintro ⟨status, mask⟩
  apply Sees.bind Watched.Rely.refl
    (sees_handleReceive status mask)
  intro mask
  apply Sees.bind Watched.Rely.refl
    (sees_handleOverrun status mask)
  intro mask
  apply Sees.bind Watched.Rely.refl
    (sees_handleWakeup status mask)
  intro mask
  apply Sees.bind Watched.Rely.refl
    (Sees.setBit_plain (by decide) _
      Watched.Rely.refl hExact)
  intro _
  apply Sees.bind Watched.Rely.refl sees_delivered
  intro _
  exact Sees.pure false hDone (fun _ hState => hState)

------------------------------------------------------------
-- The Invariant
------------------------------------------------------------

/- Whether interrupts are disabled is all there is to say of
   going online. -/
theorem steady_nest (n : Nat) :
    Sight.Steady Watched.Rely (fun w => w.nest = n) :=
  steady_of_stable (fun _ _ hRely hState =>
    hRely.nest.trans hState)

theorem sees_installInterruptHandler
    {A : NicOp → Watched → Prop}
    {P : Sight → Prop}
    (hSteady : Sight.Steady Watched.Rely P) :
    TaskSees A P installInterruptHandler (fun _ => P) := by
  unfold installInterruptHandler
  apply Sees.bind Watched.Rely.refl
    (Sees.blind .getInterface trivial hSteady)
  intro context
  apply Sees.ite
  · intro _
    exact Sees.pure true hSteady (fun _ hState => hState)
  · intro _
    refine Sees.bind Watched.Rely.refl
      (Sees.setInterface (fun iface => ?_) hSteady)
      (fun _ => ?_)
    · rfl
    apply Sees.bind Watched.Rely.refl
      (Sees.blind .allocSignal trivial hSteady)
    intro sigNumber
    refine Sees.bind Watched.Rely.refl
      (Sees.setInterface (fun iface => ?_) hSteady)
      (fun _ => ?_)
    · rfl
    apply Sees.ite
    · intro _
      refine Sees.bind Watched.Rely.refl
        (Sees.setInterface (fun iface => ?_) hSteady)
        (fun _ => ?_)
      · rfl
      exact Sees.pure false hSteady (fun _ hState => hState)
    · intro _
      apply Sees.bind Watched.Rely.refl
        (Sees.blind .addIntServer trivial hSteady)
      intro _
      exact Sees.pure true hSteady (fun _ hState => hState)

theorem sees_online {A : NicOp → Watched → Prop} :
    TaskSees A (fun w => w.nest = 0) ksz8851Online
      (fun _ w => w.nest = 0) := by
  have hLocked :
      Sight.Locked Watched.Rely (fun w => w.nest = 1) :=
    locked_of_stable
      (fun _ _ hRely hState => hRely.nest.trans hState)
      (fun _ hState => hState)
  unfold ksz8851Online
  apply Sees.bind Watched.Rely.refl
    (sees_installInterruptHandler (steady_nest 0))
  intro _
  apply Sees.bind Watched.Rely.refl
    (sees_disable (Q := fun w => w.nest = 1) (steady_nest 0)
      (steady_nest 1)
      (fun _ hState => congrArg Nat.succ hState))
  intro _
  apply Sees.bind Watched.Rely.refl
  · apply Sees.bind Watched.Rely.refl
    · apply Sees.readReg regIsr Watched.Rely.refl hLocked
        (fun _ => hLocked.steady)
      intro t hState _ _
      rwa [Sight.nest_read]
    intro v
    apply Sees.writeReg regIsr _ Watched.Rely.refl hLocked
      hLocked.steady
    intro t hState _ _
    rwa [Sight.nest_write]
  intro _
  apply Sees.bind Watched.Rely.refl
    (Sees.setBit_plain (by decide) _ Watched.Rely.refl hLocked)
  intro _
  apply Sees.bind Watched.Rely.refl
    (Sees.setBit_plain (by decide) _ Watched.Rely.refl hLocked)
  intro _
  apply Sees.bind Watched.Rely.refl
    (Sees.setBit_plain (by decide) _ Watched.Rely.refl hLocked)
  intro _
  exact sees_enable hLocked.steady (steady_nest 0)
    (fun w hState => by
      show w.nest - 1 = 0
      rw [hState])

/- The unit task has interrupts enabled while it waits, and
   every call of the event handler will be precise. -/
def TaskWatched : Task → Watched → Prop
| .waiting, t => t.host.nic.nest = 0
| .goingOnline p, t =>
    Program.Safe (Watched.exec true) Watched.Rely
      (fun _ _ => True) (fun _ t => t.host.nic.nest = 0) p t
| .handling p, t =>
    Program.Safe (Watched.exec true) Watched.Rely
      Acknowledges (fun _ t => t.sight.Exact 0 nothing) p t

/- What the task may rely on keeps it so. -/
theorem TaskWatched.stable
    {task : Task}
    {t t' : Watched}
    (hTask : TaskWatched task t)
    (hRely : Watched.Rely t t') :
    TaskWatched task t' := by
  cases task with
  | waiting => exact hRely.sight.nest.trans hTask
  | goingOnline p =>
      exact Program.Safe.stable Watched.Rely.trans
        hTask hRely
  | handling p =>
      exact Program.Safe.stable Watched.Rely.trans
        hTask hRely

/- Going online under watch. -/
theorem taskWatched_online
    {t : Watched}
    (hNest : t.host.nic.nest = 0) :
    TaskWatched (.goingOnline ksz8851Online) t := by
  have hOnline :
      TaskSees (fun _ _ => True) (fun w => w.nest = 0)
        ksz8851Online (fun _ w => w.nest = 0) :=
    sees_online
  exact hOnline t hNest

/- A run of the server is interference under watch. -/
theorem relies_isr
    {t : Watched}
    (hNest : t.host.nic.nest = 0) :
    Program.Safe (Watched.exec false) Watched.Drift
      (fun _ _ => True) (fun _ t' => Watched.Rely t t')
      isr t := by
  refine Program.Safe.mono ?_
    (sees_isr t.sight t (Sight.Rely.refl t.sight))
  intro _ t' hState
  exact
    { latch := fun hLocked => absurd hNest hLocked.ne'
      sight := hState }

namespace WatchedSystem

/- As for the system itself, with the watch. -/
def Sound (s : WatchedSystem) : Prop :=
  match s.sys.irq with
  | none => TaskWatched s.sys.task s.watched
  | some q =>
      ∃ t : Watched, t.host.nic.nest = 0 ∧
        TaskWatched s.sys.task t ∧
        Program.Safe (Watched.exec false) Watched.Drift
          (fun _ _ => True) (fun _ t' => Watched.Rely t t')
          q s.watched

theorem sound_iff_task
    {s : WatchedSystem}
    (hIrq : s.sys.irq = none) :
    s.Sound ↔ TaskWatched s.sys.task s.watched := by
  unfold Sound
  rw [hIrq]

theorem sound_of_task
    {h : Host}
    {task : Task}
    {irq : Option (NicM UBYTE)}
    {watch : Watch}
    (hIrq : irq = none)
    (hTask : TaskWatched task { host := h, watch := watch }) :
    WatchedSystem.Sound
      { sys := { host := h, task := task, irq := irq }
        watch := watch } :=
  (sound_iff_task hIrq).mpr hTask

namespace Sound

variable {s : WatchedSystem}

theorem start (hStart : s.Start) : s.Sound := by
  rcases hStart with ⟨⟨hTask, hIrq, hNest, -⟩, -⟩
  rw [sound_iff_task hIrq, hTask]
  exact taskWatched_online hNest

theorem hardware
    (bits : UWORD)
    (values : UBYTE → UWORD)
    (hSpared : ∀ bit : StatusBit,
      bit.In bits → ¬ bit.In s.watch.doomed)
    (hSound : s.Sound) :
    (s.next (.hardware bits values)).Sound := by
  have hDrift :=
    Watched.drift_disturb bits values s.watched hSpared
  unfold Sound WatchedSystem.next System.next at *
  cases hIrq : s.sys.irq with
  | none =>
      rw [hIrq] at hSound
      exact hSound.stable hDrift.rely
  | some q =>
      rw [hIrq] at hSound
      rcases hSound with ⟨t, hNest, hTask, hServer⟩
      exact ⟨t, hNest, hTask,
        hServer.stable Watched.Drift.trans hDrift⟩

theorem interrupt (hSound : s.Sound) :
    (s.next .interrupt).Sound := by
  by_cases hEnter : s.sys.Interruptible
  · have hIrq : s.sys.irq = none :=
      Option.isNone_iff_eq_none.mp hEnter.1
    have hNest : s.watched.host.nic.nest = 0 := hEnter.2.1
    rw [sound_iff_task hIrq] at hSound
    unfold Sound WatchedSystem.next System.next
    simp only [if_pos hEnter]
    exact ⟨s.watched, hNest, hSound, relies_isr hNest⟩
  · have hSame : s.next .interrupt = s := by
      unfold WatchedSystem.next System.next
      rw [if_neg hEnter]
      rfl
    rwa [hSame]

theorem serve (hSound : s.Sound) :
    (s.next .serve).Sound := by
  cases hIrq : s.sys.irq with
  | none =>
      have hSame : s.next .serve = s := by
        unfold WatchedSystem.next watchAfter System.next
          System.serve
        rw [hIrq]
      rwa [hSame]
  | some q =>
      unfold Sound at hSound
      unfold Sound WatchedSystem.next watchAfter System.next
        System.serve
      rw [hIrq] at hSound
      simp only [hIrq]
      rcases hSound with ⟨t, hNest, hTask, hServer⟩
      cases q with
      | done value =>
          exact hTask.stable
            (hServer.finish Watched.Drift.refl)
      | step op next =>
          exact ⟨t, hNest, hTask,
            hServer.take_step Watched.Drift.refl trivial⟩

/- At the start of a call nothing has been acknowledged. -/
theorem opened
    {t : Watched}
    (hNest : t.host.nic.nest = 0)
    (hWatch : t.watch = .opened (t.host.reg regIsr)) :
    t.sight.Opened 0 := by
  have hOpened :
      t.sight.watch = .opened (t.host.reg regIsr) := hWatch
  exact
    { exact :=
        { nest := hNest
          cleared := by
            rw [hOpened]
            exact fun bit hIn =>
              absurd hIn bit.not_in_zero
          owed := by
            rw [hOpened]
            exact fun bit hIn =>
              absurd hIn bit.not_in_zero
          due := by
            rw [hOpened]
            exact fun bit hIn => Or.inl hIn
          spared := by
            rw [hOpened]
            exact StatusBit.not_in_zero }
      cleared := by
        rw [hOpened]
        exact StatusBit.not_in_zero }

theorem wake (hSound : s.Sound) :
    (s.next .wake).Sound := by
  by_cases hWakes : s.Wakes
  · have hIrq := Option.isNone_iff_eq_none.mp hWakes.1
    rw [sound_iff_task hIrq] at hSound
    have hWaiting : s.sys.task = .waiting := by
      have hWaits := hWakes.2.1
      cases hTask : s.sys.task with
      | waiting => rfl
      | goingOnline p =>
          rw [hTask] at hWaits
          cases hWaits
      | handling p =>
          rw [hTask] at hWaits
          cases hWaits
    rw [hWaiting] at hSound
    have hNext :
        s.next .wake =
          { sys :=
              { host :=
                  { nic :=
                      { s.sys.host.nic with signaled := false }
                    acked := 0#16 }
                task := .handling ksz8851EventHandler
                irq := s.sys.irq }
            watch := .opened (s.sys.host.reg regIsr) } := by
      unfold WatchedSystem.next watchAfter System.next
        System.wake
      simp only [if_pos hWakes, if_pos hWakes.1, hWaiting,
        if_pos hWakes.2.2]
    rw [hNext]
    apply sound_of_task hIrq
    exact sees_eventHandler _ (opened hSound rfl)
  · have hSame : s.next .wake = s := by
      have hSys : s.sys.next .wake = s.sys := by
        unfold System.next System.wake
        by_cases hIrq : s.sys.irq.isNone = true
        · rw [if_pos hIrq]
          cases hTask : s.sys.task with
          | waiting =>
              refine if_neg (fun hSignal => hWakes ?_)
              exact ⟨hIrq, by rw [hTask]; rfl, hSignal⟩
          | goingOnline p => rfl
          | handling p => rfl
        · rw [if_neg hIrq]
      unfold WatchedSystem.next
      rw [hSys]
      unfold watchAfter
      rw [if_neg hWakes]
    rwa [hSame]

theorem work
    (hMeets : StepAcknowledges s .work)
    (hSound : s.Sound) :
    (s.next .work).Sound := by
  cases hIrq : s.sys.irq with
  | some q =>
      have hSame : s.next .work = s := by
        unfold WatchedSystem.next watchAfter System.next
        rw [hIrq]
        rfl
      rwa [hSame]
  | none =>
      rw [sound_iff_task hIrq] at hSound
      unfold StepAcknowledges at hMeets
      rw [hIrq] at hMeets
      have hSys : s.sys.next .work = s.sys.work := by
        unfold System.next
        rw [hIrq]
        rfl
      unfold WatchedSystem.next watchAfter
      rw [hSys, hIrq]
      unfold System.work
      cases hTask : s.sys.task with
      | waiting =>
          refine (sound_iff_task hIrq).mpr ?_
          rw [hTask] at hSound ⊢
          exact hSound
      | goingOnline p =>
          rw [hTask] at hSound
          cases p with
          | done value =>
              apply sound_of_task hIrq
              exact hSound s.watched (Watched.Rely.refl _)
          | step op next =>
              apply sound_of_task hIrq
              exact hSound s.watched (Watched.Rely.refl _)
                trivial
      | handling p =>
          rw [hTask] at hSound hMeets
          cases p with
          | done value =>
              apply sound_of_task hIrq
              exact (hSound s.watched
                (Watched.Rely.refl _)).nest
          | step op next =>
              apply sound_of_task hIrq
              exact hSound s.watched (Watched.Rely.refl _)
                hMeets

theorem next
    (a : Action)
    (hMeets : StepAcknowledges s a)
    (hSound : s.Sound) :
    (s.next a).Sound := by
  cases a with
  | hardware bits values =>
      exact hSound.hardware bits values hMeets
  | interrupt => exact hSound.interrupt
  | serve => exact hSound.serve
  | wake => exact hSound.wake
  | work => exact hSound.work hMeets

/- A call that has returned has been precise. -/
theorem precise
    (hSound : s.Sound)
    (hReturned : s.Returned) :
    s.watched.Precise := by
  have hIrq := Option.isNone_iff_eq_none.mp hReturned.1
  have hDone := hReturned.2
  rw [sound_iff_task hIrq] at hSound
  cases hTask : s.sys.task with
  | waiting =>
      rw [hTask] at hDone
      cases hDone
  | goingOnline p =>
      rw [hTask] at hDone
      cases hDone
  | handling p =>
      rw [hTask] at hDone hSound
      cases p with
      | step op next => cases hDone
      | done again =>
          have hExact :=
            hSound s.watched (Watched.Rely.refl _)
          exact
            { cleared := fun bit hCleared =>
                ⟨hExact.cleared bit hCleared,
                  hExact.owed bit⟩
              pending := fun bit hDue =>
                (hExact.due bit hDue).resolve_right
                  (hExact.owed bit) }

end Sound

end WatchedSystem

------------------------------------------------------------
-- Runs
------------------------------------------------------------

/-
  In every run whose steps all meet `StepAcknowledges`, each
  call of the event handler has acknowledged precisely when
  it returns.
-/
theorem precise_of_acknowledges
    {s : WatchedSystem}
    (hReach : watchMachine.Reach StepAcknowledges s)
    (hReturned : s.Returned) :
    s.watched.Precise := by
  have hSound : s.Sound :=
    hReach.invariant (fun _ => WatchedSystem.Sound.start)
      (fun _ a _ hMeets hState => hState.next a hMeets)
  exact hSound.precise hReturned

/- The system before `ksz8851Online`, under watch. -/
def offlineWatched : WatchedSystem where
  sys := offlineSystem
  watch := .opened 0#16

/-
  Go online, and let a frame arrive while the receiver has an
  overrun.  The handler takes `before` steps, the hardware
  sets `bits`, and the handler takes `rest` steps more.
-/
def frameAndOverrun
    (before : Nat) (bits : UWORD) (rest : Nat) :
    List Action :=
  List.replicate 32 .work ++
    [.hardware 0x2800#16 (fun _ => 0x20#16), .interrupt] ++
    List.replicate 16 .serve ++ [.wake] ++
    List.replicate before .work ++
    [.hardware bits (fun _ => 0x20#16)] ++
    List.replicate rest .work

/- A frame that arrives before `RXFCTR` is read is serviced
   with the others. -/
theorem precise_frameBeforeService :
    ((watchMachine.run (frameAndOverrun 8 0x2000#16 16)
      offlineWatched).watched).Precise := by
  have hRuns :
      watchMachine.Runs StepAcknowledges
        (frameAndOverrun 8 0x2000#16 16) offlineWatched := by
    decide +kernel
  exact precise_of_acknowledges
    (Machine.reach_run _
      (Machine.Reach.start ⟨⟨rfl, rfl, rfl, rfl⟩, rfl⟩) hRuns)
    (by decide +kernel)

/-
  A frame that arrives after `RXFCTR` has been read, while
  the overrun is counted, is acknowledged together with the
  overrun: it is in the chip, and no interrupt will tell.
-/
theorem not_precise_frameInOverrun :
    ∃ s : WatchedSystem,
      watchMachine.Reach Machine.Free s ∧ s.Returned ∧
        ¬ s.watched.Precise := by
  refine ⟨watchMachine.run (frameAndOverrun 11 0x2000#16 13)
    offlineWatched, ?_, ?_, ?_⟩
  · exact Machine.reach_run _
      (Machine.Reach.start ⟨⟨rfl, rfl, rfl, rfl⟩, rfl⟩)
      (Machine.runs_free (fun _ _ => trivial) _ _)
  · decide +kernel
  · intro hPrecise
    have hPending := hPrecise.pending .receive
    revert hPending
    decide +kernel

end KszDriver
