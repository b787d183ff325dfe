import KszDriver.Nic.HandlerRules

/-
  The interrupt server as interference: a whole run of `isr`
  masks only sources whose status bit it has seen set, and
  signals the unit task when it has masked one.

  Main declarations:
    * `View.Serving`, `View.Served`
    * `holds_irqHandler`
    * `holds_isr`
-/

------------------------------------------------------------
-- The Interrupt Server
------------------------------------------------------------

namespace KszDriver

namespace View

variable {v₀ : View}

/-
  The interrupt server has read the status `seen` and not
  yet written the enable bits back.
-/
structure Serving (v₀ : View) (seen : UWORD) (w : View) :
    Prop where
  nest : w.nest = v₀.nest
  acked : w.acked = v₀.acked
  signaled : w.signaled = v₀.signaled
  seen : ∀ src : Source, src.In seen → src.In w.isr
  pending : ∀ src : Source, src.In v₀.isr → src.In w.isr
  fresh : ∀ i, w.isr.getLsbD i = true →
    v₀.isr.getLsbD i = true ∨ onlineIerMask.getLsbD i = true

/-
  The handler is done.  It says so in its result whenever it
  has masked a source.
-/
structure Served (v₀ : View) (handled : Bool) (w : View) :
    Prop where
  nest : w.nest = v₀.nest
  acked : w.acked = v₀.acked
  signaled : w.signaled = v₀.signaled
  enabled : ∀ i, w.ier.getLsbD i = true →
    v₀.ier.getLsbD i = true
  masked : ∀ src : Source, src.In v₀.ier → ¬ src.In w.ier →
    handled = true ∧ src.In w.isr
  pending : ∀ src : Source, src.In v₀.isr → src.In w.isr
  fresh : ∀ i, w.isr.getLsbD i = true →
    v₀.isr.getLsbD i = true ∨ onlineIerMask.getLsbD i = true

/- Under drift alone, what is steady is locked. -/
theorem locked_of_steady
    {P : View → Prop}
    (hSteady : Steady KszDriver.Drift P) :
    Locked KszDriver.Drift P where
  steady := hSteady
  latch := fun _ _ hStep _ => hStep.latch

theorem steady_drift :
    Steady KszDriver.Drift (fun w => v₀.Drift w) :=
  fun _ _ hStep hState => hState.trans hStep.view

theorem steady_driftSeen (seen : UWORD) :
    Steady KszDriver.Drift (fun w => v₀.Drift w ∧
      ∀ src : Source, src.In seen → src.In w.isr) := by
  rintro h h' hStep ⟨hDrift, hSeen⟩
  exact ⟨hDrift.trans hStep.view,
    fun src hSet => hStep.view.pending src (hSeen src hSet)⟩

theorem steady_serving (seen : UWORD) :
    Steady KszDriver.Drift (Serving v₀ seen) := by
  intro h h' hStep hState
  exact
    { nest := hStep.view.nest.trans hState.nest
      acked := hStep.view.acked.trans hState.acked
      signaled := hStep.view.signaled.trans hState.signaled
      seen := fun src hSet =>
        hStep.view.pending src (hState.seen src hSet)
      pending := fun src hSet =>
        hStep.view.pending src (hState.pending src hSet)
      fresh := fun i hSet =>
        (hStep.view.fresh i hSet).elim (hState.fresh i)
          Or.inr }

theorem steady_served (handled : Bool) :
    Steady KszDriver.Drift (Served v₀ handled) := by
  intro h h' hStep hState
  exact
    { nest := hStep.view.nest.trans hState.nest
      acked := hStep.view.acked.trans hState.acked
      signaled := hStep.view.signaled.trans hState.signaled
      enabled := by
        intro i hSet
        rw [hStep.view.ier] at hSet
        exact hState.enabled i hSet
      masked := by
        intro src hSet hClear
        rw [hStep.view.ier] at hClear
        rcases hState.masked src hSet hClear with
          ⟨hHandled, hPending⟩
        exact ⟨hHandled, hStep.view.pending src hPending⟩
      pending := fun src hSet =>
        hStep.view.pending src (hState.pending src hSet)
      fresh := fun i hSet =>
        (hStep.view.fresh i hSet).elim (hState.fresh i)
          Or.inr }

theorem steady_relyFrom :
    Steady KszDriver.Drift (fun w => v₀.Rely w) :=
  fun _ _ hStep hState => hState.trans hStep.view.rely

end View

/- A source that the handler masks is pending. -/
theorem in_of_masked
    {isr ier : UWORD}
    {src : Source}
    (hEnabled : src.In ier)
    (hMasked :
      ¬ src.In
        (maskPending isr isrLdis ierLdie
          (maskPending isr isrRxois ierRxoie
            (maskPending isr isrRxis ierRxie
              (maskPending isr isrTxis ierTxie
                (maskPending isr isrLcis ierLcie ier)))))) :
    src.In isr := by
  by_contra hClear
  apply hMasked
  have hStep :
      ∀ status enableBit ier : UWORD,
        (∀ src' : Source, src'.In enableBit →
          isr &&& status ≠ 0#16 → src'.In isr) →
        src.In ier →
        src.In (maskPending isr status enableBit ier) := by
    intro status enableBit ier hBit hSet
    unfold maskPending
    split
    · rename_i hPending
      rw [Source.in_and_iff, Source.in_not_iff]
      exact ⟨hSet, fun hOwn =>
        hClear (hBit src hOwn hPending)⟩
    · exact hSet
  apply hStep _ _ _ ?_ (hStep _ _ _ ?_ (hStep _ _ _ ?_
    (hStep _ _ _ ?_ (hStep _ _ _ ?_ hEnabled))))
  · intro src' hOwn _
    cases src' <;> exact absurd hOwn (by decide)
  · intro src' hOwn hPending
    cases src' with
    | overrun => exact (overrun_in_iff isr).mp hPending
    | link | receive => exact absurd hOwn (by decide)
  · intro src' hOwn hPending
    cases src' with
    | receive => exact (receive_in_iff isr).mp hPending
    | link | overrun => exact absurd hOwn (by decide)
  · intro src' hOwn _
    cases src' <;> exact absurd hOwn (by decide)
  · intro src' hOwn hPending
    cases src' with
    | link => exact (link_in_iff isr).mp hPending
    | receive | overrun => exact absurd hOwn (by decide)

/- A pending source makes the handler report an event. -/
theorem handled_of_in
    {isr : UWORD}
    {src : Source}
    (hPending : src.In isr) :
    isr &&& (isrLcis ||| isrTxis ||| isrRxis ||| isrRxois |||
      isrLdis) ≠ 0#16 := by
  intro hZero
  have hBits := congrArg (fun v => src.In v) hZero
  have hMask :
      src.In (isrLcis ||| isrTxis ||| isrRxis ||| isrRxois |||
        isrLdis) := by
    cases src <;> decide
  simp only [Source.in_and_iff, hPending, hMask,
    and_self, src.not_in_zero, eq_iff_iff, iff_false,
    not_true]
    at hBits

/- The transmit bit is not that of a source. -/
theorem in_and_not_isrTxis
    (src : Source) (word : UWORD) :
    src.In (word &&& ~~~isrTxis) ↔ src.In word := by
  rw [Source.in_and_iff, Source.in_not_iff]
  have hOther : ¬ src.In isrTxis := by
    cases src <;> decide
  simp only [hOther, not_false_eq_true, and_true]

section Server

variable {v₀ : View}

/- Acknowledging a transmit keeps the sources pending. -/
theorem View.Serving.ackTransmit
    {seen : UWORD}
    {w : View}
    (hState : View.Serving v₀ seen w) :
    View.Serving v₀ seen (w.write false regIsr isrTxis) where
  nest := hState.nest
  acked := hState.acked
  signaled := hState.signaled
  seen := fun src hSet =>
    (in_and_not_isrTxis src w.isr).mpr (hState.seen src hSet)
  pending := fun src hSet =>
    (in_and_not_isrTxis src w.isr).mpr
      (hState.pending src hSet)
  fresh := by
    intro i hSet
    have hBits : (w.isr &&& ~~~isrTxis).getLsbD i = true :=
      hSet
    rw [BitVec.getLsbD_and, Bool.and_eq_true] at hBits
    exact hState.fresh i hBits.1

/- The handler masks only what it reports. -/
theorem holds_irqHandler :
    Holds false Drift (fun _ _ => True)
      (fun w => v₀.Drift w) ksz8851IrqHandler
      (View.Served v₀) := by
  unfold ksz8851IrqHandler
  apply Holds.bind Drift.refl
  · exact Holds.readReg regIsr Drift.refl
      (View.locked_of_steady View.steady_drift)
      View.steady_driftSeen
      (fun h hState _ _ => ⟨hState, fun _ hSet => hSet⟩)
  intro isr
  apply Holds.bind Drift.refl
  · exact Holds.readReg (Q := fun ier w =>
        ier = v₀.ier ∧ v₀.Drift w ∧
          ∀ src : Source, src.In isr → src.In w.isr)
      regIer Drift.refl
      (View.locked_of_steady (View.steady_driftSeen isr))
      (fun ier h h' hStep hState => ⟨hState.1,
        View.steady_driftSeen isr h h' hStep hState.2⟩)
      (fun h hState _ _ => ⟨hState.1.ier, hState⟩)
  intro ier
  apply Holds.assuming
  rintro rfl
  apply Holds.ite
  · intro _
    apply Holds.pure false (View.steady_served false)
    rintro w ⟨hDrift, -⟩
    exact
      { nest := hDrift.nest
        acked := hDrift.acked
        signaled := hDrift.signaled
        enabled := by
          intro i hSet
          rwa [hDrift.ier] at hSet
        masked := by
          intro src hSet hClear
          rw [hDrift.ier] at hClear
          exact absurd hSet hClear
        pending := hDrift.pending
        fresh := hDrift.fresh }
  · intro _
    have hServing :
        Locked Drift (View.Serving v₀ isr) :=
      View.locked_of_steady (View.steady_serving isr)
    apply Holds.bind Drift.refl
    · apply Holds.writeReg regIer 0#16 Drift.refl
        (View.locked_of_steady (View.steady_driftSeen isr))
        hServing.steady
      rintro h ⟨hDrift, hSeen⟩ - -
      exact
        { nest := hDrift.nest
          acked := hDrift.acked
          signaled := hDrift.signaled
          seen := hSeen
          pending := hDrift.pending
          fresh := hDrift.fresh }
    intro _
    apply Holds.bind Drift.refl
    · apply Holds.onlyIf hServing.steady
      intro _
      exact Holds.writeReg regIsr isrTxis Drift.refl
        hServing hServing.steady
        (fun h hState _ _ => hState.ackTransmit)
    intro _
    apply Holds.bind Drift.refl
    · apply Holds.onlyIf hServing.steady
      intro _
      exact Holds.setBit_quiet (by decide) (by decide) _
        Drift.refl hServing
    intro _
    apply Holds.bind Drift.refl
    · apply Holds.writeReg regIer _ Drift.refl hServing
        (View.steady_served _)
      intro h hState _ _
      exact
        { nest := hState.nest
          acked := hState.acked
          signaled := hState.signaled
          enabled := fun i hSet =>
            maskPending_le _ _ _ _ (maskPending_le _ _ _ _
              (maskPending_le _ _ _ _ (maskPending_le _ _ _ _
                (maskPending_le _ _ _ _ hSet))))
          masked := by
            intro src hSet hClear
            have hIn := in_of_masked hSet hClear
            exact ⟨decide_eq_true (handled_of_in hIn),
              hState.seen src hIn⟩
          pending := hState.pending
          fresh := hState.fresh }
    intro _
    exact Holds.pure _ (View.steady_served _)
      (fun _ hState => hState)

/- A whole run of the server is interference the task may
   rely on. -/
theorem holds_isr
    (hNest : v₀.nest = 0) :
    Holds false Drift (fun _ _ => True)
      (fun w => v₀.Drift w) isr (fun _ w => v₀.Rely w) := by
  have hRelyOfServed :
      ∀ handled w, View.Served v₀ handled w →
        v₀.Rely (if handled then { w with signaled := true }
          else w) := by
    intro handled w hServed
    have hUnlocked : 0 < v₀.nest → False := by
      intro hPos
      rw [hNest] at hPos
      exact Nat.lt_irrefl 0 hPos
    cases handled with
    | true =>
        exact
          { nest := hServed.nest
            acked := hServed.acked
            signaled := fun _ => rfl
            enabled := hServed.enabled
            masked := fun src hSet hClear =>
              ⟨rfl, (hServed.masked src hSet hClear).2⟩
            locked := fun hPos => (hUnlocked hPos).elim
            pending := hServed.pending
            fresh := hServed.fresh }
    | false =>
        exact
          { nest := hServed.nest
            acked := hServed.acked
            signaled := fun hSet => hServed.signaled.trans hSet
            enabled := hServed.enabled
            masked := fun src hSet hClear =>
              absurd (hServed.masked src hSet hClear).1
                Bool.false_ne_true
            locked := fun hPos => (hUnlocked hPos).elim
            pending := hServed.pending
            fresh := hServed.fresh }
  unfold isr
  apply Holds.bind Drift.refl
    (Holds.quiet .getInterface trivial View.steady_drift)
  intro context
  apply Holds.ite
  · intro _
    exact Holds.pure _ View.steady_relyFrom
      (fun w hState => hState.rely)
  · intro _
    apply Holds.bind Drift.refl holds_irqHandler
    intro handled
    apply Holds.ite
    · intro hHandled
      subst hHandled
      apply Holds.bind Drift.refl
      · apply Holds.perform .signal (View.steady_served true)
          (fun _ => View.steady_relyFrom)
        intro h hState _
        rw [view_exec_signal]
        exact hRelyOfServed true h.view hState
      intro _
      apply Holds.bind Drift.refl
        (Holds.quiet (.setInterface _) trivial
          View.steady_relyFrom)
      intro _
      exact Holds.pure _ View.steady_relyFrom
        (fun _ hState => hState)
    · intro hHandled
      rw [Bool.not_eq_true] at hHandled
      subst hHandled
      exact Holds.pure _ View.steady_relyFrom
        (hRelyOfServed false)

end Server

end KszDriver
