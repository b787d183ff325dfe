import KszDriver.Nic.InterruptServer

/-
  The unit task under interference: going online enables
  exactly the sources, and a run of the event handler whose
  operations meet `KeepsSources` leaves every source enabled
  or covered by a new signal.

  Main declarations:
    * `Settled`, `Owed`, `Repaid`
    * `holds_receivePacket`, `holds_receiveLoop`
    * `holds_online`, `holds_eventHandler`
-/

------------------------------------------------------------
-- Assertions of the Unit Task
------------------------------------------------------------

namespace KszDriver

namespace View

/- A masked source is covered by a signal and its status. -/
def Covered (w : View) (src : Source) : Prop :=
  w.signaled = true ∧ src.In w.isr

/- The task waits, or is about to, with nest count `n`. -/
structure Settled (n : Nat) (w : View) : Prop where
  nest : w.nest = n
  onlyIer : OnlySources w.ier
  onlyIsr : OnlySources w.isr
  covered : ∀ src : Source, src.In w.ier ∨ w.Covered src

/- The task has taken its signal and will read the status. -/
structure Awake (n : Nat) (w : View) : Prop where
  nest : w.nest = n
  onlyIer : OnlySources w.ier
  onlyIsr : OnlySources w.isr
  acked : w.acked = 0#16
  pending : ∀ src : Source, src.In w.ier ∨ src.In w.isr

/-
  The handler owes the sources in `mask` their enable bits,
  and those in `todo` their service.  What it acknowledged
  it will enable.
-/
structure Owed
    (n : Nat)
    (mask : UWORD)
    (todo : Source → Prop)
    (w : View) : Prop where
  nest : w.nest = n
  onlyIer : OnlySources w.ier
  onlyIsr : OnlySources w.isr
  onlyMask : OnlySources mask
  acked : ∀ src : Source, src.In w.acked → src.In mask
  covered : ∀ src : Source,
    src.In w.ier ∨ src.In mask ∨ todo src ∨ w.Covered src

/- All services are done; the enable bits are still owed. -/
structure Repaid (mask : UWORD) (w : View) : Prop where
  nest : w.nest = 1
  onlyIer : OnlySources w.ier
  onlyIsr : OnlySources w.isr
  onlyMask : OnlySources mask
  covered : ∀ src : Source,
    src.In w.ier ∨ src.In mask ∨ w.Covered src

------------------------------------------------------------
-- Stability
------------------------------------------------------------

variable {w w' : View}

/- A source stays covered. -/
theorem Covered.stable
    {src : Source}
    (hRely : w.Rely w')
    (hCovered : w.Covered src) :
    w'.Covered src :=
  ⟨hRely.signaled hCovered.1, hRely.pending src hCovered.2⟩

/- An enabled source stays so or is covered. -/
theorem Rely.in_or_covered
    {src : Source}
    (hRely : w.Rely w')
    (hSet : src.In w.ier) :
    src.In w'.ier ∨ w'.Covered src := by
  by_cases hStill : src.In w'.ier
  · exact Or.inl hStill
  · exact Or.inr (hRely.masked src hSet hStill)

theorem Rely.onlyIer
    (hRely : w.Rely w')
    (hOnly : OnlySources w.ier) :
    OnlySources w'.ier :=
  fun i hSet => hOnly i (hRely.enabled i hSet)

theorem steady_settled (n : Nat) :
    Steady KszDriver.Rely (Settled n) := by
  intro h h' hStep hState
  exact
    { nest := hStep.view.nest.trans hState.nest
      onlyIer := hStep.view.onlyIer hState.onlyIer
      onlyIsr := hStep.view.onlySources hState.onlyIsr
      covered := by
        intro src
        rcases hState.covered src with hSet | hCovered
        · exact hStep.view.in_or_covered hSet
        · exact Or.inr (hCovered.stable hStep.view) }

theorem steady_awake (n : Nat) :
    Steady KszDriver.Rely (Awake n) := by
  intro h h' hStep hState
  exact
    { nest := hStep.view.nest.trans hState.nest
      onlyIer := hStep.view.onlyIer hState.onlyIer
      onlyIsr := hStep.view.onlySources hState.onlyIsr
      acked := hStep.view.acked.trans hState.acked
      pending := by
        intro src
        rcases hState.pending src with hSet | hPending
        · exact (hStep.view.in_or_covered hSet).imp id
            And.right
        · exact Or.inr (hStep.view.pending src hPending) }

theorem steady_owed
    (n : Nat) (mask : UWORD) (todo : Source → Prop) :
    Steady KszDriver.Rely (Owed n mask todo) := by
  intro h h' hStep hState
  exact
    { nest := hStep.view.nest.trans hState.nest
      onlyIer := hStep.view.onlyIer hState.onlyIer
      onlyIsr := hStep.view.onlySources hState.onlyIsr
      onlyMask := hState.onlyMask
      acked := by
        intro src hAcked
        rw [hStep.view.acked] at hAcked
        exact hState.acked src hAcked
      covered := by
        intro src
        rcases hState.covered src with
          hSet | hMask | hTodo | hCovered
        · exact (hStep.view.in_or_covered hSet).imp id
            (fun hNew => Or.inr (Or.inr hNew))
        · exact Or.inr (Or.inl hMask)
        · exact Or.inr (Or.inr (Or.inl hTodo))
        · exact Or.inr (Or.inr
            (Or.inr (hCovered.stable hStep.view))) }

theorem steady_repaid (mask : UWORD) :
    Steady KszDriver.Rely (Repaid mask) := by
  intro h h' hStep hState
  exact
    { nest := hStep.view.nest.trans hState.nest
      onlyIer := hStep.view.onlyIer hState.onlyIer
      onlyIsr := hStep.view.onlySources hState.onlyIsr
      onlyMask := hState.onlyMask
      covered := by
        intro src
        rcases hState.covered src with
          hSet | hMask | hCovered
        · exact (hStep.view.in_or_covered hSet).imp id
            Or.inr
        · exact Or.inr (Or.inl hMask)
        · exact Or.inr
            (Or.inr (hCovered.stable hStep.view)) }

/- Under Disable, what is steady is locked. -/
theorem locked_of_nest
    {P : View → Prop}
    (hSteady : Steady KszDriver.Rely P)
    (hNest : ∀ w, P w → 0 < w.nest) :
    Locked KszDriver.Rely P where
  steady := hSteady
  latch := fun _ _ hStep hState =>
    hStep.latch (hNest _ hState)

theorem locked_awake : Locked KszDriver.Rely (Awake 1) :=
  locked_of_nest (steady_awake 1) (fun w hState => by
    rw [hState.nest]
    exact Nat.one_pos)

theorem locked_owed (mask : UWORD) (todo : Source → Prop) :
    Locked KszDriver.Rely (Owed 1 mask todo) :=
  locked_of_nest (steady_owed 1 mask todo)
    (fun w hState => by
      rw [hState.nest]
      exact Nat.one_pos)

theorem locked_repaid (mask : UWORD) :
    Locked KszDriver.Rely (Repaid mask) :=
  locked_of_nest (steady_repaid mask) (fun w hState => by
    rw [hState.nest]
    exact Nat.one_pos)

end View

/- The rules for the unit task, guarded by `A`. -/
abbrev TaskHolds
    {α : Type}
    (A : NicOp → Host → Prop)
    (P : View → Prop)
    (p : NicM α)
    (Q : α → View → Prop) : Prop :=
  Holds true Rely A P p Q

------------------------------------------------------------
-- Going Online
------------------------------------------------------------

/- Nothing is enabled. -/
def View.Asleep (n : Nat) (w : View) : Prop :=
  w.nest = n ∧ w.ier = 0#16

theorem View.steady_asleep (n : Nat) :
    Steady KszDriver.Rely (View.Asleep n) := by
  rintro h h' hStep ⟨hNest, hIer⟩
  refine ⟨hStep.view.nest.trans hNest, ?_⟩
  apply BitVec.eq_of_getLsbD_eq
  intro i _
  rw [BitVec.getLsbD_zero, ← Bool.not_eq_true]
  intro hSet
  have hBit := hStep.view.enabled i hSet
  rw [hIer, BitVec.getLsbD_zero] at hBit
  exact Bool.false_ne_true hBit

theorem View.locked_asleep :
    Locked KszDriver.Rely (View.Asleep 1) :=
  View.locked_of_nest (View.steady_asleep 1)
    (fun w hState => by
      rw [hState.1]
      exact Nat.one_pos)

section Online

variable {A : NicOp → Host → Prop}

/- Installing the server accesses no register. -/
theorem holds_installInterruptHandler
    {P : View → Prop}
    (hSteady : Steady Rely P) :
    TaskHolds A P installInterruptHandler (fun _ => P) := by
  unfold installInterruptHandler
  apply Holds.bind Rely.refl
    (Holds.quiet .getInterface trivial hSteady)
  intro context
  apply Holds.ite
  · intro _
    exact Holds.pure true hSteady (fun _ hState => hState)
  · intro _
    apply Holds.bind Rely.refl
      (Holds.quiet (.setInterface _) trivial hSteady)
    intro _
    apply Holds.bind Rely.refl
      (Holds.quiet .allocSignal trivial hSteady)
    intro sigNumber
    apply Holds.bind Rely.refl
      (Holds.quiet (.setInterface _) trivial hSteady)
    intro _
    apply Holds.ite
    · intro _
      apply Holds.bind Rely.refl
        (Holds.quiet (.setInterface _) trivial hSteady)
      intro _
      exact Holds.pure false hSteady (fun _ hState => hState)
    · intro _
      apply Holds.bind Rely.refl
        (Holds.quiet .addIntServer trivial hSteady)
      intro _
      exact Holds.pure true hSteady (fun _ hState => hState)

/- The nest count after `Disable` and `Enable`. -/
theorem holds_disable
    {P Q : View → Prop}
    (hSteady : Steady Rely P)
    (hSteady' : Steady Rely Q)
    (hStep : ∀ w, P w → Q { w with nest := w.nest + 1 }) :
    TaskHolds A P disable (fun _ => Q) := by
  apply Holds.perform .disable hSteady (fun _ => hSteady')
  intro h hState _
  rw [view_exec_disable]
  exact hStep h.view hState

theorem holds_enable
    {P Q : View → Prop}
    (hSteady : Steady Rely P)
    (hSteady' : Steady Rely Q)
    (hStep : ∀ w, P w → Q { w with nest := w.nest - 1 }) :
    TaskHolds A P enable (fun _ => Q) := by
  apply Holds.perform .enable hSteady (fun _ => hSteady')
  intro h hState _
  rw [view_exec_enable]
  exact hStep h.view hState

/- Acknowledging all flags clears the whole `ISR`. -/
theorem onlySources_ack
    {seen isr : UWORD}
    (hFresh : ∀ i, isr.getLsbD i = true →
      seen.getLsbD i = true ∨
        onlineIerMask.getLsbD i = true) :
    OnlySources (isr &&& ~~~(seen ||| onlineIsrMask)) := by
  intro i hSet
  rw [BitVec.getLsbD_and, Bool.and_eq_true] at hSet
  rcases hFresh i hSet.1 with hSeen | hSource
  · have hNot := hSet.2
    rw [BitVec.getLsbD_not, BitVec.getLsbD_or, hSeen]
      at hNot
    simp at hNot
  · exact hSource

/- Going online ends with exactly the sources enabled. -/
theorem holds_online :
    TaskHolds A (View.Asleep 0) ksz8851Online
      (fun _ => View.Settled 0) := by
  unfold ksz8851Online
  apply Holds.bind Rely.refl
    (holds_installInterruptHandler (View.steady_asleep 0))
  intro _
  apply Holds.bind Rely.refl
    (holds_disable (Q := View.Asleep 1)
      (View.steady_asleep 0) (View.steady_asleep 1) (by
        rintro w ⟨hNest, hIer⟩
        exact ⟨congrArg Nat.succ hNest, hIer⟩))
  intro _
  apply Holds.bind Rely.refl
  · exact Holds.modifyReg regIsr (· ||| onlineIsrMask)
      (fun seen w => View.Asleep 1 w ∧
        ∀ i, w.isr.getLsbD i = true →
          seen.getLsbD i = true ∨
            onlineIerMask.getLsbD i = true)
      (fun w => View.Asleep 1 w ∧ OnlySources w.isr)
      Rely.refl
      View.locked_asleep
      (fun seen => View.locked_of_nest
        (by
          rintro h h' hStep ⟨hState, hFresh⟩
          exact ⟨View.steady_asleep 1 h h' hStep hState,
            fun i hSet => (hStep.view.fresh i hSet).elim
              (hFresh i) Or.inr⟩)
        (by
          rintro w ⟨⟨hNest, -⟩, -⟩
          rw [hNest]
          exact Nat.one_pos))
      (by
        rintro h h' hStep ⟨hState, hOnly⟩
        exact ⟨View.steady_asleep 1 h h' hStep hState,
          hStep.view.onlySources hOnly⟩)
      (fun h hState _ _ =>
        ⟨hState, fun i hSet => Or.inl hSet⟩)
      (fun seen h hState _ _ =>
        ⟨hState.1, onlySources_ack hState.2⟩)
  intro _
  have hSteady :
      Steady Rely (fun w => View.Asleep 1 w ∧
        OnlySources w.isr) := by
    rintro h h' hStep ⟨hState, hOnly⟩
    exact ⟨View.steady_asleep 1 h h' hStep hState,
      hStep.view.onlySources hOnly⟩
  have hLocked :
      Locked Rely (View.Settled 1) :=
    View.locked_of_nest (View.steady_settled 1)
      (fun w hState => by
        rw [hState.nest]
        exact Nat.one_pos)
  apply Holds.bind Rely.refl
  · exact Holds.modifyReg regIer (· ||| onlineIerMask)
      (fun ier w => ier = 0#16 ∧
        View.Asleep 1 w ∧ OnlySources w.isr)
      (View.Settled 1) Rely.refl
      (View.locked_of_nest hSteady (by
        rintro w ⟨⟨hNest, -⟩, -⟩
        rw [hNest]
        exact Nat.one_pos))
      (fun ier => View.locked_of_nest
        (fun h h' hStep hState =>
          ⟨hState.1, hSteady h h' hStep hState.2⟩)
        (by
          rintro w ⟨-, ⟨hNest, -⟩, -⟩
          rw [hNest]
          exact Nat.one_pos))
      (View.steady_settled 1)
      (fun h hState _ _ => ⟨hState.1.2, hState⟩)
      (by
        rintro ier h ⟨rfl, ⟨hNest, -⟩, hOnly⟩ - -
        exact
          { nest := hNest
            onlyIer := fun i hSet => by
              simpa [View.write, regIer_ne_regIsr] using hSet
            onlyIsr := hOnly
            covered := fun src => Or.inl (by
              simp [View.write, regIer_ne_regIsr]) })
  intro _
  apply Holds.bind Rely.refl
    (Holds.setBit_quiet (by decide) (by decide) _ Rely.refl
      hLocked)
  intro _
  apply Holds.bind Rely.refl
    (Holds.setBit_quiet (by decide) (by decide) _ Rely.refl
      hLocked)
  intro _
  apply holds_enable hLocked.steady (View.steady_settled 0)
  intro w hState
  exact
    { nest := by
        show w.nest - 1 = 0
        rw [hState.nest]
      onlyIer := hState.onlyIer
      onlyIsr := hState.onlyIsr
      covered := hState.covered }

end Online

------------------------------------------------------------
-- The Branches of the Event Handler
------------------------------------------------------------

section Branches

variable {A : NicOp → Host → Prop}
variable {mask : UWORD} {todo : Source → Prop}

theorem holds_receivePacket :
    TaskHolds A (View.Owed 1 mask todo) ksz8851ReceivePacket
      (fun _ => View.Owed 1 mask todo) := by
  have hLocked := View.locked_owed mask todo
  have hSteady := View.steady_owed 0 mask todo
  unfold ksz8851ReceivePacket
  apply Holds.bind Rely.refl
    (Holds.readReg_quiet _ Rely.refl hLocked)
  intro frameStatus
  apply Holds.ite
  · intro _
    apply Holds.bind Rely.refl
    · exact Holds.onlyIf hLocked.steady (fun _ =>
        Holds.setBit_quiet (by decide) (by decide) _
          Rely.refl hLocked)
    intro _
    exact Holds.pure _ hLocked.steady (fun _ hState => hState)
  · intro _
    apply Holds.bind Rely.refl
      (Holds.readReg_quiet _ Rely.refl hLocked)
    intro rxfhbcr
    apply Holds.ite
    · intro _
      apply Holds.bind Rely.refl
        (Holds.quiet .getInterface trivial hLocked.steady)
      intro context
      apply Holds.bind Rely.refl
        (Holds.writeReg_quiet (by decide) (by decide) _
          Rely.refl hLocked)
      intro _
      apply Holds.bind Rely.refl
        (Holds.setBit_quiet (by decide) (by decide) _
          Rely.refl hLocked)
      intro _
      apply Holds.bind Rely.refl
        (Holds.quiet .readDataReg trivial hLocked.steady)
      intro _
      apply Holds.bind Rely.refl
        (Holds.quiet .readDataReg trivial hLocked.steady)
      intro _
      apply Holds.bind Rely.refl
        (Holds.quiet .readDataReg trivial hLocked.steady)
      intro _
      apply Holds.bind Rely.refl
        (Holds.readFifo_quiet _ Rely.refl hLocked.steady)
      intro _
      apply Holds.bind Rely.refl
        (Holds.clearBit_quiet (by decide) (by decide) _
          Rely.refl hLocked)
      intro _
      -- The server may run from here to the next Disable.
      apply Holds.bind Rely.refl
        (holds_enable (Q := View.Owed 0 mask todo)
          hLocked.steady hSteady
          (fun w hState => { hState with
            nest := by
              show w.nest - 1 = 0
              rw [hState.nest] }))
      intro _
      apply Holds.bind Rely.refl
        (Holds.quiet .getInterface trivial hSteady)
      intro interface
      apply Holds.bind Rely.refl
      · exact Holds.onlyIf hSteady (fun _ =>
          Holds.quiet (.onPacketReceived _ _) trivial hSteady)
      intro _
      apply Holds.bind Rely.refl
        (holds_disable (Q := View.Owed 1 mask todo)
          hSteady hLocked.steady
          (fun w hState => { hState with
            nest := congrArg Nat.succ hState.nest }))
      intro _
      exact Holds.pure _ hLocked.steady
        (fun _ hState => hState)
    · intro _
      apply Holds.bind Rely.refl
        (Holds.setBit_quiet (by decide) (by decide) _
          Rely.refl hLocked)
      intro _
      exact Holds.pure _ hLocked.steady
        (fun _ hState => hState)

/- Receiving any number of frames settles no debt. -/
theorem holds_receiveLoop (frameCount : Nat) :
    TaskHolds A (View.Owed 1 mask todo)
      (receiveLoop frameCount)
      (fun _ => View.Owed 1 mask todo) := by
  induction frameCount with
  | zero =>
      exact Holds.pure () (View.steady_owed 1 mask todo)
        (fun _ hState => hState)
  | succ frameCount ih =>
      apply Holds.bind Rely.refl holds_receivePacket
      intro _
      exact ih

end Branches

/- The handler has read the status. -/
structure View.Noted (status : UWORD) (w : View) : Prop where
  awake : w.Awake 1
  onlyStatus : OnlySources status
  pending : ∀ src : Source, src.In w.ier ∨ src.In status

/- The handler has acknowledged the link change. -/
structure View.Linked (w : View) : Prop where
  nest : w.nest = 1
  onlyIer : OnlySources w.ier
  onlyIsr : OnlySources w.isr
  acked : ∀ src : Source, src.In w.acked → src = .link
  pending : ∀ src : Source, src ≠ .link →
    src.In w.ier ∨ src.In w.isr

theorem View.locked_noted (status : UWORD) :
    Locked KszDriver.Rely (View.Noted status) := by
  apply View.locked_of_nest
  · intro h h' hStep hState
    have hPos : 0 < h.view.nest := by
      rw [hState.awake.nest]
      exact Nat.one_pos
    exact
      { awake := View.steady_awake 1 h h' hStep hState.awake
        onlyStatus := hState.onlyStatus
        pending := by
          rw [hStep.view.locked hPos]
          exact hState.pending }
  · intro w hState
    rw [hState.awake.nest]
    exact Nat.one_pos

theorem View.locked_linked :
    Locked KszDriver.Rely View.Linked := by
  apply View.locked_of_nest
  · intro h h' hStep hState
    exact
      { nest := hStep.view.nest.trans hState.nest
        onlyIer := hStep.view.onlyIer hState.onlyIer
        onlyIsr := hStep.view.onlySources hState.onlyIsr
        acked := by
          intro src hAcked
          rw [hStep.view.acked] at hAcked
          exact hState.acked src hAcked
        pending := by
          intro src hOther
          rcases hState.pending src hOther with
            hSet | hPending
          · exact (hStep.view.in_or_covered hSet).imp id
              And.right
          · exact Or.inr (hStep.view.pending src hPending) }
  · intro w hState
    rw [hState.nest]
    exact Nat.one_pos

/- Sources other than the link, as far as a word shows. -/
def restOf (status : UWORD) (src : Source) : Prop :=
  src ≠ .link ∧ src.In status

/- The bits that the handler tests besides the sources. -/
def otherBits : UWORD :=
  ierLdie ||| ierTxie

theorem onlySources_mask
    {mask : UWORD}
    (hMask : mask &&& ~~~onlineIerMask = 0#16) :
    OnlySources mask := by
  intro i hSet
  have hLt : i < 16 := BitVec.lt_of_getLsbD hSet
  have hBits := congrArg (fun v => v.getLsbD i) hMask
  simpa [hSet, hLt] using hBits

/- An acknowledged source leaves the others pending. -/
theorem in_and_not_of_ne
    {src : Source}
    {isr bits : UWORD}
    (hPending : src.In isr)
    (hOther : ¬ src.In bits) :
    src.In (isr &&& ~~~bits) := by
  rw [Source.in_and_iff, Source.in_not_iff]
  exact ⟨hPending, hOther⟩

theorem eq_link_of_in {src : Source} (hIn : src.In isrLcis) :
    src = .link := by
  revert hIn
  cases src <;> decide

theorem eq_receive_of_in
    {src : Source}
    (hIn : src.In isrRxis) :
    src = .receive := by
  revert hIn
  cases src <;> decide

/- The acknowledgement of the link change. -/
theorem View.Noted.ackLink
    {status : UWORD}
    {w : View}
    (hState : View.Noted status w) :
    View.Linked (w.write true regIsr isrLcis) where
  nest := hState.awake.nest
  onlyIer := hState.awake.onlyIer
  onlyIsr := hState.awake.onlyIsr.and_left _
  acked := by
    intro src hAcked
    have hAck : src.In (w.acked ||| isrLcis) := hAcked
    rw [hState.awake.acked, BitVec.zero_or] at hAck
    exact eq_link_of_in hAck
  pending := by
    intro src hOther
    refine (hState.awake.pending src).imp id ?_
    intro hPending
    exact in_and_not_of_ne hPending
      (fun hIn => hOther (eq_link_of_in hIn))

/- What a good link read leaves to be done. -/
theorem View.Linked.owed
    {status : UWORD}
    {w : View}
    (hState : View.Linked w)
    (hRead : ∀ src, src ≠ Source.link →
      src.In w.ier ∨ w.signaled = true ∨ src.In status) :
    w.Owed 1 ierLcie (restOf status) where
  nest := hState.nest
  onlyIer := hState.onlyIer
  onlyIsr := hState.onlyIsr
  onlyMask := onlySources_mask (by decide)
  acked := by
    intro src hAcked
    rw [hState.acked src hAcked]
    decide
  covered := by
    intro src
    by_cases hLink : src = .link
    · subst hLink
      exact Or.inr (Or.inl (by decide))
    · rcases hState.pending src hLink with hSet | hPending
      · exact Or.inl hSet
      · rcases hRead src hLink with
          hSet | hSignaled | hShown
        · exact Or.inl hSet
        · exact Or.inr (Or.inr
            (Or.inr ⟨hSignaled, hPending⟩))
        · exact Or.inr (Or.inr (Or.inl ⟨hLink, hShown⟩))

/- Without a link change the status stays what it was. -/
theorem View.Noted.owed
    {status : UWORD}
    {w : View}
    (hState : View.Noted status w)
    (hLink : ¬ Source.link.In status) :
    w.Owed 1 0#16 (restOf status) where
  nest := hState.awake.nest
  onlyIer := hState.awake.onlyIer
  onlyIsr := hState.awake.onlyIsr
  onlyMask := onlySources_mask (by decide)
  acked := by
    intro src hAcked
    rwa [hState.awake.acked] at hAcked
  covered := by
    intro src
    rcases hState.pending src with hSet | hPending
    · exact Or.inl hSet
    · refine Or.inr (Or.inr (Or.inl ⟨?_, hPending⟩))
      rintro rfl
      exact hLink hPending

theorem holds_handleLinkChange (status : UWORD) :
    TaskHolds KeepsSources (View.Noted status)
      (handleLinkChange status)
      (fun result w =>
        result.1 &&& otherBits = 0#16 ∧
          w.Owed 1 result.2 (restOf result.1)) := by
  have hSteady :
      ∀ status mask : UWORD,
        Steady Rely (fun w => status &&& otherBits = 0#16 ∧
          w.Owed 1 mask (restOf status)) := by
    intro status mask h h' hStep hState
    exact ⟨hState.1,
      View.steady_owed 1 _ _ h h' hStep hState.2⟩
  unfold handleLinkChange
  apply Holds.ite
  · intro _
    apply Holds.bind Rely.refl
    · exact Holds.writeReg (Q := View.Linked) regIsr _
        Rely.refl (View.locked_noted status)
        View.locked_linked.steady
        (fun h hState _ _ => hState.ackLink)
    intro _
    apply Holds.bind Rely.refl
    · apply Holds.readReg
        (Q := fun status w => status &&& otherBits = 0#16 ∧
          w.Owed 1 ierLcie (restOf status))
        regP1sr Rely.refl View.locked_linked
        (fun status => hSteady status _)
      intro h hState hAccesses hKeeps
      rcases hKeeps hAccesses with ⟨hOther, hRead⟩
      exact ⟨hOther, hState.owed hRead⟩
    intro p1sr
    apply Holds.bind Rely.refl
      (Holds.quiet (.setInterface _) trivial (hSteady _ _))
    intro _
    apply Holds.bind Rely.refl
      (Holds.notifyLinkChange_quiet Rely.refl (hSteady _ _))
    intro _
    exact Holds.pure _ (hSteady _ _) (fun _ hState => hState)
  · intro hNoLink
    have hLink : ¬ Source.link.In status := by
      rwa [← link_in_iff]
    apply Holds.pure _ (hSteady _ _)
    intro w hState
    exact ⟨hState.onlyStatus.and_eq_zero (by decide),
      hState.owed hLink⟩

/- The receive and overrun debts, one by one. -/
def overrunOf (status : UWORD) (src : Source) : Prop :=
  src = .overrun ∧ src.In status

/- A service may be exchanged for the promised enable bit. -/
theorem View.Owed.exchange
    {n : Nat}
    {mask enableBit : UWORD}
    {todo todo' : Source → Prop}
    {w : View}
    (hState : w.Owed n mask todo)
    (hBit : OnlySources enableBit)
    (hTodo : ∀ src, todo src → src.In enableBit ∨ todo' src) :
    w.Owed n (mask ||| enableBit) todo' where
  nest := hState.nest
  onlyIer := hState.onlyIer
  onlyIsr := hState.onlyIsr
  onlyMask := hState.onlyMask.or hBit
  acked := fun src hAcked =>
    (src.in_or_iff _ _).mpr
      (Or.inl (hState.acked src hAcked))
  covered := by
    intro src
    rw [src.in_or_iff]
    rcases hState.covered src with
      hSet | hMask | hDue | hCovered
    · exact Or.inl hSet
    · exact Or.inr (Or.inl (Or.inl hMask))
    · exact Or.inr ((hTodo src hDue).imp Or.inr Or.inl)
    · exact Or.inr (Or.inr (Or.inr hCovered))

/- Acknowledging what is promised settles no debt. -/
theorem View.Owed.ack
    {n : Nat}
    {mask bits : UWORD}
    {todo : Source → Prop}
    {w : View}
    (hState : w.Owed n mask todo)
    (hBits : ∀ src : Source, src.In bits → src.In mask) :
    (w.write true regIsr bits).Owed n mask todo where
  nest := hState.nest
  onlyIer := hState.onlyIer
  onlyIsr := hState.onlyIsr.and_left _
  onlyMask := hState.onlyMask
  acked := by
    intro src hAcked
    have hAck : src.In (w.acked ||| bits) := hAcked
    rw [src.in_or_iff] at hAck
    exact hAck.elim (hState.acked src) (hBits src)
  covered := by
    intro src
    rcases hState.covered src with
      hSet | hMask | hDue | ⟨hSignaled, hPending⟩
    · exact Or.inl hSet
    · exact Or.inr (Or.inl hMask)
    · exact Or.inr (Or.inr (Or.inl hDue))
    · by_cases hBit : src.In bits
      · exact Or.inr (Or.inl (hBits src hBit))
      · exact Or.inr (Or.inr (Or.inr
          ⟨hSignaled, in_and_not_of_ne hPending hBit⟩))

theorem holds_handleReceive (status mask : UWORD) :
    TaskHolds KeepsSources
      (View.Owed 1 mask (restOf status))
      (handleReceive status mask)
      (fun mask' => View.Owed 1 mask' (overrunOf status)) := by
  unfold handleReceive
  apply Holds.ite
  · intro _
    have hLocked :=
      View.locked_owed (mask ||| ierRxie) (overrunOf status)
    apply Holds.bind Rely.refl
    · apply Holds.writeReg regIsr _ Rely.refl
        (View.locked_owed mask (restOf status))
        hLocked.steady
      intro h hState _ _
      have hOwed :
          h.view.Owed 1 (mask ||| ierRxie)
            (overrunOf status) := by
        apply hState.exchange (onlySources_mask (by decide))
        rintro src ⟨hNoLink, hIn⟩
        cases src with
        | link => exact absurd rfl hNoLink
        | receive => exact Or.inl (by decide)
        | overrun => exact Or.inr ⟨rfl, hIn⟩
      apply hOwed.ack
      intro src hIn
      rw [eq_receive_of_in hIn, Source.in_or_iff]
      exact Or.inr (by decide)
    intro _
    apply Holds.bind Rely.refl
      (Holds.readReg_quiet _ Rely.refl hLocked)
    intro rxfctr
    apply Holds.bind Rely.refl (holds_receiveLoop _)
    intro _
    exact Holds.pure _ hLocked.steady (fun _ hState => hState)
  · intro hNoPacket
    have hReceive : ¬ Source.receive.In status := by
      rwa [← receive_in_iff]
    have hOwed :
        ∀ w : View, w.Owed 1 mask (restOf status) →
          w.Owed 1 (mask ||| 0#16) (overrunOf status) := by
      intro w hState
      apply hState.exchange (onlySources_mask (by decide))
      rintro src ⟨hNoLink, hIn⟩
      cases src with
      | link => exact absurd rfl hNoLink
      | receive => exact absurd hIn hReceive
      | overrun => exact Or.inr ⟨rfl, hIn⟩
    rw [BitVec.or_zero] at hOwed
    exact Holds.pure mask (View.steady_owed 1 _ _) hOwed

/- An acknowledged overrun, read back and written. -/
theorem View.Owed.ackOverrun
    {mask word status : UWORD}
    {h : Host}
    (hState : h.view.Owed 1 mask (overrunOf status))
    (hKeeps : OverrunAckOk (word ||| isrRxois) h) :
    (h.view.write true regIsr (word ||| isrRxois)).Repaid
      (mask ||| ierRxoie) where
  nest := hState.nest
  onlyIer := hState.onlyIer
  onlyIsr := hState.onlyIsr.and_left _
  onlyMask := hState.onlyMask.or
    (onlySources_mask (by decide))
  covered := by
    have hWritten : Source.overrun.In (word ||| isrRxois) :=
      (Source.in_or_iff _ _ _).mpr (Or.inr (by decide))
    intro src
    rw [src.in_or_iff]
    by_cases hOverrun : src = .overrun
    · subst hOverrun
      exact Or.inr (Or.inl (Or.inr (by decide)))
    · rcases hState.covered src with
        hSet | hMask | hDue | ⟨hSignaled, hPending⟩
      · exact Or.inl hSet
      · exact Or.inr (Or.inl (Or.inl hMask))
      · exact absurd hDue.1 hOverrun
      · by_cases hIn : src.In (word ||| isrRxois)
        · rcases hKeeps hWritten src hOverrun hIn with
            hSet | hAcked
          · exact Or.inl hSet
          · exact Or.inr
              (Or.inl (Or.inl (hState.acked src hAcked)))
        · exact Or.inr (Or.inr
            ⟨hSignaled, in_and_not_of_ne hPending hIn⟩)

theorem holds_handleOverrun (status mask : UWORD) :
    TaskHolds KeepsSources
      (View.Owed 1 mask (overrunOf status))
      (handleOverrun status mask)
      (fun mask' => View.Repaid mask') := by
  have hLocked := View.locked_owed mask (overrunOf status)
  unfold handleOverrun
  apply Holds.ite
  · intro _
    apply Holds.bind Rely.refl
      (Holds.quiet (.setInterface _) trivial hLocked.steady)
    intro _
    apply Holds.bind Rely.refl
    · exact Holds.modifyReg regIsr (· ||| isrRxois)
        (fun _ => View.Owed 1 mask (overrunOf status))
        (View.Repaid (mask ||| ierRxoie)) Rely.refl hLocked
        (fun _ => hLocked) (View.steady_repaid _)
        (fun h hState _ _ => hState)
        (fun word h hState hAccesses hKeeps =>
          hState.ackOverrun (hKeeps hAccesses))
    intro _
    exact Holds.pure _ (View.steady_repaid _)
      (fun _ hState => hState)
  · intro hNoOverrun
    have hOverrun : ¬ Source.overrun.In status := by
      rwa [← overrun_in_iff]
    apply Holds.pure _ (View.steady_repaid _)
    intro w hState
    exact
      { nest := hState.nest
        onlyIer := hState.onlyIer
        onlyIsr := hState.onlyIsr
        onlyMask := hState.onlyMask
        covered := by
          intro src
          rcases hState.covered src with
            hSet | hMask | ⟨rfl, hIn⟩ | hCovered
          · exact Or.inl hSet
          · exact Or.inr (Or.inl hMask)
          · exact absurd hIn hOverrun
          · exact Or.inr (Or.inr hCovered) }

------------------------------------------------------------
-- The Event Handler
------------------------------------------------------------

theorem and_eq_zero_of_otherBits
    {status bit : UWORD}
    (hOther : status &&& otherBits = 0#16)
    (hBit : otherBits &&& bit = bit) :
    status &&& bit = 0#16 := by
  rw [← hBit, ← BitVec.and_assoc, hOther, BitVec.zero_and]

/- Writing back the owed enable bits. -/
theorem View.Repaid.settled
    {mask : UWORD}
    {w : View}
    (hState : w.Repaid mask) :
    (w.write true regIer (w.ier ||| mask)).Settled 1 where
  nest := hState.nest
  onlyIer := hState.onlyIer.or hState.onlyMask
  onlyIsr := hState.onlyIsr
  covered := by
    intro src
    rcases hState.covered src with hSet | hMask | hCovered
    · exact Or.inl ((src.in_or_iff _ _).mpr (Or.inl hSet))
    · exact Or.inl ((src.in_or_iff _ _).mpr (Or.inr hMask))
    · exact Or.inr hCovered

/-
  A run of the event handler whose operations all meet
  `KeepsSources` leaves no source masked and uncovered.
-/
theorem holds_eventHandler :
    TaskHolds KeepsSources (View.Awake 0) ksz8851EventHandler
      (fun _ => View.Settled 0) := by
  unfold ksz8851EventHandler
  apply Holds.bind Rely.refl
    (holds_disable (Q := View.Awake 1)
      (View.steady_awake 0) (View.steady_awake 1)
      (fun w hState => { hState with
        nest := congrArg Nat.succ hState.nest }))
  intro _
  apply Holds.bind Rely.refl
  · exact Holds.readReg regIsr Rely.refl View.locked_awake
      (fun status => (View.locked_noted status).steady)
      (fun h hState _ _ =>
        { awake := hState
          onlyStatus := hState.onlyIsr
          pending := hState.pending })
  intro status
  apply Holds.bind Rely.refl (holds_handleLinkChange status)
  rintro ⟨status, mask⟩
  apply Holds.assuming
  intro hOther
  apply Holds.bind Rely.refl (holds_handleReceive status mask)
  intro mask
  apply Holds.bind Rely.refl (holds_handleOverrun status mask)
  intro mask
  have hNoWakeup : ¬ status &&& ierLdie ≠ 0#16 :=
    not_not.mpr (and_eq_zero_of_otherBits hOther (by decide))
  have hNoTransmit : ¬ status &&& ierTxie ≠ 0#16 :=
    not_not.mpr (and_eq_zero_of_otherBits hOther (by decide))
  simp only [handleWakeup, if_neg hNoWakeup,
    if_neg hNoTransmit, Program.pure_bind]
  have hLocked :
      ∀ ier, Locked Rely
        (fun w => ier = w.ier ∧ View.Repaid mask w) := by
    intro ier
    apply View.locked_of_nest
    · rintro h h' hStep ⟨rfl, hState⟩
      refine ⟨?_, View.steady_repaid mask h h' hStep hState⟩
      rw [hStep.view.locked (by
        rw [hState.nest]
        exact Nat.one_pos)]
    · rintro w ⟨-, hState⟩
      rw [hState.nest]
      exact Nat.one_pos
  apply Holds.bind Rely.refl
  · exact Holds.modifyReg regIer (· ||| mask)
      (fun ier w => ier = w.ier ∧ View.Repaid mask w)
      (View.Settled 1) Rely.refl
      (View.locked_repaid mask) hLocked
      (View.steady_settled 1)
      (fun h hState _ _ => ⟨rfl, hState⟩)
      (by
        rintro ier h ⟨rfl, hState⟩ - -
        exact hState.settled)
  intro _
  apply Holds.bind Rely.refl
    (holds_enable (Q := View.Settled 0)
      (View.steady_settled 1) (View.steady_settled 0)
      (fun w hState => { hState with
        nest := by
          show w.nest - 1 = 0
          rw [hState.nest] }))
  intro _
  exact Holds.pure false (View.steady_settled 0)
    (fun _ hState => hState)

end KszDriver
