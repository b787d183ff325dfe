import KszDriver.Nic.InterruptServer
import KszDriver.Nic.Watch

/-
  The rules for programs under watch.

  Assertions speak about a `Sight`: the interrupt status, the
  Disable nest count and the watch.  What the environment may
  do to a sight is the same for hardware and interrupt
  server: new events, but none whose bit is doomed, and the
  server's own service of old ones.

  Main declarations:
    * `Sight`, `Sight.Rely`
    * `Watched.Rely`, `Watched.Drift`
    * `Sees`, `Sees.readReg`, `Sees.writeReg`
    * `sees_isr`
-/

------------------------------------------------------------
-- Sights
------------------------------------------------------------

namespace KszDriver

/- The part of the watched state that assertions are about. -/
structure Sight where
  isr : UWORD
  nest : Nat
  watch : Watch

def Watched.sight (t : Watched) : Sight where
  isr := t.host.reg regIsr
  nest := t.host.nic.nest
  watch := t.watch

namespace Sight

/-
  What is due was due before and is still pending if it was,
  or it has become pending since.  No bit that is doomed
  becomes pending.
-/
structure Rely (w w' : Sight) : Prop where
  nest : w'.nest = w.nest
  watch : w'.watch = { w.watch with due := w'.watch.due }
  due : ∀ bit : StatusBit, bit.In w'.watch.due →
    (bit.In w.watch.due ∧ (bit.In w.isr → bit.In w'.isr)) ∨
      (bit.In w'.isr ∧ ¬ bit.In w.watch.doomed)
  fresh : ∀ bit : StatusBit, bit.In w'.isr →
    bit.In w.isr ∨ ¬ bit.In w.watch.doomed

theorem Rely.refl (w : Sight) : w.Rely w where
  nest := rfl
  watch := rfl
  due := fun _ hSet => Or.inl ⟨hSet, id⟩
  fresh := fun _ hSet => Or.inl hSet

section Fields

variable {w w' : Sight}

theorem Rely.status (hRely : w.Rely w') :
    w'.watch.status = w.watch.status := by
  rw [hRely.watch]

theorem Rely.cleared (hRely : w.Rely w') :
    w'.watch.cleared = w.watch.cleared := by
  rw [hRely.watch]

theorem Rely.owed (hRely : w.Rely w') :
    w'.watch.owed = w.watch.owed := by
  rw [hRely.watch]

theorem Rely.doomed (hRely : w.Rely w') :
    w'.watch.doomed = w.watch.doomed := by
  rw [hRely.watch]

end Fields

theorem Rely.trans
    {w₁ w₂ w₃ : Sight}
    (hFirst : w₁.Rely w₂)
    (hSecond : w₂.Rely w₃) :
    w₁.Rely w₃ where
  nest := hSecond.nest.trans hFirst.nest
  watch := by
    rw [hSecond.watch, hFirst.watch]
  due := by
    intro bit hSet
    rcases hSecond.due bit hSet with ⟨hMiddle, hKept⟩ | hNew
    · rcases hFirst.due bit hMiddle with
        ⟨hOld, hKept'⟩ | ⟨hPending, hSpared⟩
      · exact Or.inl ⟨hOld, fun hSet' => hKept (hKept' hSet')⟩
      · exact Or.inr ⟨hKept hPending, hSpared⟩
    · rw [hFirst.doomed] at hNew
      exact Or.inr hNew
  fresh := by
    intro bit hSet
    rcases hSecond.fresh bit hSet with hMiddle | hNew
    · exact hFirst.fresh bit hMiddle
    · rw [hFirst.doomed] at hNew
      exact Or.inr hNew

/- The sight after register `a` has been read.  Reads of the
   server are not watched. -/
def read (byTask : Bool) (a : UBYTE) (w : Sight) : Sight :=
  if byTask then
    if a = regIsr then
      { w with watch := w.watch.readIsr w.isr }
    else if a = regP1sr then
      { w with watch := w.watch.serviced isrLcis }
    else if a = regRxfctr then
      { w with watch := w.watch.serviced isrRxis }
    else w
  else w

/- The sight after `v` has been written to register `a`. -/
def write
    (byTask : Bool) (a : UBYTE) (v : UWORD) (w : Sight) :
    Sight :=
  if a = regIsr then
    { w with
      isr := w.isr &&& ~~~v
      watch :=
        if byTask then w.watch.wroteIsr v w.isr
        else w.watch.yielded v }
  else w

theorem nest_read
    (byTask : Bool) (a : UBYTE) (w : Sight) :
    (w.read byTask a).nest = w.nest := by
  unfold read
  split_ifs <;> rfl

theorem nest_write
    (byTask : Bool) (a : UBYTE) (v : UWORD) (w : Sight) :
    (w.write byTask a v).nest = w.nest := by
  unfold write
  split <;> rfl

/- Most registers do not concern the watch. -/
theorem read_of_ne
    {byTask : Bool}
    {a : UBYTE}
    (hIsr : a ≠ regIsr)
    (hP1sr : a ≠ regP1sr)
    (hRxfctr : a ≠ regRxfctr)
    (w : Sight) :
    w.read byTask a = w := by
  unfold read
  rw [if_neg hIsr, if_neg hP1sr, if_neg hRxfctr, ite_self]

theorem read_false (a : UBYTE) (w : Sight) :
    w.read false a = w := by
  unfold read
  exact if_neg Bool.false_ne_true

theorem write_of_ne
    {byTask : Bool}
    {a : UBYTE}
    (hIsr : a ≠ regIsr)
    (v : UWORD)
    (w : Sight) :
    w.write byTask a v = w := by
  unfold write
  rw [if_neg hIsr]

end Sight

------------------------------------------------------------
-- Interference
------------------------------------------------------------

namespace Watched

/-
  Interference by hardware and interrupt server.  Under
  Disable the server does not run and the register selection
  stays as it is.
-/
structure Rely (t t' : Watched) : Prop where
  latch : 0 < t.host.nic.nest → t'.host.latch = t.host.latch
  sight : t.sight.Rely t'.sight

/- Interference by the hardware alone. -/
structure Drift (t t' : Watched) : Prop where
  latch : t'.host.latch = t.host.latch
  sight : t.sight.Rely t'.sight

theorem Rely.refl (t : Watched) : Rely t t where
  latch := fun _ => rfl
  sight := Sight.Rely.refl t.sight

theorem Rely.trans
    (t₁ t₂ t₃ : Watched)
    (hFirst : Rely t₁ t₂)
    (hSecond : Rely t₂ t₃) :
    Rely t₁ t₃ where
  latch := by
    intro hNest
    have hNest' : t₂.host.nic.nest = t₁.host.nic.nest :=
      hFirst.sight.nest
    rw [hSecond.latch (by rw [hNest']; exact hNest),
      hFirst.latch hNest]
  sight := hFirst.sight.trans hSecond.sight

theorem Drift.refl (t : Watched) : Drift t t where
  latch := rfl
  sight := Sight.Rely.refl t.sight

theorem Drift.trans
    (t₁ t₂ t₃ : Watched)
    (hFirst : Drift t₁ t₂)
    (hSecond : Drift t₂ t₃) :
    Drift t₁ t₃ where
  latch := hSecond.latch.trans hFirst.latch
  sight := hFirst.sight.trans hSecond.sight

theorem Drift.rely
    {t t' : Watched}
    (hDrift : Drift t t') :
    Rely t t' where
  latch := fun _ => hDrift.latch
  sight := hDrift.sight

/- New events are drift, while none of their bits is
   doomed. -/
theorem drift_disturb
    (bits : UWORD)
    (values : UBYTE → UWORD)
    (t : Watched)
    (hSpared : ∀ bit : StatusBit,
      bit.In bits → ¬ bit.In t.watch.doomed) :
    Drift t
      { host := t.host.disturb bits values
        watch := t.watch.noticed bits } where
  latch := rfl
  sight :=
    { nest := rfl
      watch := rfl
      due := by
        intro bit hSet
        rcases (bit.in_or_iff _ _).mp hSet with hOld | hNew
        · exact Or.inl ⟨hOld, fun hPending =>
            (bit.in_or_iff _ _).mpr (Or.inl hPending)⟩
        · exact Or.inr ⟨(bit.in_or_iff _ _).mpr (Or.inr hNew),
            hSpared bit hNew⟩
      fresh := by
        intro bit hSet
        rcases (bit.in_or_iff _ _).mp hSet with hOld | hNew
        · exact Or.inl hOld
        · exact Or.inr (hSpared bit hNew) }

end Watched

------------------------------------------------------------
-- Operations on Sights
------------------------------------------------------------

variable {byTask : Bool}

/- The operations that leave the sight as it is. -/
def NicOp.Blind : NicOp → Prop
| .dataReg _ | .readDataReg | .disable | .enable
| .setInterface _ => False
| _ => True

theorem sight_exec_of_blind
    (op : NicOp)
    (hBlind : op.Blind)
    (t : Watched) :
    (t.exec byTask op).2.sight = t.sight := by
  have hWatch :
      (t.exec byTask op).2.watch = t.watch := by
    cases op with
    | dataReg | readDataReg | disable | enable
    | setInterface => exact hBlind.elim
    | _ => exact ite_self _
  unfold Watched.sight
  rw [hWatch]
  cases op with
  | dataReg | readDataReg | disable | enable
  | setInterface => exact hBlind.elim
  | _ => rfl

/- So does storing a field other than the overrun counter. -/
theorem sight_exec_setInterface
    {f : NetInterface → NetInterface}
    (hSame : ∀ iface, (f iface).rxOverrun = iface.rxOverrun)
    (t : Watched) :
    (t.exec byTask (.setInterface f)).2.sight = t.sight := by
  have hWatch :
      (t.exec byTask (.setInterface f)).2.watch = t.watch := by
    cases byTask with
    | false => rfl
    | true => exact if_pos (hSame _)
  unfold Watched.sight
  rw [hWatch]
  rfl

/- Counting an overrun services it. -/
theorem sight_exec_countOverrun
    {f : NetInterface → NetInterface}
    (hCounts :
      ∀ iface, (f iface).rxOverrun ≠ iface.rxOverrun)
    (t : Watched) :
    (t.exec true (.setInterface f)).2.sight =
      { t.sight with
        watch :=
          { t.watch.serviced isrRxois with
            doomed := isrRxois } } := by
  have hWatch :
      t.watch.after (.setInterface f) t.host =
        { t.watch.serviced isrRxois with
          doomed := isrRxois } := by
    unfold Watch.after
    exact if_neg (hCounts _)
  unfold Watched.sight Watched.exec
  rw [if_pos rfl, hWatch]
  rfl

theorem sight_exec_disable (t : Watched) :
    (t.exec byTask .disable).2.sight =
      { t.sight with nest := t.sight.nest + 1 } := by
  cases byTask <;> rfl

theorem sight_exec_enable (t : Watched) :
    (t.exec byTask .enable).2.sight =
      { t.sight with nest := t.sight.nest - 1 } := by
  cases byTask <;> rfl

/- An armed access goes to one register only. -/
theorem Host.Accesses.iff_eq
    {h : Host}
    {a : UBYTE}
    (hAccesses : h.Accesses a)
    (b : UBYTE) :
    h.Accesses b ↔ a = b := by
  constructor
  · rintro ⟨-, hSelected⟩
    exact hAccesses.2.symm.trans hSelected
  · rintro rfl
    exact hAccesses

theorem sight_exec_readDataReg
    {t : Watched}
    {a : UBYTE}
    (hAccesses : t.host.Accesses a) :
    (t.exec byTask .readDataReg).2.sight =
      t.sight.read byTask a := by
  have hView :=
    @view_exec_of_quiet byTask .readDataReg trivial t.host
  have hIsr := congrArg View.isr hView
  have hNest := congrArg View.nest hView
  have hWatch :
      (t.exec byTask .readDataReg).2.watch =
        (t.sight.read byTask a).watch := by
    cases byTask with
    | false => rfl
    | true =>
        unfold Sight.read
        simp only [Watched.exec, if_true, Watch.after,
          hAccesses.iff_eq]
        split_ifs <;> rfl
  have hSame :
      (t.sight.read byTask a).isr = t.sight.isr ∧
        (t.sight.read byTask a).nest = t.sight.nest := by
    unfold Sight.read
    split_ifs <;> exact ⟨rfl, rfl⟩
  calc (t.exec byTask .readDataReg).2.sight
      = ⟨t.sight.isr, t.sight.nest,
          (t.exec byTask .readDataReg).2.watch⟩ :=
        congrArg₂
          (fun i n => Sight.mk i n
            (t.exec byTask .readDataReg).2.watch)
          hIsr hNest
    _ = t.sight.read byTask a := by
        rw [hWatch, ← hSame.1, ← hSame.2]

/- A data port that is not armed leads to no register. -/
theorem sight_exec_readDataReg_of_disarmed
    {t : Watched}
    (hDisarmed : t.host.nic.chip.armed = false) :
    (t.exec byTask .readDataReg).2.sight = t.sight := by
  have hNone : ∀ a, ¬ t.host.Accesses a := by
    rintro a ⟨hArmed, -⟩
    rw [hDisarmed] at hArmed
    exact Bool.false_ne_true hArmed
  have hView :=
    @view_exec_of_quiet byTask .readDataReg trivial t.host
  have hWatch :
      (t.exec byTask .readDataReg).2.watch = t.watch := by
    cases byTask with
    | false => rfl
    | true =>
        simp only [Watched.exec, Watch.after, hNone, if_false,
          if_true]
  unfold Watched.sight
  rw [hWatch]
  exact congrArg₂ (fun i n => Sight.mk i n t.watch)
    (congrArg View.isr hView) (congrArg View.nest hView)

theorem sight_exec_dataReg
    {t : Watched}
    {a : UBYTE}
    (hAccesses : t.host.Accesses a)
    (v : UWORD) :
    (t.exec byTask (.dataReg v)).2.sight =
      t.sight.write byTask a v := by
  have hView := @view_exec_dataReg byTask _ _ hAccesses v
  have hWatch :
      (t.exec byTask (.dataReg v)).2.watch =
        if byTask then
          if a = regIsr then
            t.watch.wroteIsr v (t.host.reg regIsr)
          else t.watch
        else
          if a = regIsr then t.watch.yielded v
          else t.watch := by
    simp only [Watched.exec, Watch.after, Watch.afterServer,
      hAccesses.iff_eq]
  have hShown :
      ∀ w w' : View, w = w' → ∀ watch : Watch,
        Sight.mk w.isr w.nest watch =
          Sight.mk w'.isr w'.nest watch := by
    rintro w _ rfl watch
    rfl
  calc (t.exec byTask (.dataReg v)).2.sight
      = ⟨(t.host.view.write byTask a v).isr,
          (t.host.view.write byTask a v).nest,
          (t.exec byTask (.dataReg v)).2.watch⟩ :=
        hShown _ _ hView _
    _ = t.sight.write byTask a v := by
        rw [hWatch]
        unfold Sight.write View.write
        by_cases hIsr : a = regIsr
        · simp only [if_pos hIsr]
          rfl
        · simp only [if_neg hIsr, ite_self]
          split_ifs <;> rfl

/- Every access to the data port disarms it. -/
theorem disarmed_exec_dataReg
    (v : UWORD) (t : Watched) :
    (t.exec byTask (.dataReg v)).2.host.nic.chip.armed =
      false := by
  show (t.host.nic.chip.writeData v).armed = false
  unfold Chip.writeData
  by_cases hArmed : t.host.nic.chip.armed = true
  · rw [if_pos hArmed]
  · rw [if_neg hArmed]
    have hDisarmed := Bool.eq_false_of_not_eq_true hArmed
    split_ifs <;> exact hDisarmed

theorem disarmed_exec_readDataReg (t : Watched) :
    (t.exec byTask .readDataReg).2.host.nic.chip.armed =
      false := by
  show t.host.nic.chip.readData.2.armed = false
  unfold Chip.readData
  by_cases hArmed : t.host.nic.chip.armed = true
  · rw [if_pos hArmed]
  · rw [if_neg hArmed]
    have hDisarmed := Bool.eq_false_of_not_eq_true hArmed
    split_ifs <;> exact hDisarmed

------------------------------------------------------------
-- Rules
------------------------------------------------------------

namespace Sight

/- Interference along `R` cannot make `P` false. -/
def Steady
    (R : Watched → Watched → Prop)
    (P : Sight → Prop) : Prop :=
  Program.Stable R (fun t => P t.sight)

/- While `P` holds, interference keeps the latch as well. -/
structure Locked
    (R : Watched → Watched → Prop)
    (P : Sight → Prop) : Prop where
  steady : Steady R P
  latch : ∀ t t', R t t' → P t.sight →
    t'.host.latch = t.host.latch

end Sight

/- Preconditions and postconditions on sights. -/
def Sees
    {α : Type}
    (byTask : Bool)
    (R : Watched → Watched → Prop)
    (A : NicOp → Watched → Prop)
    (P : Sight → Prop)
    (p : NicM α)
    (Q : α → Sight → Prop) : Prop :=
  Program.Triple (Watched.exec byTask) R A
    (fun t => P t.sight) p (fun r t => Q r t.sight)

namespace Sees

variable {α β : Type}
variable {R : Watched → Watched → Prop}
variable {A : NicOp → Watched → Prop}
variable {P : Sight → Prop}

theorem bind
    {Q : α → Sight → Prop}
    {Q' : β → Sight → Prop}
    {p : NicM α}
    {f : α → NicM β}
    (hRefl : ∀ t, R t t)
    (hFirst : Sees byTask R A P p Q)
    (hRest : ∀ a, Sees byTask R A (Q a) (f a) Q') :
    Sees byTask R A P (p >>= f) Q' :=
  Program.Triple.bind hRefl hFirst hRest

theorem pure
    {Q : α → Sight → Prop}
    (value : α)
    (hSteady : Sight.Steady R (Q value))
    (hImp : ∀ w, P w → Q value w) :
    Sees byTask R A P (pure value) Q :=
  Program.Triple.pure value hSteady (fun t => hImp t.sight)

theorem ite
    {c : Prop} [Decidable c]
    {Q : α → Sight → Prop}
    {p q : NicM α}
    (hThen : c → Sees byTask R A P p Q)
    (hElse : ¬ c → Sees byTask R A P q Q) :
    Sees byTask R A P (if c then p else q) Q :=
  Program.Triple.ite hThen hElse

theorem onlyIf
    {c : Prop} [Decidable c]
    {p : NicM Unit}
    (hSteady : Sight.Steady R P)
    (hProgram : c → Sees byTask R A P p (fun _ => P)) :
    Sees byTask R A P (Program.onlyIf c p) (fun _ => P) :=
  Program.Triple.onlyIf hSteady hProgram

/- One operation, with assertions on the whole state. -/
theorem performWhole
    (op : NicOp)
    {I : Watched → Prop}
    {Q : op.Ret → Watched → Prop}
    (hPre : Program.Stable R I)
    (hPost : ∀ r, Program.Stable R (Q r))
    (hOp :
      ∀ t, I t → A op t →
        Q (t.exec byTask op).1 (t.exec byTask op).2) :
    Program.Triple (Watched.exec byTask) R A I
      (Program.perform op) Q :=
  Program.Triple.perform op hPre hPost hOp

/- One operation, from a steady assertion to another. -/
theorem perform
    (op : NicOp)
    {Q : op.Ret → Sight → Prop}
    (hPre : Sight.Steady R P)
    (hPost : ∀ r, Sight.Steady R (Q r))
    (hOp :
      ∀ t, P t.sight → A op t →
        Q (t.exec byTask op).1 (t.exec byTask op).2.sight) :
    Sees byTask R A P (Program.perform op) Q :=
  performWhole op hPre hPost hOp

/- An operation that the sight does not show. -/
theorem blind
    (op : NicOp)
    (hBlind : op.Blind)
    (hSteady : Sight.Steady R P) :
    Sees byTask R A P (Program.perform op) (fun _ => P) := by
  apply perform op hSteady (fun _ => hSteady)
  intro t hState _
  rwa [sight_exec_of_blind op hBlind]

theorem setInterface
    {f : NetInterface → NetInterface}
    (hSame : ∀ iface, (f iface).rxOverrun = iface.rxOverrun)
    (hSteady : Sight.Steady R P) :
    Sees byTask R A P (setInterface f) (fun _ => P) := by
  apply perform (.setInterface f) hSteady (fun _ => hSteady)
  intro t hState _
  rwa [sight_exec_setInterface hSame]

/- An access is as stable as the latch. -/
theorem stable_accesses
    (a : UBYTE)
    (hLocked : Sight.Locked R P) :
    Program.Stable R
      (fun t => P t.sight ∧ t.host.Accesses a) := by
  intro t t' hStep hState
  exact ⟨hLocked.steady t t' hStep hState.1,
    hState.2.of_latch (hLocked.latch t t' hStep hState.1)⟩

/- A register access, up to the data-port access itself. -/
theorem access
    {Q : β → Watched → Prop}
    (a : UBYTE)
    {p : NicM β}
    (hRefl : ∀ t, R t t)
    (hLocked : Sight.Locked R P)
    (hAccess :
      Program.Triple (Watched.exec byTask) R A
        (fun t => P t.sight ∧ t.host.Accesses a) p Q) :
    Program.Triple (Watched.exec byTask) R A
      (fun t => P t.sight)
      (do
        let context ← getInterface
        cmdReg (cmdWord context.isInBigEndianMode a)
        p) Q := by
  apply Program.Triple.bind hRefl
    (blind .getInterface trivial hLocked.steady)
  intro context
  apply Program.Triple.bind hRefl _ (fun _ => hAccess)
  apply performWhole (.cmdReg _)
    hLocked.steady (fun _ => stable_accesses a hLocked)
  intro t hState _
  refine ⟨?_, accesses_exec_cmdReg _ a t.host⟩
  rwa [sight_exec_of_blind (.cmdReg _) trivial]

/- Reading a register. -/
theorem readReg
    {Q : UWORD → Sight → Prop}
    (a : UBYTE)
    (hRefl : ∀ t, R t t)
    (hLocked : Sight.Locked R P)
    (hSteady : ∀ v, Sight.Steady R (Q v))
    (hRead :
      ∀ t, P t.sight → t.host.Accesses a →
        A .readDataReg t →
          Q (t.host.reg a) (t.sight.read byTask a)) :
    Sees byTask R A P (ksz8851ReadReg a) Q := by
  apply access a hRefl hLocked
  apply performWhole .readDataReg
    (stable_accesses a hLocked) hSteady
  intro t hState hMeets
  have hValue :
      (t.exec byTask .readDataReg).1 = t.host.reg a :=
    @exec_readDataReg_fst byTask _ _ hState.2
  rw [hValue, sight_exec_readDataReg hState.2]
  exact hRead t hState.1 hState.2 hMeets

/- Writing a register. -/
theorem writeReg
    {Q : Sight → Prop}
    (a : UBYTE)
    (v : UWORD)
    (hRefl : ∀ t, R t t)
    (hLocked : Sight.Locked R P)
    (hSteady : Sight.Steady R Q)
    (hWrite :
      ∀ t, P t.sight → t.host.Accesses a →
        A (.dataReg v) t → Q (t.sight.write byTask a v)) :
    Sees byTask R A P (ksz8851WriteReg a v)
      (fun _ => Q) := by
  apply access a hRefl hLocked
  apply performWhole (.dataReg v)
    (stable_accesses a hLocked) (fun _ => hSteady)
  intro t hState hMeets
  rw [sight_exec_dataReg hState.2]
  exact hWrite t hState.1 hState.2 hMeets

------------------------------------------------------------
-- Accesses That the Sight Does Not Show
------------------------------------------------------------

/- A register whose reading services no source. -/
structure Plain (a : UBYTE) : Prop where
  isr : a ≠ regIsr
  p1sr : a ≠ regP1sr
  rxfctr : a ≠ regRxfctr

instance (a : UBYTE) : Decidable (Plain a) :=
  decidable_of_iff
    (a ≠ regIsr ∧ a ≠ regP1sr ∧ a ≠ regRxfctr)
    ⟨fun ⟨hIsr, hP1sr, hRxfctr⟩ => ⟨hIsr, hP1sr, hRxfctr⟩,
      fun hPlain =>
        ⟨hPlain.isr, hPlain.p1sr, hPlain.rxfctr⟩⟩

/- Reading a plain register keeps what holds of the sight. -/
theorem readReg_plain
    {a : UBYTE}
    (hPlain : Plain a)
    (hRefl : ∀ t, R t t)
    (hLocked : Sight.Locked R P) :
    Sees byTask R A P (ksz8851ReadReg a) (fun _ => P) := by
  apply readReg a hRefl hLocked (fun _ => hLocked.steady)
  intro t hState _ _
  rwa [Sight.read_of_ne hPlain.isr hPlain.p1sr
    hPlain.rxfctr]

/- The data port is not armed. -/
def Disarmed (t : Watched) : Prop :=
  t.host.nic.chip.armed = false

theorem stable_disarmed (hLocked : Sight.Locked R P) :
    Program.Stable R (fun t => P t.sight ∧ Disarmed t) := by
  intro t t' hStep hState
  have hLatch := hLocked.latch t t' hStep hState.1
  exact ⟨hLocked.steady t t' hStep hState.1,
    (congrArg Prod.snd hLatch).trans hState.2⟩

/- So does writing one, which moreover disarms the port. -/
theorem writeReg_disarms
    {a : UBYTE}
    (hPlain : Plain a)
    (v : UWORD)
    (hRefl : ∀ t, R t t)
    (hLocked : Sight.Locked R P) :
    Program.Triple (Watched.exec byTask) R A
      (fun t => P t.sight) (ksz8851WriteReg a v)
      (fun _ t => P t.sight ∧ Disarmed t) := by
  apply access a hRefl hLocked
  apply performWhole (.dataReg v)
    (stable_accesses a hLocked)
    (fun _ => stable_disarmed hLocked)
  intro t hState _
  refine ⟨?_, disarmed_exec_dataReg v t⟩
  rw [sight_exec_dataReg hState.2,
    Sight.write_of_ne hPlain.isr]
  exact hState.1

theorem writeReg_plain
    {a : UBYTE}
    (hPlain : Plain a)
    (v : UWORD)
    (hRefl : ∀ t, R t t)
    (hLocked : Sight.Locked R P) :
    Sees byTask R A P (ksz8851WriteReg a v)
      (fun _ => P) :=
  Program.Triple.conseq
    (writeReg_disarms hPlain v hRefl hLocked)
    (fun _ hState => hState) (fun _ _ hState => hState.1)

theorem setBit_disarms
    {a : UBYTE}
    (hPlain : Plain a)
    (mask : UWORD)
    (hRefl : ∀ t, R t t)
    (hLocked : Sight.Locked R P) :
    Program.Triple (Watched.exec byTask) R A
      (fun t => P t.sight) (ksz8851SetBit a mask)
      (fun _ t => P t.sight ∧ Disarmed t) :=
  Program.Triple.bind hRefl
    (readReg_plain hPlain hRefl hLocked)
    (fun _ => writeReg_disarms hPlain _ hRefl hLocked)

theorem setBit_plain
    {a : UBYTE}
    (hPlain : Plain a)
    (mask : UWORD)
    (hRefl : ∀ t, R t t)
    (hLocked : Sight.Locked R P) :
    Sees byTask R A P (ksz8851SetBit a mask)
      (fun _ => P) :=
  bind hRefl (readReg_plain hPlain hRefl hLocked)
    (fun _ => writeReg_plain hPlain _ hRefl hLocked)

theorem clearBit_plain
    {a : UBYTE}
    (hPlain : Plain a)
    (mask : UWORD)
    (hRefl : ∀ t, R t t)
    (hLocked : Sight.Locked R P) :
    Sees byTask R A P (ksz8851ClearBit a mask)
      (fun _ => P) :=
  bind hRefl (readReg_plain hPlain hRefl hLocked)
    (fun _ => writeReg_plain hPlain _ hRefl hLocked)

/- Bare reads of the packet queue. -/
theorem readDataReg_disarmed
    (hLocked : Sight.Locked R P) :
    Program.Triple (Watched.exec byTask) R A
      (fun t => P t.sight ∧ Disarmed t) readDataReg
      (fun _ t => P t.sight ∧ Disarmed t) := by
  apply performWhole .readDataReg (stable_disarmed hLocked)
    (fun _ => stable_disarmed hLocked)
  intro t hState _
  refine ⟨?_, disarmed_exec_readDataReg t⟩
  rw [sight_exec_readDataReg_of_disarmed hState.2]
  exact hState.1

theorem readWords_disarmed
    (isInBigEndianMode : Bool)
    (hRefl : ∀ t, R t t)
    (hLocked : Sight.Locked R P)
    (sizeInWord i : Nat)
    (data : Memory) :
    Program.Triple (Watched.exec byTask) R A
      (fun t => P t.sight ∧ Disarmed t)
      (readWords isInBigEndianMode sizeInWord i data)
      (fun _ t => P t.sight ∧ Disarmed t) := by
  induction sizeInWord generalizing i data with
  | zero =>
      exact Program.Triple.pure data (stable_disarmed hLocked)
        (fun _ hState => hState)
  | succ sizeInWord ih =>
      apply Program.Triple.bind hRefl
        (readDataReg_disarmed hLocked)
      intro value
      exact ih _ _

theorem readFifo_disarmed
    (length : Nat)
    (hRefl : ∀ t, R t t)
    (hLocked : Sight.Locked R P) :
    Program.Triple (Watched.exec byTask) R A
      (fun t => P t.sight ∧ Disarmed t)
      (ksz8851ReadFifo length)
      (fun _ t => P t.sight) := by
  have hGet :
      Program.Triple (Watched.exec byTask) R A
        (fun t => P t.sight ∧ Disarmed t) getInterface
        (fun _ t => P t.sight ∧ Disarmed t) := by
    apply performWhole .getInterface
      (stable_disarmed hLocked)
      (fun _ => stable_disarmed hLocked)
    intro t hState _
    refine ⟨?_, hState.2⟩
    rw [sight_exec_of_blind .getInterface trivial]
    exact hState.1
  apply Program.Triple.bind hRefl hGet
  intro context
  apply Program.Triple.bind hRefl
    (readWords_disarmed _ hRefl hLocked _ _ _)
  intro data
  exact Program.Triple.conseq
    (setInterface (fun _ => rfl) hLocked.steady)
    (fun _ hState => hState.1) (fun _ _ hState => hState)

theorem notifyLinkChange_blind
    (hRefl : ∀ t, R t t)
    (hSteady : Sight.Steady R P) :
    Sees byTask R A P notifyLinkChange (fun _ => P) := by
  apply bind hRefl (blind .getInterface trivial hSteady)
  intro interface
  exact onlyIf hSteady
    (fun _ => blind .linkChangeFunction trivial hSteady)

end Sees

------------------------------------------------------------
-- The Interrupt Server
------------------------------------------------------------

/- The server acknowledges nothing but transmissions, which
   it has serviced then. -/
theorem Sight.Rely.ackTransmit
    {w₀ w : Sight}
    (hState : w₀.Rely w) :
    w₀.Rely (w.write false regIsr isrTxis) where
  nest := hState.nest
  watch := by
    show w.watch.yielded isrTxis = _
    unfold Watch.yielded
    rw [hState.watch]
    rfl
  due := by
    intro bit hSet
    have hDue : bit.In w.watch.due ∧ ¬ bit.In isrTxis :=
      (bit.in_and_not_iff _ _).mp hSet
    have hKept : bit.In w.isr →
        bit.In (w.write false regIsr isrTxis).isr :=
      fun hPending =>
        (bit.in_and_not_iff _ _).mpr ⟨hPending, hDue.2⟩
    rcases hState.due bit hDue.1 with ⟨hOld, hStays⟩ | hNew
    · exact Or.inl
        ⟨hOld, fun hPending => hKept (hStays hPending)⟩
    · exact Or.inr ⟨hKept hNew.1, hNew.2⟩
  fresh := fun bit hSet =>
    hState.fresh bit ((bit.in_and_not_iff _ _).mp hSet).1

theorem locked_relyFrom (w₀ : Sight) :
    Sight.Locked Watched.Drift (fun w => w₀.Rely w) where
  steady := fun _ _ hStep hState => hState.trans hStep.sight
  latch := fun _ _ hStep _ => hStep.latch

/- A run of the server is interference that the watch does
   not mind. -/
theorem sees_isr (w₀ : Sight) :
    Sees false Watched.Drift (fun _ _ => True)
      (fun w => w₀.Rely w) isr (fun _ w => w₀.Rely w) := by
  have hLocked := locked_relyFrom w₀
  have hSteady := hLocked.steady
  have hRead (a : UBYTE) :
      Sees false Watched.Drift (fun _ _ => True)
        (fun w => w₀.Rely w) (ksz8851ReadReg a)
        (fun _ w => w₀.Rely w) := by
    apply Sees.readReg a Watched.Drift.refl hLocked
      (fun _ => hSteady)
    intro t hState _ _
    rwa [Sight.read_false]
  have hHandler :
      Sees false Watched.Drift (fun _ _ => True)
        (fun w => w₀.Rely w) ksz8851IrqHandler
        (fun _ w => w₀.Rely w) := by
    unfold ksz8851IrqHandler
    apply Sees.bind Watched.Drift.refl (hRead regIsr)
    intro isr
    apply Sees.bind Watched.Drift.refl (hRead regIer)
    intro ier
    apply Sees.ite
    · intro _
      exact Sees.pure false hSteady (fun _ hState => hState)
    · intro _
      apply Sees.bind Watched.Drift.refl
        (Sees.writeReg_plain (by decide) _
          Watched.Drift.refl hLocked)
      intro _
      apply Sees.bind Watched.Drift.refl
      · apply Sees.onlyIf hSteady
        intro _
        exact Sees.writeReg regIsr isrTxis
          Watched.Drift.refl hLocked hSteady
          (fun _ hState _ _ => hState.ackTransmit)
      intro _
      apply Sees.bind Watched.Drift.refl
      · apply Sees.onlyIf hSteady
        intro _
        exact Sees.setBit_plain (by decide) _
          Watched.Drift.refl hLocked
      intro _
      apply Sees.bind Watched.Drift.refl
        (Sees.writeReg_plain (by decide) _
          Watched.Drift.refl hLocked)
      intro _
      exact Sees.pure _ hSteady (fun _ hState => hState)
  unfold isr
  apply Sees.bind Watched.Drift.refl
    (Sees.blind .getInterface trivial hSteady)
  intro context
  apply Sees.ite
  · intro _
    exact Sees.pure _ hSteady (fun _ hState => hState)
  · intro _
    apply Sees.bind Watched.Drift.refl hHandler
    intro handled
    apply Sees.ite
    · intro _
      apply Sees.bind Watched.Drift.refl
        (Sees.blind .signal trivial hSteady)
      intro _
      refine Sees.bind Watched.Drift.refl
        (Sees.setInterface (fun _ => rfl) hSteady)
        (fun _ => ?_)
      exact Sees.pure _ hSteady (fun _ hState => hState)
    · intro _
      exact Sees.pure _ hSteady (fun _ hState => hState)

end KszDriver
