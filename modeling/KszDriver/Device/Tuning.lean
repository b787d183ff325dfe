import KszDriver.Core.Recording
import KszDriver.Device.WorkingOnline

/-
  What the unit process listens to.  The low level driver has
  a signal while its interrupt server is linked, and the unit
  keeps the number of the signal.  Only going online links
  the server, and only going offline unlinks it.

  Main declarations:
    * `Tuning`, `Tuning.Turns`
    * `rests_isr`
    * `turns_performIo`
-/

------------------------------------------------------------
-- Tunings
------------------------------------------------------------

namespace KszDriver

open Driver

/-
  Whether the server is linked, the number of its signal, the
  number that the unit has for it, and the number of the next
  signal that can be allocated.
-/
structure Tuning where
  linked : Bool
  sigNumber : Int
  signalNumber : Int
  freeSignal : Int

def Wire.tuning (w : Wire) : Tuning where
  linked := w.nic.iface.signalTask
  sigNumber := w.nic.iface.sigNumber
  signalNumber := w.signalNumber
  freeSignal := w.nic.freeSignal

def Driver.tuning (s : Driver) : Tuning :=
  s.wire.tuning

/- What a command may do to the tuning. -/
structure Tuning.Turns (t t' : Tuning) : Prop where
  freeSignal : t'.freeSignal = t.freeSignal
  stays : t.linked = true → t'.linked = true → t' = t
  links : t.linked = false → t'.linked = true →
    t'.sigNumber = t.freeSignal ∧
      t'.signalNumber = t.freeSignal ∧ t.freeSignal ≠ -1

/- The unit has the number of the signal that is in use. -/
def Tuning.Tuned (t : Tuning) : Prop :=
  t.linked = true → t.signalNumber = t.sigNumber

theorem Tuning.Turns.refl (t : Tuning) : t.Turns t where
  freeSignal := rfl
  stays := fun _ _ => rfl
  links := by
    intro hNot hLinked
    rw [hNot] at hLinked
    cases hLinked

theorem Tuning.Turns.tuned
    {t t' : Tuning}
    (hTurns : t.Turns t')
    (hTuned : t.Tuned) :
    t'.Tuned := by
  intro hLinked
  cases hBefore : t.linked with
  | true =>
      rw [hTurns.stays hBefore hLinked]
      exact hTuned hBefore
  | false =>
      have hLinks := hTurns.links hBefore hLinked
      rw [hLinks.1, hLinks.2.1]

------------------------------------------------------------
-- Programs
------------------------------------------------------------

/- No program changes what `AllocSignal` will answer. -/
theorem freeSignal_runOn
    {α : Type}
    (p : NicM α)
    (n : NicState) :
    (p.runOn n).2.freeSignal = n.freeSignal := by
  induction p generalizing n with
  | done value => rfl
  | step op next ih =>
      have hStep :
          (NicOp.exec op n).2.freeSignal = n.freeSignal := by
        cases op <;> rfl
      exact (ih _ _).trans hStep

theorem freeSignal_run
    (c : LowLevelCall) (n : NicState) :
    (c.run n).freeSignal = n.freeSignal :=
  freeSignal_runOn c.program n

/- The number that the server is linked with was allocated. -/
theorem sigNumber_installInterruptHandler
    {n : NicState}
    (hNot : n.iface.signalTask = false)
    (hLinked :
      (installInterruptHandler.runOn n).2.iface.signalTask =
        true) :
    (installInterruptHandler.runOn n).2.iface.sigNumber =
        n.freeSignal ∧
      n.freeSignal ≠ -1 := by
  have hRun :
      installInterruptHandler.runOn n =
        if n.freeSignal = -1 then
          (false,
            { n with
              iface :=
                { n.iface with
                  signalTask := false
                  sigNumber := n.freeSignal } })
        else
          (true,
            { n with
              iface :=
                { n.iface with
                  signalTask := true
                  sigNumber := n.freeSignal }
              servers := n.servers + 1 }) := by
    unfold installInterruptHandler NicM.runOn getInterface
    rw [Program.run_bind, Program.run_perform]
    have hIface :
        (NicOp.exec .getInterface n).1.signalTask = false :=
      hNot
    rw [if_neg (by rw [hIface]; exact Bool.false_ne_true)]
    unfold setInterface allocSignal addIntServer
    rw [Program.run_bind, Program.run_bind, Program.run_bind]
    change Program.run NicOp.exec
      (if n.freeSignal = -1 then _ else _) _ = _
    split <;> rfl
  rw [hRun] at hLinked ⊢
  split at hLinked
  · cases hLinked
  · rename_i hSignal
    rw [if_neg hSignal]
    exact ⟨rfl, hSignal⟩

------------------------------------------------------------
-- The Interrupt Server
------------------------------------------------------------

/- The operation keeps the footing. -/
def NicOp.Rests (op : NicOp) : Prop :=
  ∀ n, (NicOp.exec op n).2.footing = n.footing

/- All operations of the program do. -/
def NicM.Rests {α : Type} (p : NicM α) : Prop :=
  Program.Only NicOp.Rests p

theorem NicM.Rests.footing
    {α : Type}
    {p : NicM α}
    (hRests : p.Rests)
    (n : NicState) :
    (p.runOn n).2.footing = n.footing := by
  have hWalks := Program.Only.walks
    (H := fun _ _ => True) (w := n.footing)
    (fun _ _ _ => trivial)
    (fun op s hRests => (hRests s : _)) hRests
  exact hWalks.run

theorem rests_ksz8851ReadReg (offset : UBYTE) :
    NicM.Rests (ksz8851ReadReg offset) :=
  Program.Only.bind
    (Program.Only.perform (fun _ => rfl)) (fun _ =>
      Program.Only.bind
        (Program.Only.perform (fun _ => rfl)) (fun _ =>
          Program.Only.perform (fun _ => rfl)))

theorem rests_ksz8851WriteReg
    (offset : UBYTE) (value : UWORD) :
    NicM.Rests (ksz8851WriteReg offset value) :=
  Program.Only.bind
    (Program.Only.perform (fun _ => rfl)) (fun _ =>
      Program.Only.bind
        (Program.Only.perform (fun _ => rfl)) (fun _ =>
          Program.Only.perform (fun _ => rfl)))

theorem rests_ksz8851SetBit
    (address : UBYTE) (mask : UWORD) :
    NicM.Rests (ksz8851SetBit address mask) :=
  Program.Only.bind (rests_ksz8851ReadReg address) (fun _ =>
    rests_ksz8851WriteReg address _)

theorem rests_ksz8851IrqHandler :
    NicM.Rests ksz8851IrqHandler := by
  have hOnlyIf (c : Prop) [Decidable c] {p : NicM Unit}
      (hRests : p.Rests) :
      NicM.Rests (Program.onlyIf c p) :=
    Program.Only.ite hRests (Program.Only.pure ())
  unfold ksz8851IrqHandler
  refine Program.Only.bind (rests_ksz8851ReadReg _) fun isr => ?_
  refine Program.Only.bind (rests_ksz8851ReadReg _) fun ier => ?_
  refine Program.Only.ite (Program.Only.pure _) ?_
  refine Program.Only.bind (rests_ksz8851WriteReg _ _)
    fun _ => ?_
  refine Program.Only.bind
    (hOnlyIf _ (rests_ksz8851WriteReg _ _)) fun _ => ?_
  refine Program.Only.bind
    (hOnlyIf _ (rests_ksz8851SetBit _ _)) fun _ => ?_
  refine Program.Only.bind (rests_ksz8851WriteReg _ _)
    fun _ => ?_
  exact Program.Only.pure _

/- The server counts its signals and changes nothing else of
   the driver's own state. -/
theorem rests_isr : NicM.Rests isr := by
  unfold isr
  refine Program.Only.bind
    (Program.Only.perform (fun _ => rfl)) fun context => ?_
  refine Program.Only.ite (Program.Only.pure _) ?_
  refine Program.Only.bind rests_ksz8851IrqHandler
    fun handled => ?_
  refine Program.Only.ite ?_ (Program.Only.pure _)
  refine Program.Only.bind
    (Program.Only.perform (fun _ => rfl)) fun _ => ?_
  refine Program.Only.bind
    (Program.Only.perform (fun _ => rfl)) fun _ => ?_
  exact Program.Only.pure _

------------------------------------------------------------
-- Calls
------------------------------------------------------------

/- The call leaves the server as it is. -/
def LowLevelCall.Still : LowLevelCall → Prop
| .online | .offline | .deinit => False
| _ => True

theorem LowLevelCall.Sends.still
    {c : LowLevelCall}
    (hSends : c.Sends) :
    c.Still := by
  cases c with
  | sendPacket _ _ => trivial
  | sendPacketCooked _ _ _ _ _ => trivial
  | _ => exact hSends.elim

theorem signal_run_of_still
    {c : LowLevelCall}
    (hStill : c.Still)
    (n : NicState) :
    (c.run n).iface.signalTask = n.iface.signalTask ∧
      (c.run n).iface.sigNumber = n.iface.sigNumber := by
  have hFooting
      (hSame : (c.run n).footing = n.footing) :
      (c.run n).iface.signalTask = n.iface.signalTask ∧
        (c.run n).iface.sigNumber = n.iface.sigNumber :=
    ⟨congrArg Footing.signalTask hSame,
      congrArg Footing.sigNumber hSame⟩
  cases c with
  | setReceiver => exact ⟨rfl, rfl⟩
  | probe => exact hFooting (footing_run_probe n)
  | init =>
      have hRun : LowLevelCall.init.run n =
          (ksz8851Init.runOn n).2 := runOn_discard ksz8851Init n
      rcases (treads_init (w := n.footing)).run with
        ⟨rxBuffer, hEnd, -⟩
      rw [hRun]
      exact ⟨congrArg Footing.signalTask hEnd,
        congrArg Footing.sigNumber hEnd⟩
  | setNetworkAddress addr =>
      exact hFooting
        (goes_setNetworkAddress (w := n.footing) addr).run
  | sendPacket buffer length =>
      have hSends :
          (LowLevelCall.sendPacket buffer length).Sends :=
        trivial
      exact hFooting (footing_run_of_sends hSends n)
  | sendPacketCooked dst src packetType payload length =>
      have hSends :
          (LowLevelCall.sendPacketCooked dst src packetType
            payload length).Sends := trivial
      exact hFooting (footing_run_of_sends hSends n)
  | online | offline | deinit => exact hStill.elim

theorem tuning_call_of_still
    {c : LowLevelCall}
    (hStill : c.Still)
    (w : Wire) :
    (w.call c).tuning = w.tuning := by
  have hSignal := signal_run_of_still hStill w.nic
  have hNumber : (w.call c).signalNumber = w.signalNumber := by
    cases c with
    | online => exact hStill.elim
    | _ => rfl
  show Tuning.mk (c.run w.nic).iface.signalTask
    (c.run w.nic).iface.sigNumber (w.call c).signalNumber
    (c.run w.nic).freeSignal = _
  rw [hSignal.1, hSignal.2, hNumber, freeSignal_run]
  rfl

theorem tuning_after_of_still
    {cs : List LowLevelCall}
    (hStill : ∀ c ∈ cs, c.Still)
    (w : Wire) :
    (w.after cs).tuning = w.tuning := by
  induction cs generalizing w with
  | nil => rfl
  | cons c cs ih =>
      exact (ih (fun c' hIn =>
        hStill c' (List.mem_cons_of_mem c hIn)) _).trans
          (tuning_call_of_still (hStill c List.mem_cons_self) w)

/- After the server was linked its signal stays. -/
theorem signal_run_online (n : NicState) :
    let n' := (installInterruptHandler.runOn n).2
    (LowLevelCall.online.run n).iface.signalTask =
        n'.iface.signalTask ∧
      (LowLevelCall.online.run n).iface.sigNumber =
        n'.iface.sigNumber := by
  have hRun :
      LowLevelCall.online.run n =
        (NicM.runOn (do
          disable
          ksz8851SetBit regIsr onlineIsrMask
          ksz8851SetBit regIer onlineIerMask
          ksz8851SetBit regTxcr txcrTxe
          ksz8851SetBit regRxcr1 rxcr1Rxe
          enable)
          (installInterruptHandler.runOn n).2).2 :=
    congrArg Prod.snd
      (Program.run_bind installInterruptHandler _ n)
  have hEnd :=
    (goes_enableInterrupts (w :=
      (installInterruptHandler.runOn n).2.footing)).run
  rw [hRun]
  exact ⟨congrArg Footing.signalTask hEnd,
    congrArg Footing.sigNumber hEnd⟩

/- A server that is linked stays as it is. -/
theorem footing_run_online
    {n : NicState}
    (hLinked : n.iface.signalTask = true) :
    (LowLevelCall.online.run n).footing = n.footing := by
  have hInstalls := (treads_online (w := n.footing)).run
  have hThere : n.footing.signalTask = true := hLinked
  generalize hEnd :
    NicState.footing
      (Program.run NicOp.exec ksz8851Online n).2 = v
      at hInstalls
  cases hInstalls with
  | already hTask => exact hEnd
  | noSignal hTask | links hTask =>
      rw [hThere] at hTask
      cases hTask

theorem turns_online
    {w : Wire}
    (hTuned : w.tuning.Tuned) :
    w.tuning.Turns (w.call .online).tuning where
  freeSignal := freeSignal_run .online w.nic
  stays := by
    intro hBefore _
    have hSame := footing_run_online hBefore
    have hTask :
        (LowLevelCall.online.run w.nic).iface.signalTask =
          w.nic.iface.signalTask :=
      congrArg Footing.signalTask hSame
    have hNumber :
        (LowLevelCall.online.run w.nic).iface.sigNumber =
          w.nic.iface.sigNumber :=
      congrArg Footing.sigNumber hSame
    have hUnit : w.signalNumber = w.nic.iface.sigNumber :=
      hTuned hBefore
    show Tuning.mk
      (LowLevelCall.online.run w.nic).iface.signalTask
      (LowLevelCall.online.run w.nic).iface.sigNumber
      (LowLevelCall.online.run w.nic).iface.sigNumber
      (LowLevelCall.online.run w.nic).freeSignal =
        Tuning.mk _ _ _ _
    rw [freeSignal_run, hNumber, hTask, hUnit]
  links := by
    intro hBefore hAfter
    have hSignal := signal_run_online w.nic
    have hThere :
        (installInterruptHandler.runOn
          w.nic).2.iface.signalTask = true :=
      hSignal.1.symm.trans hAfter
    have hInstalled :=
      sigNumber_installInterruptHandler hBefore hThere
    have hNumber := hSignal.2.trans hInstalled.1
    exact ⟨hNumber, hNumber, hInstalled.2⟩

/- Whoever goes offline has no server any more. -/
theorem turns_offline (w : Wire) :
    w.tuning.Turns (w.call .offline).tuning := by
  have hFooting :
      (LowLevelCall.offline.run w.nic).footing =
        w.nic.footing.unlinked :=
    (goes_offline (w := w.nic.footing)).run
  have hNone :
      (w.call .offline).tuning.linked = false := by
    have hTask := congrArg Footing.signalTask hFooting
    apply hTask.trans
    unfold Footing.unlinked
    split
    · rfl
    · rename_i hNot
      exact Bool.not_eq_true _ ▸ hNot
  exact
    { freeSignal := freeSignal_run .offline w.nic
      stays := by
        intro _ hAfter
        rw [hNone] at hAfter
        cases hAfter
      links := by
        intro _ hAfter
        rw [hNone] at hAfter
        cases hAfter }

------------------------------------------------------------
-- Commands
------------------------------------------------------------

section Commands

variable {o : Outcome} {ios2 : APTR} {s : Driver}

theorem still_of_mem_sends
    {cs : List LowLevelCall}
    (hSends : ∀ c ∈ cs, c.Sends) :
    ∀ c ∈ cs, c.Still :=
  fun c hIn => (hSends c hIn).still

/- The last call of going online links the server. -/
theorem turns_goOnlineCalls
    {w : Wire}
    {cs : List LowLevelCall}
    (hStill : ∀ c ∈ cs, c.Still)
    (hTuned : w.tuning.Tuned) :
    w.tuning.Turns (w.after (cs ++ [.online])).tuning := by
  have hBefore := tuning_after_of_still hStill w
  rw [Wire.after_append, ← hBefore]
  exact turns_online (hBefore ▸ hTuned)

theorem turns_of_still
    {w : Wire}
    {cs : List LowLevelCall}
    (hStill : ∀ c ∈ cs, c.Still) :
    w.tuning.Turns (w.after cs).tuning := by
  rw [tuning_after_of_still hStill]
  exact Tuning.Turns.refl _

theorem turns_onlineCalls
    {w : Wire}
    (hTuned : w.tuning.Tuned) :
    w.tuning.Turns (w.after (onlineCalls s)).tuning := by
  unfold onlineCalls
  split
  · have hStill : ∀ c ∈ [LowLevelCall.setReceiver, .init],
        c.Still := by
      simp [LowLevelCall.Still]
    exact turns_goOnlineCalls hStill hTuned
  · exact Tuning.Turns.refl _

theorem turns_configCalls
    {w : Wire}
    (hTuned : w.tuning.Tuned) :
    w.tuning.Turns (w.after (configCalls ios2 s)).tuning := by
  unfold configCalls
  split
  · exact Tuning.Turns.refl _
  · split
    · apply turns_of_still
      simp [LowLevelCall.Still]
    · have hStill :
          ∀ c ∈ [LowLevelCall.setNetworkAddress
            (s.reqs ios2).srcAddr, .setReceiver, .init],
            c.Still := by
        simp [LowLevelCall.Still]
      have hCalls :
          .setNetworkAddress (s.reqs ios2).srcAddr ::
              goOnlineCalls =
            [.setNetworkAddress (s.reqs ios2).srcAddr,
                .setReceiver, .init] ++ [.online] := rfl
      rw [hCalls]
      exact turns_goOnlineCalls hStill hTuned

/- Performing a request goes online, goes offline, or leaves
   the server alone. -/
theorem turns_performIo
    (o : Outcome)
    (ios2 : APTR)
    (hTuned : s.tuning.Tuned) :
    s.tuning.Turns (performIo o ios2 s).tuning := by
  have hSame : (s.resetError ios2).wire = s.wire := rfl
  by_cases hSwitches : Switches (s.reqs ios2).ioCommand
  · rcases hSwitches with hCommand | hCommand | hCommand
    · have hPerform : performIo o ios2 s =
          devCmdOnline ios2 (s.resetError ios2) := by
        unfold performIo
        rw [hCommand]
        exact dispatch_s2Online _ _ _
      unfold Driver.tuning
      rw [hPerform, wire_devCmdOnline, hSame]
      exact turns_onlineCalls hTuned
    · have hPerform : performIo o ios2 s =
          devCmdOffline (some ios2) (s.resetError ios2) := by
        unfold performIo
        rw [hCommand]
        exact dispatch_s2Offline _ _ _
      unfold Driver.tuning
      rw [hPerform, wire_devCmdOffline, hSame]
      split
      · exact turns_offline s.wire
      · exact Tuning.Turns.refl _
    · have hPerform : performIo o ios2 s =
          devCmdConfigInterface ios2 (s.resetError ios2) := by
        unfold performIo
        rw [hCommand]
        exact dispatch_s2ConfigInterface _ _ _
      unfold Driver.tuning
      rw [hPerform]
      by_cases hDone : (s.resetError ios2).Configured
      · rw [wire_devCmdConfigInterface_of_configured _ _ hDone,
          hSame]
        exact turns_configCalls hTuned
      · rw [wire_devCmdConfigInterface _ _ hDone, hSame]
        exact turns_configCalls (w := { s.wire with
          stAddr := ((s.resetError ios2).reqs ios2).srcAddr })
          hTuned
  · have hWire := wire_performIo o ios2 s (fun hConfig =>
      absurd (Or.inr (Or.inr hConfig)) hSwitches)
    unfold Driver.tuning
    rw [hWire]
    apply turns_of_still
    exact still_of_mem_sends (fun c hIn =>
      sends_of_mem_dispatchCalls hSwitches hIn)

end Commands

end KszDriver
