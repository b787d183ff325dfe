import KszDriver.Core.Attendant
import KszDriver.Core.Simulation
import KszDriver.Device.ServiceTurns

/-
  The service loop looks after the low level driver, the port
  and the configuration file as an attendant looks after its
  sources, whose bells are the signals of the task.

  Main declarations:
    * `Duty`, `UnitProcess.view`, `UnitProcess.acts`
    * `implements_attendant`
-/

------------------------------------------------------------
-- The View
------------------------------------------------------------

namespace KszDriver

open Driver

theorem IsUserSignal.isSignal
    {number : Int}
    (hUser : IsUserSignal number) :
    IsSignal number := by
  unfold IsUserSignal at hUser
  unfold IsSignal
  omega

/- What the process looks after, in this order. -/
inductive Duty where
| lowLevel
| ioRequests
| configFile
deriving DecidableEq

def duties : List Duty :=
  [.lowLevel, .ioRequests, .configFile]

theorem Duty.mem_duties (duty : Duty) : duty ∈ duties := by
  cases duty <;> decide

/- The signal that the process tests for. -/
def Duty.number
    (bits : ProcessSignals) (s : Driver) : Duty → Int
| .lowLevel => s.unit.lowLevelDriverSignalNumber
| .ioRequests => bits.mpSigBit
| .configFile => bits.configFileNotifySigBit

namespace UnitProcess

/- Somebody may signal for this duty. -/
def HasBell (p : UnitProcess) (duty : Duty) : Prop :=
  duty = .lowLevel → p.Linked

instance (p : UnitProcess) (duty : Duty) :
    Decidable (p.HasBell duty) := by
  unfold HasBell
  infer_instance

/- The signal for a duty is among those received. -/
def noted
    (bits : ProcessSignals)
    (p : UnitProcess)
    (receivedSignals : ULONG)
    (duty : Duty) : Bool :=
  decide (Signalled receivedSignals (duty.number bits p.driver))

def ringing
    (bits : ProcessSignals)
    (p : UnitProcess)
    (duty : Duty) : Bool :=
  decide (p.HasBell duty ∧
    Signalled p.sigRecvd (duty.number bits p.driver))

/- Alarms and changes are all alike. -/
def due (p : UnitProcess) : Duty → List (Option APTR)
| .lowLevel => List.replicate p.alarms none
| .ioRequests => (p.driver.lists .unitMsgPort).map some
| .configFile => List.replicate p.changes none

/- What the process looks at before it sleeps again. -/
def ahead
    (bits : ProcessSignals) (p : UnitProcess) :
    List (Duty × Bool) :=
  match p.place with
  | .waiting | .left => []
  | .lowLevel receivedSignals =>
      duties.map (fun duty =>
        (duty, p.noted bits receivedSignals duty))
  | .ioRequests receivedSignals =>
      [.ioRequests, .configFile].map (fun duty =>
        (duty, p.noted bits receivedSignals duty))
  | .configFile receivedSignals =>
      [.configFile].map (fun duty =>
        (duty, p.noted bits receivedSignals duty))

def view (bits : ProcessSignals) (p : UnitProcess) :
    Attendant Duty (Option APTR) where
  due := p.due
  ringing := p.ringing bits
  taken := p.performed.length
  ahead := p.ahead bits
  gone := decide (p.place = .left)

/- The process is about to leave its loop. -/
def Leaves (p : UnitProcess) : Prop :=
  p.place = .waiting ∧ p.sigRecvd &&& sigbreakfCtrlF ≠ 0#32

instance (p : UnitProcess) : Decidable p.Leaves := by
  unfold Leaves
  infer_instance

/- The server of the driver was linked and is not any more. -/
def Unlinks (p p' : UnitProcess) : Prop :=
  p.Linked ∧ ¬ p'.Linked

instance (p p' : UnitProcess) : Decidable (p.Unlinks p') := by
  unfold Unlinks
  infer_instance

/- What a step means to the attendant. -/
def acts
    (bits : ProcessSignals) (p : UnitProcess) :
    ProcessInput → List (Attendant.Input Duty (Option APTR))
| .work o =>
    if p.Leaves then [.leave]
    else
      .serve (decide (p.sigRecvd ≠ 0#32))
          (p.noted bits p.sigRecvd) ::
        if p.Unlinks (p.work bits o) then [.withdraw .lowLevel]
        else []
| .client op =>
    (p.driver.puts op).map (fun ios2 =>
      .post .ioRequests (some ios2))
| .interrupt =>
    if (isr.runOn p.driver.nic).1 = 1#8 then
      [.post .lowLevel none]
    else []
| .interfere _ => []
| .signals mask =>
    (duties.filter ((p.signal mask).ringing bits)).map .ring
| .fileWritten _ => [.post .configFile none]

------------------------------------------------------------
-- Bells
------------------------------------------------------------

variable {bits : ProcessSignals} {p p' : UnitProcess}
variable {duty duty' : Duty}

/- While the server is linked the unit has its signal. -/
theorem Sound.spare_number
    (hSound : p.Sound bits)
    (hLinked : p.Linked) :
    bits.Spare (Duty.lowLevel.number bits p.driver) := by
  have hTuned : p.driver.unit.lowLevelDriverSignalNumber =
      p.driver.nic.iface.sigNumber :=
    hSound.ready.tuned hLinked
  show bits.Spare p.driver.unit.lowLevelDriverSignalNumber
  rw [hTuned]
  exact hSound.spare hLinked

theorem Sound.isSignal_number
    (hSound : p.Sound bits)
    (hBell : p.HasBell duty) :
    IsSignal (duty.number bits p.driver) := by
  cases duty with
  | lowLevel =>
      exact (hSound.spare_number (hBell rfl)).1.isSignal
  | ioRequests => exact bits.isUserSignal.1.isSignal
  | configFile => exact bits.isUserSignal.2.isSignal

/- No two duties have one signal. -/
theorem Sound.number_inj
    (hSound : p.Sound bits)
    (hBell : p.HasBell duty)
    (hBell' : p.HasBell duty')
    (hSame : duty.number bits p.driver =
      duty'.number bits p.driver) :
    duty = duty' := by
  cases duty with
  | lowLevel =>
      have hSpare := hSound.spare_number (hBell rfl)
      cases duty' with
      | lowLevel => rfl
      | ioRequests => exact absurd hSame hSpare.2.1
      | configFile => exact absurd hSame hSpare.2.2
  | ioRequests =>
      cases duty' with
      | lowLevel =>
          exact absurd hSame.symm
            (hSound.spare_number (hBell' rfl)).2.1
      | ioRequests => rfl
      | configFile => exact absurd hSame bits.apart
  | configFile =>
      cases duty' with
      | lowLevel =>
          exact absurd hSame.symm
            (hSound.spare_number (hBell' rfl)).2.2
      | ioRequests => exact absurd hSame.symm bits.apart
      | configFile => rfl

/- A signal for one duty rings no other bell. -/
theorem Sound.ringing_signal
    (hSound : p.Sound bits)
    (hBell : p.HasBell duty) :
    (p.signal (signalMask (duty.number bits p.driver))).ringing
        bits =
      Function.update (p.ringing bits) duty true := by
  funext other
  have hSignal := hSound.isSignal_number hBell
  have hRings :
      (p.signal (signalMask (duty.number bits p.driver))).ringing
          bits other =
        decide (p.HasBell other ∧
          (Signalled p.sigRecvd (other.number bits p.driver) ∨
            other.number bits p.driver =
              duty.number bits p.driver)) := by
    unfold ringing
    congr 2
    rw [← signalled_signalMask_iff hSignal]
    exact propext signalled_or
  rw [hRings]
  by_cases hSame : other = duty
  · rw [hSame, Function.update_self, decide_eq_true_iff]
    exact ⟨hBell, Or.inr rfl⟩
  · rw [Function.update_of_ne hSame]
    unfold ringing
    apply decide_eq_decide.mpr
    constructor
    · rintro ⟨hOther, hOld | hNew⟩
      · exact ⟨hOther, hOld⟩
      · exact absurd (hSound.number_inj hOther hBell hNew) hSame
    · exact fun hBoth => ⟨hBoth.1, Or.inl hBoth.2⟩

/- What rings is noted when the process wakes. -/
theorem noted_of_ringing
    (hRings : p.ringing bits duty = true) :
    p.noted bits p.sigRecvd duty = true := by
  unfold ringing at hRings
  unfold noted
  rw [decide_eq_true_iff] at hRings ⊢
  exact hRings.2

theorem woken_of_ringing
    (hRings : p.ringing bits duty = true) :
    p.sigRecvd ≠ 0#32 := by
  unfold ringing at hRings
  rw [decide_eq_true_iff] at hRings
  exact hRings.2.ne_zero

/- Nothing rings when all signals have been received. -/
theorem ringing_of_zero
    (hNone : p.sigRecvd = 0#32) :
    p.ringing bits = fun _ => false := by
  funext duty
  unfold ringing
  rw [hNone, decide_eq_false_iff_not]
  exact fun hBoth => not_signalled_zero _ hBoth.2

------------------------------------------------------------
-- Steps of Others
------------------------------------------------------------

/- The machine that the process is to be. -/
abbrev attendant :
    Machine (Attendant Duty (Option APTR))
      (Attendant.Input Duty (Option APTR)) :=
  attendantMachine duties .ioRequests

/- The bells hang where they hung. -/
theorem ringing_of_goesOn
    (p p' : UnitProcess)
    (hOn : GoesOn p.driver p'.driver)
    (hSignals : p'.sigRecvd = p.sigRecvd) :
    p'.ringing bits = p.ringing bits := by
  have hLinked : p'.Linked ↔ p.Linked :=
    (congrArg (· = true)
      (congrArg Tuning.linked hOn.tuning)).to_iff
  funext duty
  have hNumber : duty.number bits p'.driver =
      duty.number bits p.driver := by
    cases duty with
    | lowLevel => exact hOn.signalNumber
    | ioRequests | configFile => rfl
  unfold ringing HasBell
  rw [hNumber, hSignals]
  exact decide_eq_decide.mpr
    (and_congr_left' (imp_congr_right fun _ => hLinked))

theorem noted_of_goesOn
    (p p' : UnitProcess)
    (hOn : GoesOn p.driver p'.driver) :
    p'.noted bits = p.noted bits := by
  funext receivedSignals duty
  have hNumber : duty.number bits p'.driver =
      duty.number bits p.driver := by
    cases duty with
    | lowLevel => exact hOn.signalNumber
    | ioRequests | configFile => rfl
  unfold noted
  rw [hNumber]

theorem ahead_of_goesOn
    (p p' : UnitProcess)
    (hOn : GoesOn p.driver p'.driver)
    (hPlace : p'.place = p.place) :
    p'.ahead bits = p.ahead bits := by
  unfold ahead
  rw [hPlace, noted_of_goesOn p p' hOn]

/- Nothing has happened that concerns the attendant. -/
theorem view_same
    (p p' : UnitProcess)
    (hOn : GoesOn p.driver p'.driver)
    (hPlace : p'.place = p.place)
    (hPerformed : p'.performed = p.performed)
    (hSignals : p'.sigRecvd = p.sigRecvd)
    (hDue : p'.due = p.due) :
    p'.view bits = p.view bits := by
  apply Attendant.ext
  · exact hDue
  · exact ringing_of_goesOn p p' hOn hSignals
  · exact congrArg List.length hPerformed
  · exact ahead_of_goesOn p p' hOn hPlace
  · exact congrArg (fun place => decide (place = Place.left))
      hPlace

/- Somebody has posted a job and signalled for it. -/
theorem Sound.view_post
    {job : Option APTR}
    (p' : UnitProcess)
    (hSound : p.Sound bits)
    (hBell : p.HasBell duty)
    (hOn : GoesOn p.driver p'.driver)
    (hPlace : p'.place = p.place)
    (hPerformed : p'.performed = p.performed)
    (hSignals : p'.sigRecvd = p.sigRecvd |||
      signalMask (duty.number bits p.driver))
    (hDue : p'.due =
      Function.update p.due duty (p.due duty ++ [job])) :
    attendant.run [.post duty job] (p.view bits) =
      p'.view bits := by
  apply Attendant.ext
  · exact hDue.symm
  · have hRings := @ringing_of_goesOn bits
      (p.signal (signalMask (duty.number bits p.driver))) p'
      hOn hSignals
    rw [hSound.ringing_signal hBell] at hRings
    exact hRings.symm
  · exact (congrArg List.length hPerformed).symm
  · exact (ahead_of_goesOn p p' hOn hPlace).symm
  · exact (congrArg (fun place => decide (place = Place.left))
      hPlace).symm

theorem Sound.view_client
    {op : Op}
    (hSound : p.Sound bits)
    (hClient : op.ByClient p.driver)
    (hAllowed : op.Allowed p.driver) :
    attendant.run (p.acts bits (.client op)) (p.view bits) =
      (p.client bits op).view bits := by
  have hOn := goesOn_client hSound.ready.unit0 hClient
  have hTaken : p.driver.takes op = [] := by
    cases op with
    | serviceMsgPort o => exact hClient.elim
    | _ => rfl
  have hPort := port_next hSound.ready.waits hSound.ready.unit0
    hAllowed
  rw [hTaken, List.nil_append] at hPort
  unfold acts UnitProcess.client
  dsimp only
  cases hPuts : p.driver.puts op with
  | nil =>
      rw [hPuts, List.append_nil] at hPort
      rw [if_pos rfl]
      apply Eq.symm
      apply view_same
      · exact hOn
      · rfl
      · rfl
      · rfl
      · funext duty
        cases duty with
        | ioRequests =>
            exact congrArg (List.map some) hPort.symm
        | lowLevel | configFile => rfl
  | cons ios2 others =>
      have hOne : others = [] := by
        unfold puts at hPuts
        split at hPuts
        · split at hPuts
          · cases hPuts
          · cases hPuts
            rfl
        · cases hPuts
      subst hOne
      rw [hPuts] at hPort
      rw [if_neg (List.cons_ne_nil _ _)]
      apply hSound.view_post
      · exact fun hDuty => by cases hDuty
      · exact hOn
      · rfl
      · rfl
      · rfl
      · funext duty
        cases duty with
        | ioRequests =>
            have hAppended := congrArg (List.map some) hPort
            rw [List.map_append] at hAppended
            exact hAppended.symm
        | lowLevel | configFile => rfl

/- One alarm or change more. -/
theorem replicate_none (count : Nat) :
    List.replicate (count + 1) (none : Option APTR) =
      List.replicate count none ++ [none] :=
  List.replicate_succ'

theorem Sound.view_interrupt
    (hSound : p.Sound bits)
    (hServers : 0 < p.driver.nic.servers) :
    attendant.run (p.acts bits .interrupt) (p.view bits) =
      p.interrupt.view bits := by
  have hOn := goesOn_isr (s := p.driver)
  have hLinked := hSound.linked hServers
  have hTuned : p.driver.unit.lowLevelDriverSignalNumber =
      p.driver.nic.iface.sigNumber :=
    hSound.ready.tuned hLinked
  unfold acts UnitProcess.interrupt
  dsimp only
  split
  · apply hSound.view_post
    · exact fun _ => hLinked
    · exact hOn
    · rfl
    · rfl
    · show p.sigRecvd |||
        signalMask p.driver.nic.iface.sigNumber =
          p.sigRecvd ||| signalMask
            p.driver.unit.lowLevelDriverSignalNumber
      rw [hTuned]
    · funext duty
      cases duty with
      | lowLevel => exact replicate_none p.alarms
      | ioRequests | configFile => rfl
  · apply Eq.symm
    apply view_same
    · exact hOn
    · rfl
    · rfl
    · rfl
    · funext duty
      cases duty <;> rfl

theorem Sound.view_fileWritten
    (hSound : p.Sound bits)
    (addr : MacAddr) :
    attendant.run (p.acts bits (.fileWritten addr))
        (p.view bits) =
      (p.fileWritten bits addr).view bits := by
  apply hSound.view_post
  · exact fun hDuty => by cases hDuty
  · exact goesOn_of_wire rfl rfl
  · rfl
  · rfl
  · rfl
  · funext duty
    cases duty with
    | configFile => exact replicate_none p.changes
    | lowLevel | ioRequests => rfl

/- Whoever signals the task may ring any bell. -/
theorem view_signals (mask : ULONG) :
    attendant.run (p.acts bits (.signals mask)) (p.view bits) =
      (p.signal mask).view bits := by
  unfold acts
  dsimp only
  rw [Attendant.run_ring]
  apply Attendant.ext
  · funext duty
    cases duty <;> rfl
  · funext duty
    have hMore : p.ringing bits duty = true →
        (p.signal mask).ringing bits duty = true := by
      unfold ringing
      rw [decide_eq_true_iff, decide_eq_true_iff]
      exact fun hBoth =>
        ⟨hBoth.1, signalled_or.mpr (Or.inl hBoth.2)⟩
    change (p.ringing bits duty || decide (duty ∈
      duties.filter ((p.signal mask).ringing bits))) =
        (p.signal mask).ringing bits duty
    simp only [List.mem_filter, duty.mem_duties, true_and,
      Bool.decide_eq_true]
    cases hOld : p.ringing bits duty with
    | true => rw [hMore hOld, Bool.true_or]
    | false => exact Bool.false_or _
  · rfl
  · rfl
  · rfl

------------------------------------------------------------
-- Steps of the Process
------------------------------------------------------------

variable {o : Nat → Outcome} {receivedSignals : ULONG}

/- A step of the process that leaves the server alone. -/
theorem run_acts_work
    (hStays : ¬ p.Leaves)
    (hLinked : (p.work bits o).Linked ↔ p.Linked) :
    attendant.run (p.acts bits (.work o)) (p.view bits) =
      (p.view bits).serve duties .ioRequests
        (decide (p.sigRecvd ≠ 0#32))
        (p.noted bits p.sigRecvd) := by
  have hNot : ¬ p.Unlinks (p.work bits o) :=
    fun hBoth => hBoth.2 (hLinked.mpr hBoth.1)
  unfold acts
  dsimp only
  rw [if_neg hStays, if_neg hNot]
  rfl

theorem not_leaves_of_place
    {place : Place}
    (hPlace : p.place = place)
    (hOther : place ≠ .waiting) :
    ¬ p.Leaves :=
  fun hBoth => hOther (hPlace.symm.trans hBoth.1)

theorem gone_view_of_place
    {place : Place}
    (hPlace : p.place = place)
    (hOther : place ≠ .left) :
    (p.view bits).gone = false := by
  show decide (p.place = .left) = false
  rw [hPlace]
  exact decide_eq_false hOther

/- The process sleeps on, wakes, or leaves. -/
theorem view_wait
    (hPlace : p.place = .waiting) :
    attendant.run (p.acts bits (.work o)) (p.view bits) =
      (p.work bits o).view bits := by
  have hWork : p.work bits o = p.wait := by
    unfold UnitProcess.work
    rw [hPlace]
  have hGone : (p.view bits).gone = false :=
    gone_view_of_place hPlace Place.noConfusion
  have hAsleep : (p.view bits).ahead = [] := by
    show p.ahead bits = []
    unfold ahead
    rw [hPlace]
  by_cases hNone : p.sigRecvd = 0#32
  · have hStays : ¬ p.Leaves := by
      rintro ⟨-, hBreak⟩
      rw [hNone] at hBreak
      exact hBreak BitVec.zero_and
    have hSame : p.work bits o = p := by
      rw [hWork, wait, if_pos hNone]
    rw [run_acts_work hStays (by rw [hSame]), hSame,
      Attendant.serve_asleep hGone hAsleep,
      if_neg (by rw [hNone]; decide)]
  · by_cases hLeaves : p.Leaves
    · have hNext : p.work bits o =
          { p with sigRecvd := 0#32, place := .left } := by
        rw [hWork, wait, if_neg hNone, if_pos hLeaves.2]
      have hActs : p.acts bits (.work o) = [.leave] :=
        if_pos hLeaves
      rw [hNext, hActs]
      apply Attendant.ext
      · funext duty
        cases duty <;> rfl
      · exact (ringing_of_zero rfl).symm
      · rfl
      · rfl
      · rfl
    · have hBreak : ¬ p.sigRecvd &&& sigbreakfCtrlF ≠ 0#32 :=
        fun hBreak => hLeaves ⟨hPlace, hBreak⟩
      have hNext : p.work bits o =
          { p with
            sigRecvd := 0#32
            place := .lowLevel p.sigRecvd } := by
        rw [hWork, wait, if_neg hNone, if_neg hBreak]
      rw [run_acts_work hLeaves (by rw [hNext]; rfl),
        Attendant.serve_asleep hGone hAsleep,
        if_pos (decide_eq_true hNone), hNext]
      apply Attendant.ext
      · funext duty
        cases duty <;> rfl
      · exact (ringing_of_zero rfl).symm
      · rfl
      · rfl
      · exact hGone

/- A step after which the process is still in its loop. -/
theorem view_of
    (p p' : UnitProcess)
    {a : Attendant Duty (Option APTR)}
    (hOn : GoesOn p.driver p'.driver)
    (hSignals : p'.sigRecvd = p.sigRecvd)
    (hPerformed : p'.performed = p.performed)
    (hStays : p'.place ≠ .left)
    (hDue : a.due = p'.due)
    (hRinging : a.ringing = p.ringing bits)
    (hTaken : a.taken = p.performed.length)
    (hAhead : a.ahead = p'.ahead bits)
    (hGone : a.gone = false) :
    a = p'.view bits := by
  apply Attendant.ext
  · exact hDue
  · rw [hRinging]
    exact (ringing_of_goesOn p p' hOn hSignals).symm
  · rw [hTaken]
    exact (congrArg List.length hPerformed).symm
  · exact hAhead
  · rw [hGone]
    exact (decide_eq_false hStays).symm

/- The duties that are left. -/
def aheadFrom
    (bits : ProcessSignals)
    (p : UnitProcess)
    (receivedSignals : ULONG)
    (left : List Duty) : List (Duty × Bool) :=
  left.map (fun duty =>
    (duty, p.noted bits receivedSignals duty))

theorem aheadFrom_of_goesOn
    (p p' : UnitProcess)
    (hOn : GoesOn p.driver p'.driver)
    (left : List Duty) :
    p'.aheadFrom bits receivedSignals left =
      p.aheadFrom bits receivedSignals left := by
  unfold aheadFrom
  rw [noted_of_goesOn p p' hOn]

theorem ahead_lowLevel
    (hPlace : p.place = .lowLevel receivedSignals) :
    p.ahead bits =
      (.lowLevel, p.noted bits receivedSignals .lowLevel) ::
        p.aheadFrom bits receivedSignals
          [.ioRequests, .configFile] := by
  unfold ahead
  rw [hPlace]
  rfl

theorem ahead_ioRequests
    (hPlace : p.place = .ioRequests receivedSignals) :
    p.ahead bits =
      (.ioRequests, p.noted bits receivedSignals .ioRequests) ::
        p.aheadFrom bits receivedSignals [.configFile] := by
  unfold ahead
  rw [hPlace]
  rfl

theorem ahead_configFile
    (hPlace : p.place = .configFile receivedSignals) :
    p.ahead bits =
      [(.configFile,
        p.noted bits receivedSignals .configFile)] := by
  unfold ahead
  rw [hPlace]
  rfl

/- A duty that was not noted is passed over. -/
theorem view_skip
    {rest : List (Duty × Bool)}
    {place : Place}
    (hStays : ¬ p.Leaves)
    (hGone : (p.view bits).gone = false)
    (hAhead : (p.view bits).ahead = (duty, false) :: rest)
    (hNext : p.work bits o = { p with place := place })
    (hPlace : place ≠ .left)
    (hRest : rest =
      ({ p with place := place } : UnitProcess).ahead bits) :
    attendant.run (p.acts bits (.work o)) (p.view bits) =
      (p.work bits o).view bits := by
  rw [run_acts_work hStays (by rw [hNext]; rfl),
    Attendant.serve_skip hGone hAhead, hNext]
  apply view_of p
  · exact goesOn_of_wire rfl rfl
  · rfl
  · rfl
  · exact hPlace
  · funext duty
    cases duty <;> rfl
  · rfl
  · rfl
  · exact hRest
  · exact hGone

theorem view_lowLevel
    (hSound : p.Sound bits)
    (hPlace : p.place = .lowLevel receivedSignals) :
    attendant.run (p.acts bits (.work o)) (p.view bits) =
      (p.work bits o).view bits := by
  have hWork : p.work bits o =
      p.lowLevelWork o receivedSignals := by
    unfold UnitProcess.work
    rw [hPlace]
  have hStays : ¬ p.Leaves :=
    not_leaves_of_place hPlace Place.noConfusion
  have hGone : (p.view bits).gone = false :=
    gone_view_of_place hPlace Place.noConfusion
  have hAhead : (p.view bits).ahead = _ := ahead_lowLevel hPlace
  by_cases hNoted : Signalled receivedSignals
      p.driver.unit.lowLevelDriverSignalNumber
  · have hEvents := hSound.ready.processEvents o
    have hNext : p.work bits o =
        { p with
          driver := processEvents o p.driver
          alarms := 0
          place := .ioRequests receivedSignals } := by
      rw [hWork, lowLevelWork, if_pos hNoted]
    have hTrue :
        p.noted bits receivedSignals .lowLevel = true :=
      decide_eq_true hNoted
    rw [hTrue] at hAhead
    have hOn : GoesOn p.driver (p.work bits o).driver := by
      rw [hNext]
      exact hEvents.2.1
    have hLinked : (p.work bits o).Linked ↔ p.Linked :=
      (congrArg (· = true)
        (congrArg Tuning.linked hOn.tuning)).to_iff
    rw [run_acts_work hStays hLinked,
      Attendant.serve_look hGone hAhead, Attendant.look,
      if_neg (fun hBoth => by cases hBoth.1)]
    apply view_of p _ hOn
    · rw [hNext]
    · rw [hNext]
    · rw [hNext]
      exact Place.noConfusion
    · rw [hNext]
      funext duty
      cases duty with
      | lowLevel => rfl
      | ioRequests =>
          exact congrArg (List.map some) hEvents.2.2.symm
      | configFile => rfl
    · rfl
    · rfl
    · rw [← aheadFrom_of_goesOn p _ hOn]
      rw [hNext]
      rfl
    · exact hGone
  · have hFalse :
        p.noted bits receivedSignals .lowLevel = false :=
      decide_eq_false hNoted
    rw [hFalse] at hAhead
    apply view_skip hStays hGone hAhead
    · rw [hWork, lowLevelWork, if_neg hNoted]
    · exact Place.noConfusion
    · rfl

theorem view_configFile
    (hPlace : p.place = .configFile receivedSignals) :
    attendant.run (p.acts bits (.work o)) (p.view bits) =
      (p.work bits o).view bits := by
  have hWork : p.work bits o =
      p.configFileWork bits receivedSignals := by
    unfold UnitProcess.work
    rw [hPlace]
  have hStays : ¬ p.Leaves :=
    not_leaves_of_place hPlace Place.noConfusion
  have hGone : (p.view bits).gone = false :=
    gone_view_of_place hPlace Place.noConfusion
  have hAhead : (p.view bits).ahead = _ :=
    ahead_configFile hPlace
  by_cases hNoted :
      Signalled receivedSignals bits.configFileNotifySigBit
  · have hNext : p.work bits o =
        { p with
          driver := readConfig p.configAddr p.driver
          changes := 0
          place := .waiting } := by
      rw [hWork, configFileWork, if_pos hNoted]
    have hTrue :
        p.noted bits receivedSignals .configFile = true :=
      decide_eq_true hNoted
    rw [hTrue] at hAhead
    rw [run_acts_work hStays (by rw [hNext]; rfl),
      Attendant.serve_look hGone hAhead, Attendant.look,
      if_neg (fun hBoth => by cases hBoth.1), hNext]
    apply view_of p
    · exact
        { unit0 := rfl
          footing := rfl
          signalNumber := rfl
          freeSignal := rfl }
    · rfl
    · rfl
    · exact Place.noConfusion
    · funext duty
      cases duty <;> rfl
    · rfl
    · rfl
    · rfl
    · exact hGone
  · have hFalse :
        p.noted bits receivedSignals .configFile = false :=
      decide_eq_false hNoted
    rw [hFalse] at hAhead
    apply view_skip hStays hGone hAhead
    · rw [hWork, configFileWork, if_neg hNoted]
    · exact Place.noConfusion
    · rfl

/- A signal that was just allocated is clear. -/
theorem Sound.sigRecvd_tuned
    {driver : Driver}
    (hSound : p.Sound bits)
    (hTurns : p.driver.tuning.Turns driver.tuning)
    (number : Int) :
    Signalled (p.tuned driver).sigRecvd number ↔
      ¬ (¬ p.Linked ∧ (p.tuned driver).Linked ∧
        number = driver.tuning.sigNumber) ∧
          Signalled p.sigRecvd number := by
  have hSignals : (p.tuned driver).sigRecvd =
      if ¬ p.Linked ∧ (p.tuned driver).Linked then
        p.sigRecvd &&& ~~~signalMask driver.tuning.sigNumber
      else p.sigRecvd := rfl
  rw [hSignals]
  by_cases hLinks : ¬ p.Linked ∧ (p.tuned driver).Linked
  · have hNew := hTurns.links
      (Bool.not_eq_true _ ▸ hLinks.1) hLinks.2
    have hSpare := hSound.allocates.resolve_left hNew.2.2
    have hSignal : IsSignal driver.tuning.sigNumber := by
      rw [hNew.1]
      exact hSpare.1.isSignal
    rw [if_pos hLinks, signalled_clear_iff hSignal]
    have hBoth : ¬ (¬ p.Linked ∧ (p.tuned driver).Linked ∧
        number = driver.tuning.sigNumber) ↔
          number ≠ driver.tuning.sigNumber := by
      simp only [hLinks.1, hLinks.2, not_false_eq_true,
        true_and, ne_eq]
    rw [hBoth]
  · rw [if_neg hLinks]
    refine ⟨fun hReceived => ⟨?_, hReceived⟩, And.right⟩
    exact fun hAll => hLinks ⟨hAll.1, hAll.2.1⟩

/- The bells after a request was performed. -/
theorem Sound.ringing_tuned
    {driver : Driver}
    (hSound : p.Sound bits)
    (hTurns : p.driver.tuning.Turns driver.tuning) :
    (p.tuned driver).ringing bits =
      if p.Unlinks (p.tuned driver) then
        Function.update (p.ringing bits) .lowLevel false
      else p.ringing bits := by
  have hSignals := hSound.sigRecvd_tuned hTurns
  -- Its own signals are not the one that is allocated.
  have hOwn (number : Int)
      (hApart : ¬ bits.Spare number) :
      Signalled (p.tuned driver).sigRecvd number ↔
        Signalled p.sigRecvd number := by
    rw [hSignals]
    refine and_iff_right ?_
    rintro ⟨hBefore, hAfter, hSame⟩
    have hNew := hTurns.links
      (Bool.not_eq_true _ ▸ hBefore) hAfter
    rw [hSame, hNew.1] at hApart
    exact hApart (hSound.allocates.resolve_left hNew.2.2)
  have hFixed (duty : Duty) (hOther : duty ≠ .lowLevel) :
      (p.tuned driver).ringing bits duty =
        p.ringing bits duty := by
    unfold ringing HasBell
    apply decide_eq_decide.mpr
    cases duty with
    | lowLevel => exact absurd rfl hOther
    | ioRequests =>
        exact and_congr (by simp)
          (hOwn bits.mpSigBit (fun hSpare => hSpare.2.1 rfl))
    | configFile =>
        exact and_congr (by simp)
          (hOwn bits.configFileNotifySigBit
            (fun hSpare => hSpare.2.2 rfl))
  have hSilent (q : UnitProcess) (hNot : ¬ q.Linked) :
      q.ringing bits .lowLevel = false :=
    decide_eq_false (fun hBoth => hNot (hBoth.1 rfl))
  by_cases hUnlinks : p.Unlinks (p.tuned driver)
  · rw [if_pos hUnlinks]
    funext duty
    by_cases hDuty : duty = .lowLevel
    · rw [hDuty, Function.update_self]
      exact hSilent _ hUnlinks.2
    · rw [Function.update_of_ne hDuty]
      exact hFixed duty hDuty
  · rw [if_neg hUnlinks]
    funext duty
    by_cases hDuty : duty = .lowLevel
    · rw [hDuty]
      by_cases hBefore : p.Linked
      · have hAfter : (p.tuned driver).Linked :=
          not_not.mp (fun hNot => hUnlinks ⟨hBefore, hNot⟩)
        have hSame := hTurns.stays hBefore hAfter
        have hNumber : driver.unit.lowLevelDriverSignalNumber =
            p.driver.unit.lowLevelDriverSignalNumber :=
          congrArg Tuning.signalNumber hSame
        unfold ringing
        apply decide_eq_decide.mpr
        apply and_congr
        · exact ⟨fun _ _ => hBefore, fun _ _ => hAfter⟩
        · show Signalled (p.tuned driver).sigRecvd
              driver.unit.lowLevelDriverSignalNumber ↔
            Signalled p.sigRecvd
              p.driver.unit.lowLevelDriverSignalNumber
          rw [hNumber, hSignals]
          exact and_iff_right (fun hAll => hAll.1 hBefore)
      · rw [hSilent p hBefore]
        by_cases hAfter : (p.tuned driver).Linked
        · have hNew := hTurns.links
            (Bool.not_eq_true _ ▸ hBefore) hAfter
          have hNumber :
              driver.unit.lowLevelDriverSignalNumber =
                driver.tuning.sigNumber :=
            hNew.2.1.trans hNew.1.symm
          apply decide_eq_false
          rintro ⟨-, hReceived⟩
          exact ((hSignals _).mp hReceived).1
            ⟨hBefore, hAfter, hNumber⟩
        · exact hSilent _ hAfter
    · exact hFixed duty hDuty

/- A request is taken from the port.  If the server was
   unlinked, its alarms are withdrawn. -/
theorem Sound.view_performs
    {p' : UnitProcess}
    {ios2 : APTR}
    {others : List APTR}
    (o : Outcome)
    (hSound : p.Sound bits)
    (hPlace : p.place = .ioRequests receivedSignals)
    (hPort : p.driver.lists .unitMsgPort = ios2 :: others)
    (hNext : p' =
      { p.tuned (serviceMsgPort o p.driver) with
        performed := p.performed ++ [ios2] }) :
    attendant.run
        (if p.Unlinks p' then [.withdraw .lowLevel] else [])
        { p.view bits with
          due := Function.update p.due .ioRequests
            (p.due .ioRequests).tail
          taken := p.performed.length + 1 } =
      p'.view bits := by
  have hTurns := (hSound.ready.serviceMsgPort o).2
  have hRings := hSound.ringing_tuned hTurns
  have hSame : p'.ringing bits =
      (p.tuned (serviceMsgPort o p.driver)).ringing bits := by
    rw [hNext]
    rfl
  have hUnlinks : p.Unlinks p' ↔
      p.Unlinks (p.tuned (serviceMsgPort o p.driver)) := by
    rw [hNext]
    exact Iff.rfl
  rw [← hSame, ← if_congr hUnlinks rfl rfl] at hRings
  have hRest : p'.due .ioRequests =
      (p.due .ioRequests).tail := by
    have hTaken := port_serviceMsgPort (o := o)
      hSound.ready.waits
    unfold takes at hTaken
    dsimp only at hTaken
    rw [hPort] at hTaken
    have hTail : others =
        (serviceMsgPort o p.driver).lists .unitMsgPort :=
      (List.cons.inj hTaken).2
    rw [hNext]
    show ((serviceMsgPort o p.driver).lists
      .unitMsgPort).map some =
        ((p.driver.lists .unitMsgPort).map some).tail
    rw [hPort, ← hTail]
    rfl
  have hAlarms : p'.alarms =
      if p'.Linked then p.alarms else 0 := by
    rw [hNext]
    rfl
  have hLength : p'.performed.length =
      p.performed.length + 1 := by
    rw [hNext]
    exact List.length_append
  have hAhead : p'.ahead bits = p.ahead bits := by
    have hPlace' : p'.place = .ioRequests receivedSignals := by
      rw [hNext]
      exact hPlace
    rw [ahead_ioRequests hPlace, ahead_ioRequests hPlace']
    rfl
  have hGone : decide (p'.place = .left) =
      decide (p.place = .left) := by
    rw [hNext]
    rfl
  by_cases hWas : p.Unlinks p'
  · rw [if_pos hWas] at hRings ⊢
    have hNone : p'.alarms = 0 := by
      rw [hAlarms, if_neg hWas.2]
    apply Attendant.ext
    · funext duty
      cases duty with
      | lowLevel =>
          show [] = List.replicate p'.alarms none
          rw [hNone]
          rfl
      | ioRequests => exact hRest.symm
      | configFile =>
          rw [hNext]
          rfl
    · exact hRings.symm
    · exact hLength.symm
    · exact hAhead.symm
    · exact hGone.symm
  · rw [if_neg hWas] at hRings ⊢
    have hKept : p'.alarms = p.alarms := by
      rw [hAlarms]
      by_cases hAfter : p'.Linked
      · rw [if_pos hAfter]
      · rw [if_neg hAfter]
        exact (hSound.alarms
          (fun hBefore => hWas ⟨hBefore, hAfter⟩)).symm
    apply Attendant.ext
    · funext duty
      cases duty with
      | lowLevel =>
          show List.replicate p.alarms none =
            List.replicate p'.alarms none
          rw [hKept]
      | ioRequests => exact hRest.symm
      | configFile =>
          rw [hNext]
          rfl
    · exact hRings.symm
    · exact hLength.symm
    · exact hAhead.symm
    · exact hGone.symm

/- A request is taken from the port, or there is none. -/
theorem view_ioRequests
    (hSound : p.Sound bits)
    (hPlace : p.place = .ioRequests receivedSignals) :
    attendant.run (p.acts bits (.work o)) (p.view bits) =
      (p.work bits o).view bits := by
  have hWork : p.work bits o =
      p.ioRequestWork bits o receivedSignals := by
    unfold UnitProcess.work
    rw [hPlace]
  have hStays : ¬ p.Leaves :=
    not_leaves_of_place hPlace Place.noConfusion
  have hGone : (p.view bits).gone = false :=
    gone_view_of_place hPlace Place.noConfusion
  have hAhead : (p.view bits).ahead = _ :=
    ahead_ioRequests hPlace
  by_cases hNoted : Signalled receivedSignals bits.mpSigBit
  · have hTrue :
        p.noted bits receivedSignals .ioRequests = true :=
      decide_eq_true hNoted
    rw [hTrue] at hAhead
    cases hPort : p.driver.lists .unitMsgPort with
    | nil =>
        have hNext : p.work bits o =
            { p with place := .configFile receivedSignals } := by
          rw [hWork, ioRequestWork, if_pos hNoted, hPort]
        have hNone : (p.view bits).due .ioRequests = [] := by
          show (p.driver.lists .unitMsgPort).map some = []
          rw [hPort]
          rfl
        rw [run_acts_work hStays (by rw [hNext]; rfl),
          Attendant.serve_look hGone hAhead, Attendant.look,
          if_neg (fun hBoth => hBoth.2 hNone), hNext]
        apply view_of p
        · exact goesOn_of_wire rfl rfl
        · rfl
        · rfl
        · exact Place.noConfusion
        · show Function.update (p.view bits).due .ioRequests [] =
            (p.view bits).due
          rw [← hNone, Function.update_eq_self]
        · rfl
        · rfl
        · rfl
        · exact hGone
    | cons ios2 others =>
        have hNext : p.work bits o =
            { p.tuned (serviceMsgPort (o 0) p.driver) with
              performed := p.performed ++ [ios2] } := by
          rw [hWork, ioRequestWork, if_pos hNoted, hPort]
        have hSome : (p.view bits).due .ioRequests ≠ [] := by
          show (p.driver.lists .unitMsgPort).map some ≠ []
          rw [hPort]
          exact List.cons_ne_nil _ _
        have hActs : attendant.run (p.acts bits (.work o))
            (p.view bits) =
          attendant.run
            (if p.Unlinks (p.work bits o) then
              [.withdraw .lowLevel] else [])
            ((p.view bits).serve duties .ioRequests
              (decide (p.sigRecvd ≠ 0#32))
              (p.noted bits p.sigRecvd)) := by
          unfold acts
          dsimp only
          rw [if_neg hStays]
          rfl
        have hLook : (p.view bits).look .ioRequests .ioRequests
            (p.aheadFrom bits receivedSignals [.configFile]) =
          { p.view bits with
            due := Function.update p.due .ioRequests
              (p.due .ioRequests).tail
            taken := p.performed.length + 1 } :=
          if_pos ⟨rfl, hSome⟩
        rw [hActs, Attendant.serve_look hGone hAhead, hLook]
        exact hSound.view_performs (o 0) hPlace hPort hNext
  · have hFalse :
        p.noted bits receivedSignals .ioRequests = false :=
      decide_eq_false hNoted
    rw [hFalse] at hAhead
    apply view_skip hStays hGone hAhead
    · rw [hWork, ioRequestWork, if_neg hNoted]
    · exact Place.noConfusion
    · rfl

theorem view_left
    (hPlace : p.place = .left) :
    attendant.run (p.acts bits (.work o)) (p.view bits) =
      (p.work bits o).view bits := by
  have hSame : p.work bits o = p := by
    unfold UnitProcess.work
    rw [hPlace]
  have hStays : ¬ p.Leaves :=
    not_leaves_of_place hPlace Place.noConfusion
  have hGone : (p.view bits).gone = true :=
    decide_eq_true hPlace
  rw [run_acts_work hStays (by rw [hSame]), hSame,
    Attendant.serve_of_gone hGone]

/- Every step is what it means to the attendant. -/
theorem Sound.view_next
    {i : ProcessInput}
    (hSound : p.Sound bits)
    (hAllowed : p.Allowed bits i) :
    attendant.run (p.acts bits i) (p.view bits) =
      (p.next bits i).view bits := by
  cases i with
  | work o =>
      cases hPlace : p.place with
      | waiting => exact view_wait hPlace
      | lowLevel receivedSignals =>
          exact view_lowLevel hSound hPlace
      | ioRequests receivedSignals =>
          exact view_ioRequests hSound hPlace
      | configFile receivedSignals =>
          exact view_configFile hPlace
      | left => exact view_left hPlace
  | client op => exact hSound.view_client hAllowed.1 hAllowed.2
  | interrupt => exact hSound.view_interrupt hAllowed
  | interfere n =>
      apply Eq.symm
      have hLinked :
          n.iface.signalTask = p.driver.nic.iface.signalTask :=
        congrArg Footing.signalTask hAllowed.1
      apply Attendant.ext
      · funext duty
        cases duty <;> rfl
      · funext duty
        have hBell : (p.next bits (.interfere n)).HasBell duty ↔
            p.HasBell duty :=
          imp_congr_right (fun _ =>
            (congrArg (· = true) hLinked).to_iff)
        cases duty <;>
          exact decide_eq_decide.mpr (and_congr_left' hBell)
      · rfl
      · rfl
      · rfl
  | signals mask => exact view_signals mask
  | fileWritten addr => exact hSound.view_fileWritten addr

------------------------------------------------------------
-- The Implementation
------------------------------------------------------------

/- The process does not end with this step. -/
def Stays (p : UnitProcess) : ProcessInput → Prop
| .work _ => ¬ p.Leaves
| _ => True

instance (p : UnitProcess) :
    (i : ProcessInput) → Decidable (p.Stays i)
| .work _ => inferInstanceAs (Decidable (¬ p.Leaves))
| .client _ | .interrupt | .interfere _ | .signals _
| .fileWritten _ => isTrue trivial

/- The attendant is asked for nothing that it does not do. -/
theorem runs_acts
    {i : ProcessInput}
    {C : Attendant Duty (Option APTR) →
      Attendant.Input Duty (Option APTR) → Prop}
    (hGuard : ∀ a input, input ≠ .leave → C a input)
    (hLeave : ¬ p.Stays i → ∀ a, C a .leave) :
    attendant.Runs C (p.acts bits i) (p.view bits) := by
  cases i with
  | work o =>
      unfold acts
      dsimp only
      split
      · rename_i hLeaves
        exact ⟨⟨trivial,
          hLeave (not_not_intro hLeaves) _⟩, trivial⟩
      · refine ⟨⟨?_, hGuard _ _ nofun⟩,
          ?_⟩
        · intro _ duty hRings
          exact ⟨decide_eq_true (woken_of_ringing hRings),
            noted_of_ringing hRings⟩
        · split
          · exact ⟨⟨nofun,
              hGuard _ _ nofun⟩, trivial⟩
          · trivial
  | client op =>
      apply Attendant.runs_sources _ _ hGuard
      intro input hIn
      rcases List.mem_map.mp hIn with ⟨ios2, -, rfl⟩
      exact Or.inl ⟨_, _, rfl⟩
  | interrupt =>
      apply Attendant.runs_sources _ _ hGuard
      intro input hIn
      unfold acts at hIn
      dsimp only at hIn
      split at hIn
      · exact Or.inl ⟨_, _, List.mem_singleton.mp hIn⟩
      · exact absurd hIn List.not_mem_nil
  | interfere n => trivial
  | signals mask =>
      apply Attendant.runs_sources _ _ hGuard
      intro input hIn
      rcases List.mem_map.mp hIn with ⟨duty, -, rfl⟩
      exact Or.inr ⟨_, rfl⟩
  | fileWritten addr =>
      exact ⟨⟨trivial,
        hGuard _ _ nofun⟩, trivial⟩

end UnitProcess

open UnitProcess

/- The service loop implements the attendant. -/
theorem implements_attendant (bits : ProcessSignals) :
    (processMachine bits).Implements Machine.Free attendant
      Machine.Free (UnitProcess.Sound bits)
      (UnitProcess.view bits) (UnitProcess.acts bits) where
  kept := fun _ _ hSound hAllowed _ => hSound.next hAllowed
  runs := fun _ _ _ _ _ =>
    runs_acts (fun _ _ _ => trivial) (fun _ _ => trivial)
  next := fun _ _ hSound hAllowed _ => hSound.view_next hAllowed

/- It does while it stays in its loop, too. -/
theorem implements_remaining (bits : ProcessSignals) :
    (processMachine bits).Implements UnitProcess.Stays
      attendant Attendant.Remains (UnitProcess.Sound bits)
      (UnitProcess.view bits) (UnitProcess.acts bits) where
  kept := fun _ _ hSound hAllowed _ => hSound.next hAllowed
  runs := fun _ _ _ _ hStays =>
    runs_acts (fun _ _ hOther => hOther)
      (fun hNot => absurd hStays hNot)
  next := fun _ _ hSound hAllowed _ => hSound.view_next hAllowed

end KszDriver
