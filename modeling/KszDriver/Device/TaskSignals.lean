import KszDriver.Nic.Registers

/-
  The signals of a task: masks with one bit for each signal,
  of which the numbers from 16 on are the task's own.

  Main declarations:
    * `signalMask`, `Signalled`
    * `signalled_or`, `signalled_signalMask_iff`
    * `signalled_clear_iff`
-/

namespace KszDriver

/- `SIGBREAKF_CTRL_F` -/
def sigbreakfCtrlF : ULONG := 0x8000#32

/- The number of a signal. -/
def IsSignal (number : Int) : Prop :=
  0 ≤ number ∧ number < 32

instance (number : Int) : Decidable (IsSignal number) := by
  unfold IsSignal
  infer_instance

/- `1l << number`.  A shift by more than the width of the mask
   counts as zero. -/
def signalMask (number : Int) : ULONG :=
  if IsSignal number then 1#32 <<< number.toNat else 0#32

/- `receivedSignals & (1l << number)` -/
def Signalled (receivedSignals : ULONG) (number : Int) : Prop :=
  receivedSignals &&& signalMask number ≠ 0#32

instance (receivedSignals : ULONG) (number : Int) :
    Decidable (Signalled receivedSignals number) := by
  unfold Signalled
  infer_instance

------------------------------------------------------------
-- Bits
------------------------------------------------------------

variable {signals signals' : ULONG} {number other : Int}

theorem getLsbD_signalMask
    (hNumber : IsSignal number) (i : Nat) :
    (signalMask number).getLsbD i =
      decide (number.toNat = i ∧ i < 32) := by
  unfold signalMask
  rw [if_pos hNumber, ← BitVec.twoPow_eq, BitVec.getLsbD_twoPow,
    Bool.decide_and, Bool.and_comm]
  by_cases hSame : number.toNat = i <;> simp [hSame]

theorem signalled_iff (hNumber : IsSignal number) :
    Signalled signals number ↔
      signals.getLsbD number.toNat = true := by
  have hLess : number.toNat < 32 := by
    have hBoth := hNumber
    unfold IsSignal at hBoth
    omega
  unfold Signalled signalMask
  rw [if_pos hNumber, ← BitVec.twoPow_eq, BitVec.and_twoPow]
  split
  · rename_i hSet
    refine ⟨fun _ => hSet, fun _ hZero => ?_⟩
    have hBit := congrArg
      (fun v => BitVec.getLsbD v number.toNat) hZero
    simp [hLess] at hBit
  · rename_i hClear
    exact ⟨fun hNot => absurd rfl hNot,
      fun hSet => absurd hSet hClear⟩

theorem not_signalled_zero (number : Int) :
    ¬ Signalled 0#32 number :=
  fun hReceived => hReceived BitVec.zero_and

/- What is no number of a signal is never received. -/
theorem Signalled.isSignal
    (hReceived : Signalled signals number) :
    IsSignal number := by
  by_contra hNot
  apply hReceived
  unfold signalMask
  rw [if_neg hNot, BitVec.and_zero]

/- `Signal` adds to what the task has. -/
theorem signalled_or :
    Signalled (signals ||| signals') number ↔
      Signalled signals number ∨ Signalled signals' number := by
  by_cases hNumber : IsSignal number
  · rw [signalled_iff hNumber, signalled_iff hNumber,
      signalled_iff hNumber, BitVec.getLsbD_or, Bool.or_eq_true]
  · have hNone (v : ULONG) : ¬ Signalled v number :=
      fun hReceived => hNumber hReceived.isSignal
    simp only [hNone, or_self]

theorem signalled_signalMask_iff
    (hNumber : IsSignal number) :
    Signalled (signalMask number) other ↔ other = number := by
  constructor
  · intro hReceived
    have hOther := hReceived.isSignal
    rw [signalled_iff hOther, getLsbD_signalMask hNumber,
      decide_eq_true_iff] at hReceived
    unfold IsSignal at hNumber hOther
    omega
  · rintro rfl
    rw [signalled_iff hNumber, getLsbD_signalMask hNumber,
      decide_eq_true_iff]
    unfold IsSignal at hNumber
    omega

/- A signal that is cleared concerns no other. -/
theorem signalled_clear_iff
    (hNumber : IsSignal number) :
    Signalled (signals &&& ~~~signalMask number) other ↔
      other ≠ number ∧ Signalled signals other := by
  by_cases hOther : IsSignal other
  · rw [signalled_iff hOther, signalled_iff hOther,
      BitVec.getLsbD_and, BitVec.getLsbD_not,
      getLsbD_signalMask hNumber]
    unfold IsSignal at hNumber hOther
    have hSame : number.toNat = other.toNat ↔ other = number := by
      omega
    have hLess : other.toNat < 32 := by omega
    simp only [hSame, hLess, and_true, decide_true,
      Bool.true_and, Bool.and_eq_true, Bool.not_eq_true',
      decide_eq_false_iff_not]
    exact and_comm
  · constructor
    · intro hReceived
      exact absurd hReceived.isSignal hOther
    · intro hBoth
      exact absurd hBoth.2.isSignal hOther

/- A task that has received a signal had one. -/
theorem Signalled.ne_zero
    (hReceived : Signalled signals number) :
    signals ≠ 0#32 := by
  rintro rfl
  exact not_signalled_zero number hReceived

end KszDriver
