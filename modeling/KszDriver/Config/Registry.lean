import KszDriver.Config.ConfigFile
import KszDriver.Core.Machine
import KszDriver.Device.Types
import Mathlib.Data.Fintype.Basic

/-
  The static variables of `configfile.c` over any order of
  calls: which file handle and which object for `ReadArgs`
  they hold, and what has become of all others.

  `RegistryDestroy` closes the file but does not clear
  `configFileOpen`, and `RegistryInit` closes the file of an
  earlier call but does not free its object.

  Main declarations:
    * `Registry`, `registryInit`, `registryDestroy`
    * `DosItem`, `touchedByKey`
    * `registryMachine`
    * `RegistryState.InStep`, `KeepsInStep`
    * `inStep_iff`
    * `noneOut_readConfigs`
-/

------------------------------------------------------------
-- Static Variables
------------------------------------------------------------

namespace KszDriver

/- `fh`, `rdargs`, `configFileOpen` and `linebuff`. -/
structure Registry where
  fh : ULONG
  rdargs : APTR
  configFileOpen : Bool
  linebuff : LineBuffer

/- What DOS hands out: file handles, and objects that
   `AllocDosObject` makes for `ReadArgs`. -/
inductive DosItem where
| fileHandle (fh : ULONG)
| rdArgs (rdargs : APTR)
deriving DecidableEq

/- What was handed out and given back, newest entry first. -/
abbrev DosLedger := List (Ledger.Entry DosItem)

/- An entry is made where a call has something to note. -/
def DosLedger.enter
    (c : Prop) [Decidable c]
    (entry : Ledger.Entry DosItem)
    (ledger : DosLedger) : DosLedger :=
  if c then entry :: ledger else ledger

/- `if (fh) Close(fh)` -/
def closeFile (fh : ULONG) (ledger : DosLedger) : DosLedger :=
  ledger.enter (fh ≠ 0#32) (.back (.fileHandle fh))

/- `RegistryInit`, for what `Open` and `AllocDosObject`
   return. -/
def registryInit
    (opened : ULONG)
    (allocated : APTR)
    (r : Registry)
    (ledger : DosLedger) : Registry × DosLedger :=
  let ledger := closeFile r.fh ledger
  let r := { r with fh := opened }
  let ledger := ledger.enter (opened ≠ 0#32)
    (.taken (.fileHandle opened))
  let r := { r with rdargs := allocated }
  let ledger := ledger.enter (allocated ≠ 0)
    (.taken (.rdArgs allocated))
  if r.fh ≠ 0#32 ∧ r.rdargs ≠ 0 then
    -- `RDA_ExtHelp` is cleared in the new object here.
    ({ r with configFileOpen := true }, ledger)
  else ({ r with configFileOpen := false }, ledger)

/- `RegistryDestroy`; it leaves `configFileOpen` as it is. -/
def registryDestroy
    (r : Registry)
    (ledger : DosLedger) : Registry × DosLedger :=
  let (r, ledger) :=
    if r.fh ≠ 0#32 then
      ({ r with fh := 0#32 }, closeFile r.fh ledger)
    else (r, ledger)
  if r.rdargs ≠ 0 then
    ({ r with rdargs := 0 },
      .back (.rdArgs r.rdargs) :: ledger)
  else (r, ledger)

------------------------------------------------------------
-- What a Read Touches
------------------------------------------------------------

section Touched

variable {ν : Type}

/-
  The items that the loop over the lines hands to DOS or
  stores to: the file at each `FGets`, the last of which finds
  the end, and the object for each line that is not skipped.
-/
def touchedByLines
    (readArgs : ArgsReader ν)
    (r : Registry) :
    List (List UBYTE) → LineBuffer → List DosItem
| [], _ => [.fileHandle r.fh]
| piece :: rest, b =>
    let lineStart := b.pos
    let b := b.fgets piece
    .fileHandle r.fh ::
      if Skipped (b.mem 0) then
        touchedByLines readArgs r rest b
      else
        let b := b.endLine.hand lineStart
        .rdArgs r.rdargs ::
          match readArgs b.source with
          | some (some _) => []
          | _ => touchedByLines readArgs r rest b

/- The items that reading a key touches; `Seek` comes
   first. -/
def touchedByKey
    (readArgs : ArgsReader ν)
    (r : Registry)
    (file : List UBYTE) : List DosItem :=
  if r.configFileOpen then
    .fileHandle r.fh ::
      touchedByLines readArgs r (filePieces file)
        { r.linebuff with pos := 0 }
  else []

end Touched

------------------------------------------------------------
-- Calls
------------------------------------------------------------

/-
  A call, with what DOS does in it: the values of `Open` and
  `AllocDosObject`, and the text that is read from the file.
-/
inductive RegistryCall where
| registryInit (opened : ULONG) (allocated : APTR)
| registryDestroy
| readKeyStr (key : CString) (default : Option CString)
    (file : List UBYTE)
| readKeyInt (key : CString) (default : ULONG)
    (file : List UBYTE)
| readKeyMacAddress (key : CString)
    (dstMacAddress defaultAddress : MacAddr)
    (file : List UBYTE)

/-
  A read that was made: whether `RegistryInit` had been
  successful and `RegistryDestroy` not been called since,
  whether the default was returned, and what was touched.
-/
structure RegistryRead where
  initialised : Bool
  defaulted : Bool
  touched : List DosItem

/- The static variables, with what is known of the calls. -/
structure RegistryState where
  statics : Registry
  ledger : DosLedger
  initialised : Bool
  reads : List RegistryRead

namespace RegistryState

/- A read ends with this value. -/
def endRead
    {α : Type} [DecidableEq α]
    (s : RegistryState)
    (linebuff : LineBuffer)
    (value default : α)
    (touched : List DosItem) : RegistryState :=
  { s with
    statics := { s.statics with linebuff }
    reads :=
      { initialised := s.initialised
        defaulted := decide (value = default)
        touched } :: s.reads }

/- A file or an object that is handed out is a new one. -/
def Allowed (s : RegistryState) : RegistryCall → Prop
| .registryInit opened allocated =>
    (opened ≠ 0#32 →
      ¬Ledger.IsOut (.fileHandle opened)
        (closeFile s.statics.fh s.ledger)) ∧
    (allocated ≠ 0 →
      ¬Ledger.IsOut (.rdArgs allocated) s.ledger)
| _ => True

section Next

variable (readArgs : CString → ArgsReader CString)
variable (readNumber : CString → ArgsReader ULONG)

/- What a call does. -/
def next (s : RegistryState) : RegistryCall → RegistryState
| .registryInit opened allocated =>
    let (statics, ledger) :=
      registryInit opened allocated s.statics s.ledger
    { s with
      statics, ledger
      initialised := decide (opened ≠ 0#32 ∧ allocated ≠ 0) }
| .registryDestroy =>
    let (statics, ledger) :=
      registryDestroy s.statics s.ledger
    { s with statics, ledger, initialised := false }
| .readKeyStr key default file =>
    let result := KszDriver.readKeyStr readArgs
      s.statics.configFileOpen file key default
      s.statics.linebuff
    s.endRead result.2 result.1 default
      (touchedByKey (readArgs key) s.statics file)
| .readKeyInt key default file =>
    let result := KszDriver.readKeyInt readNumber
      s.statics.configFileOpen file key default
      s.statics.linebuff
    s.endRead result.2 result.1 default
      (touchedByKey (readNumber (key ++ numberSuffix))
        s.statics file)
| .readKeyMacAddress key dstMacAddress defaultAddress file =>
    let result := KszDriver.readKeyStr readArgs
      s.statics.configFileOpen file key none
      s.statics.linebuff
    s.endRead result.2
      (KszDriver.readKeyMacAddress result.1 dstMacAddress
        defaultAddress)
      defaultAddress
      (touchedByKey (readArgs key) s.statics file)

end Next

/- The static variables as the driver is loaded. -/
def loaded : RegistryState where
  statics :=
    { fh := 0#32
      rdargs := 0
      configFileOpen := false
      linebuff := LineBuffer.untouched (fun _ => 0#8) }
  ledger := []
  initialised := false
  reads := []

end RegistryState

def registryMachine
    (readArgs : CString → ArgsReader CString)
    (readNumber : CString → ArgsReader ULONG) :
    Machine RegistryState RegistryCall where
  Start := fun s => s = RegistryState.loaded
  Allowed := RegistryState.Allowed
  next := RegistryState.next readArgs readNumber

------------------------------------------------------------
-- In Step
------------------------------------------------------------

/- The variables hold an item; zero is none. -/
def Registry.Holds (r : Registry) : DosItem → Prop
| .fileHandle fh => fh ≠ 0#32 ∧ r.fh = fh
| .rdArgs rdargs => rdargs ≠ 0 ∧ r.rdargs = rdargs

theorem Registry.holds_iff
    {r : Registry}
    {item : DosItem} :
    r.Holds item ↔
      (r.rdargs ≠ 0 ∧ DosItem.rdArgs r.rdargs = item) ∨
        (r.fh ≠ 0#32 ∧ DosItem.fileHandle r.fh = item) := by
  cases item with
  | fileHandle fh =>
      constructor
      · rintro ⟨hSome, rfl⟩
        exact .inr ⟨hSome, rfl⟩
      · rintro (⟨-, hSame⟩ | ⟨hSome, hSame⟩)
        · cases hSame
        · cases hSame
          exact ⟨hSome, rfl⟩
  | rdArgs rdargs =>
      constructor
      · rintro ⟨hSome, rfl⟩
        exact .inl ⟨hSome, rfl⟩
      · rintro (⟨hSome, hSame⟩ | ⟨-, hSame⟩)
        · cases hSame
          exact ⟨hSome, rfl⟩
        · cases hSame

namespace RegistryState

/-
  The variables are in step: `configFileOpen` is set only
  while there are an open file and an object, nothing was
  given back twice, what is still out is held by a variable,
  and every read without a successful `RegistryInit` before
  it returned its default and touched nothing.
-/
structure InStep (s : RegistryState) : Prop where
  configFileOpen :
    s.statics.configFileOpen = true →
      Ledger.IsOut (.fileHandle s.statics.fh) s.ledger ∧
        Ledger.IsOut (.rdArgs s.statics.rdargs) s.ledger
  backOnce : Ledger.Balanced s.ledger
  noneDropped : ∀ item,
    Ledger.IsOut item s.ledger → s.statics.Holds item
  defaults : ∀ read ∈ s.reads,
    read.initialised = false →
      read.defaulted = true ∧ read.touched = []

/- Exactly what the variables hold is out. -/
structure Accounted (s : RegistryState) : Prop where
  balanced : Ledger.Balanced s.ledger
  out : ∀ item,
    Ledger.IsOut item s.ledger ↔ s.statics.Holds item

/- What is kept for `InStep`. -/
structure Kept (s : RegistryState) : Prop where
  accounted : s.Accounted
  configFileOpen :
    s.statics.configFileOpen = true →
      s.initialised = true ∧ s.statics.fh ≠ 0#32 ∧
        s.statics.rdargs ≠ 0
  defaults : ∀ read ∈ s.reads,
    read.initialised = false →
      read.defaulted = true ∧ read.touched = []

/- The file is destroyed only when it is not in use, and
   initialised only when no object is held. -/
def KeepsInStep (s : RegistryState) : RegistryCall → Prop
| .registryInit _ _ => s.statics.rdargs = 0
| .registryDestroy => s.statics.configFileOpen = false
| _ => True

end RegistryState

------------------------------------------------------------
-- Entries
------------------------------------------------------------

section Entries

variable {ledger : DosLedger} {item other : DosItem}
variable {c : Prop} [Decidable c]

theorem isOut_enter_taken :
    Ledger.IsOut item (ledger.enter c (.taken other)) ↔
      (c ∧ other = item) ∨ Ledger.IsOut item ledger := by
  unfold DosLedger.enter
  by_cases hCond : c
  · rw [if_pos hCond, and_iff_right hCond]
    exact Iff.rfl
  · simp [hCond]

theorem isOut_enter_back :
    Ledger.IsOut item (ledger.enter c (.back other)) ↔
      (c → other ≠ item) ∧ Ledger.IsOut item ledger := by
  unfold DosLedger.enter
  by_cases hCond : c
  · rw [if_pos hCond, forall_prop_of_true hCond]
    exact Iff.rfl
  · simp [hCond]

theorem balanced_enter_taken
    (hBalanced : Ledger.Balanced ledger)
    (hNew : c → ¬Ledger.IsOut other ledger) :
    Ledger.Balanced (ledger.enter c (.taken other)) := by
  unfold DosLedger.enter
  by_cases hCond : c
  · rw [if_pos hCond]
    exact ⟨hNew hCond, hBalanced⟩
  · rw [if_neg hCond]
    exact hBalanced

theorem balanced_enter_back
    (hBalanced : Ledger.Balanced ledger)
    (hOut : c → Ledger.IsOut other ledger) :
    Ledger.Balanced (ledger.enter c (.back other)) := by
  unfold DosLedger.enter
  by_cases hCond : c
  · rw [if_pos hCond]
    exact ⟨hOut hCond, hBalanced⟩
  · rw [if_neg hCond]
    exact hBalanced

end Entries

------------------------------------------------------------
-- What the Calls Do
------------------------------------------------------------

section Statics

variable (r : Registry) (ledger : DosLedger)
variable (opened : ULONG) (allocated : APTR)

theorem registryInit_eq :
    registryInit opened allocated r ledger =
      ({ r with
          fh := opened
          rdargs := allocated
          configFileOpen :=
            decide (opened ≠ 0#32 ∧ allocated ≠ 0) },
        ((closeFile r.fh ledger).enter (opened ≠ 0#32)
            (.taken (.fileHandle opened))).enter
          (allocated ≠ 0) (.taken (.rdArgs allocated))) := by
  unfold registryInit
  dsimp only
  by_cases hBoth : opened ≠ 0#32 ∧ allocated ≠ 0
  · rw [if_pos hBoth, decide_eq_true hBoth]
  · rw [if_neg hBoth, decide_eq_false hBoth]

theorem registryDestroy_eq :
    registryDestroy r ledger =
      ({ r with fh := 0#32, rdargs := 0 },
        (closeFile r.fh ledger).enter (r.rdargs ≠ 0)
          (.back (.rdArgs r.rdargs))) := by
  rcases r with ⟨fh, rdargs, configFileOpen, linebuff⟩
  unfold registryDestroy closeFile DosLedger.enter
  dsimp only
  by_cases hFile : fh = 0#32 <;> by_cases hArgs : rdargs = 0 <;>
    simp [hFile, hArgs]

end Statics

namespace RegistryState

variable {s : RegistryState}

/- Without the file no key is found and nothing touched. -/
theorem touchedByKey_closed
    {ν : Type}
    (readArgs : ArgsReader ν)
    {r : Registry}
    (hClosed : r.configFileOpen = false)
    (file : List UBYTE) :
    touchedByKey readArgs r file = [] := by
  unfold touchedByKey
  rw [hClosed]
  rfl

/- A file is closed that is out. -/
theorem Accounted.closeFile
    (hAccounted : s.Accounted) :
    Ledger.Balanced (closeFile s.statics.fh s.ledger) ∧
      ∀ item,
        Ledger.IsOut item (closeFile s.statics.fh s.ledger) ↔
          item = .rdArgs s.statics.rdargs ∧
            s.statics.rdargs ≠ 0 := by
  unfold KszDriver.closeFile
  constructor
  · apply balanced_enter_back hAccounted.balanced
    intro hFile
    exact (hAccounted.out _).mpr ⟨hFile, rfl⟩
  · intro item
    rw [isOut_enter_back, hAccounted.out]
    cases item with
    | fileHandle fh =>
        have hOnly :
            ¬((s.statics.fh ≠ 0#32 →
                DosItem.fileHandle s.statics.fh ≠
                  .fileHandle fh) ∧
              s.statics.Holds (.fileHandle fh)) := by
          rintro ⟨hOther, hSome, rfl⟩
          exact hOther hSome rfl
        exact iff_of_false hOnly (fun hItem => nomatch hItem.1)
    | rdArgs rdargs =>
        constructor
        · rintro ⟨-, hSome, rfl⟩
          exact ⟨rfl, hSome⟩
        · rintro ⟨hSame, hSome⟩
          injection hSame with hSame
          rw [hSame]
          exact ⟨fun _ => nofun, hSome, rfl⟩

/- Without an object to lose, `RegistryInit` holds exactly
   what it got. -/
theorem Accounted.registryInit
    {opened : ULONG}
    {allocated : APTR}
    (hAccounted : s.Accounted)
    (hNone : s.statics.rdargs = 0)
    {t : RegistryState}
    (hResult :
      (t.statics, t.ledger) =
        KszDriver.registryInit opened allocated s.statics
          s.ledger) :
    t.Accounted := by
  rcases hAccounted.closeFile with ⟨hBalanced, hOut⟩
  have hClosed : ∀ item, ¬Ledger.IsOut item
      (KszDriver.closeFile s.statics.fh s.ledger) := by
    intro item hItem
    exact ((hOut item).mp hItem).2 hNone
  rw [registryInit_eq, Prod.mk.injEq] at hResult
  constructor
  · rw [hResult.2]
    apply balanced_enter_taken
    · exact balanced_enter_taken hBalanced (fun _ => hClosed _)
    · intro _
      rw [isOut_enter_taken]
      rintro (⟨-, hSame⟩ | hOld)
      · cases hSame
      · exact hClosed _ hOld
  · intro item
    rw [hResult.1, hResult.2, isOut_enter_taken,
      isOut_enter_taken, or_iff_left (hClosed item)]
    rw [Registry.holds_iff]

/- After `RegistryDestroy` nothing is out. -/
theorem Accounted.registryDestroy
    (hAccounted : s.Accounted)
    {t : RegistryState}
    (hResult :
      (t.statics, t.ledger) =
        KszDriver.registryDestroy s.statics s.ledger) :
    t.Accounted := by
  rcases hAccounted.closeFile with ⟨hBalanced, hOut⟩
  rw [registryDestroy_eq, Prod.mk.injEq] at hResult
  constructor
  · rw [hResult.2]
    apply balanced_enter_back hBalanced
    intro hSome
    exact (hOut _).mpr ⟨rfl, hSome⟩
  · intro item
    rw [hResult.1, hResult.2, isOut_enter_back, hOut]
    have hNothing :
        ¬((s.statics.rdargs ≠ 0 →
            DosItem.rdArgs s.statics.rdargs ≠ item) ∧
          item = .rdArgs s.statics.rdargs ∧
            s.statics.rdargs ≠ 0) := by
      rintro ⟨hOther, rfl, hSome⟩
      exact hOther hSome rfl
    apply iff_of_false hNothing
    simp [Registry.holds_iff]

theorem Kept.closed
    (hKept : s.Kept)
    (hBefore : s.initialised = false) :
    s.statics.configFileOpen = false := by
  rw [← Bool.not_eq_true]
  intro hOpen
  have hInit := (hKept.configFileOpen hOpen).1
  rw [hBefore] at hInit
  cases hInit

/- A read leaves the handles alone; without the file it
   returns its default. -/
theorem Kept.endRead
    {α : Type} [DecidableEq α]
    (hKept : s.Kept)
    (linebuff : LineBuffer)
    {value default : α}
    {touched : List DosItem}
    (hDefault :
      s.statics.configFileOpen = false →
        value = default ∧ touched = []) :
    (s.endRead linebuff value default touched).Kept where
  accounted := ⟨hKept.accounted.balanced, hKept.accounted.out⟩
  configFileOpen := hKept.configFileOpen
  defaults := by
    intro read hRead hBefore
    rcases List.mem_cons.mp hRead with rfl | hOld
    · have hClosed := hKept.closed hBefore
      rcases hDefault hClosed with ⟨hSame, hNone⟩
      exact ⟨decide_eq_true hSame, hNone⟩
    · exact hKept.defaults read hOld hBefore

------------------------------------------------------------
-- Steps
------------------------------------------------------------

theorem Kept.loaded : RegistryState.loaded.Kept where
  accounted := by
    refine ⟨trivial, fun item => ?_⟩
    rw [Registry.holds_iff]
    simp [RegistryState.loaded, Ledger.IsOut]
  configFileOpen := by
    intro hOpen
    cases hOpen
  defaults := by
    intro read hRead
    cases hRead

theorem Kept.inStep (hKept : s.Kept) : s.InStep where
  configFileOpen := by
    intro hOpen
    rcases hKept.configFileOpen hOpen with ⟨-, hFile, hArgs⟩
    exact ⟨(hKept.accounted.out _).mpr ⟨hFile, rfl⟩,
      (hKept.accounted.out _).mpr ⟨hArgs, rfl⟩⟩
  backOnce := hKept.accounted.balanced
  noneDropped := fun item => (hKept.accounted.out item).mp
  defaults := hKept.defaults

section Steps

variable {readArgs : CString → ArgsReader CString}
variable {readNumber : CString → ArgsReader ULONG}

theorem next_registryInit
    (s : RegistryState)
    (opened : ULONG)
    (allocated : APTR) :
    s.next readArgs readNumber
        (.registryInit opened allocated) =
      { s with
        statics :=
          { s.statics with
            fh := opened
            rdargs := allocated
            configFileOpen :=
              decide (opened ≠ 0#32 ∧ allocated ≠ 0) }
        ledger :=
          ((KszDriver.closeFile s.statics.fh s.ledger).enter
              (opened ≠ 0#32)
              (.taken (.fileHandle opened))).enter
            (allocated ≠ 0) (.taken (.rdArgs allocated))
        initialised :=
          decide (opened ≠ 0#32 ∧ allocated ≠ 0) } :=
  congrArg
    (fun result : Registry × DosLedger =>
      { s with
        statics := result.1
        ledger := result.2
        initialised :=
          decide (opened ≠ 0#32 ∧ allocated ≠ 0) })
    (registryInit_eq s.statics s.ledger opened allocated)

theorem next_registryDestroy (s : RegistryState) :
    s.next readArgs readNumber .registryDestroy =
      { s with
        statics := { s.statics with fh := 0#32, rdargs := 0 }
        ledger :=
          (KszDriver.closeFile s.statics.fh s.ledger).enter
            (s.statics.rdargs ≠ 0)
            (.back (.rdArgs s.statics.rdargs))
        initialised := false } :=
  congrArg
    (fun result : Registry × DosLedger =>
      { s with
        statics := result.1
        ledger := result.2
        initialised := false })
    (registryDestroy_eq s.statics s.ledger)

theorem Kept.next
    {call : RegistryCall}
    (hKept : s.Kept)
    (hGuard : s.KeepsInStep call) :
    (s.next readArgs readNumber call).Kept := by
  cases call with
  | registryInit opened allocated =>
      refine ⟨?_, ?_, hKept.defaults⟩
      · exact hKept.accounted.registryInit hGuard rfl
      · rw [next_registryInit]
        intro hOpen
        exact ⟨hOpen, of_decide_eq_true hOpen⟩
  | registryDestroy =>
      refine ⟨hKept.accounted.registryDestroy rfl, ?_,
        hKept.defaults⟩
      rw [next_registryDestroy]
      intro hOpen
      dsimp only at hOpen
      rw [show s.statics.configFileOpen = false from hGuard]
        at hOpen
      cases hOpen
  | readKeyStr key default file =>
      apply hKept.endRead
      intro hClosed
      rw [touchedByKey_closed _ hClosed, hClosed]
      exact ⟨rfl, rfl⟩
  | readKeyInt key default file =>
      apply hKept.endRead
      intro hClosed
      rw [touchedByKey_closed _ hClosed, hClosed]
      exact ⟨rfl, rfl⟩
  | readKeyMacAddress key dstMacAddress defaultAddress file =>
      apply hKept.endRead
      intro hClosed
      rw [touchedByKey_closed _ hClosed, hClosed]
      exact ⟨rfl, rfl⟩

/- An object that is held is lost by `RegistryInit`. -/
theorem Kept.dropped
    {opened : ULONG}
    {allocated : APTR}
    (hKept : s.Kept)
    (hAllowed : s.Allowed (.registryInit opened allocated))
    (hInStep :
      (s.next readArgs readNumber
        (.registryInit opened allocated)).InStep) :
    s.statics.rdargs = 0 := by
  by_contra hSome
  have hOut : Ledger.IsOut (.rdArgs s.statics.rdargs)
      s.ledger :=
    (hKept.accounted.out _).mpr ⟨hSome, rfl⟩
  have hStill : Ledger.IsOut (.rdArgs s.statics.rdargs)
      (s.next readArgs readNumber
        (.registryInit opened allocated)).ledger := by
    rw [next_registryInit, isOut_enter_taken,
      isOut_enter_taken]
    exact .inr (.inr
      ((hKept.accounted.closeFile.2 _).mpr ⟨rfl, hSome⟩))
  have hHeld := hInStep.noneDropped _ hStill
  rw [next_registryInit] at hHeld
  have hSame : allocated = s.statics.rdargs := hHeld.2
  subst hSame
  exact hAllowed.2 hSome hOut

/- A file in use does not stay in step with
   `RegistryDestroy`. -/
theorem Kept.destroyed
    (hKept : s.Kept)
    (hInStep :
      (s.next readArgs readNumber .registryDestroy).InStep) :
    s.statics.configFileOpen = false := by
  have hNext : (s.next readArgs readNumber
      .registryDestroy).Accounted :=
    hKept.accounted.registryDestroy rfl
  rw [← Bool.not_eq_true]
  intro hOpen
  have hStillOpen : (s.next readArgs readNumber
      .registryDestroy).statics.configFileOpen = true := by
    rw [next_registryDestroy]
    exact hOpen
  have hHeld := (hNext.out _).mp
    (hInStep.configFileOpen hStillOpen).1
  apply hHeld.1
  rw [next_registryDestroy]

/- A step stays in step exactly when it meets the
   condition. -/
theorem Kept.staysInStep_iff
    {call : RegistryCall}
    (hKept : s.Kept)
    (hAllowed : s.Allowed call) :
    (s.next readArgs readNumber call).InStep ↔
      s.KeepsInStep call := by
  constructor
  · intro hInStep
    cases call with
    | registryInit opened allocated =>
        exact hKept.dropped hAllowed hInStep
    | registryDestroy => exact hKept.destroyed hInStep
    | readKeyStr key default file => trivial
    | readKeyInt key default file => trivial
    | readKeyMacAddress key dstMacAddress defaultAddress
        file => trivial
  · exact fun hGuard => (hKept.next hGuard).inStep

end Steps

/- A call leaves the variables in step. -/
def StaysInStep
    (readArgs : CString → ArgsReader CString)
    (readNumber : CString → ArgsReader ULONG)
    (s : RegistryState)
    (call : RegistryCall) : Prop :=
  (s.next readArgs readNumber call).InStep

end RegistryState

------------------------------------------------------------
-- Runs
------------------------------------------------------------

open RegistryState

/-
  The variables are in step all along a run exactly when the
  registry is destroyed only while `configFileOpen` is not
  set, and initialised only while no object is held.
-/
theorem inStep_iff
    (readArgs : CString → ArgsReader CString)
    (readNumber : CString → ArgsReader ULONG)
    (calls : List RegistryCall) :
    (loaded.InStep ∧
      (registryMachine readArgs readNumber).Runs
        (StaysInStep readArgs readNumber) calls loaded) ↔
      (registryMachine readArgs readNumber).Runs KeepsInStep
        calls loaded := by
  rw [and_iff_right Kept.loaded.inStep]
  apply Machine.runs_congr (I := RegistryState.Kept)
  · intro s call hKept hAllowed
    exact hKept.staysInStep_iff hAllowed
  · intro s call hKept _ hGuard
    exact hKept.next hGuard
  · exact Kept.loaded

/- An empty file is opened, closed and read. -/
def readAfterDestroy : List RegistryCall :=
  [.registryInit 4#32 16, .registryDestroy,
    .readKeyStr [0x4d#8, 0x41#8, 0x43#8] none []]

/- The file is initialised twice. -/
def initialisedTwice : List RegistryCall :=
  [.registryInit 4#32 16, .registryInit 8#32 32]

/- The read hands the handle 0 to DOS; the first object is
   lost by the second call. -/
theorem not_inStep_readAfterDestroy :
    ((registryMachine (fun _ _ => none) (fun _ _ => none)).Runs
        Machine.Free readAfterDestroy loaded ∧
      ¬((registryMachine (fun _ _ => none)
        (fun _ _ => none)).run readAfterDestroy
          loaded).InStep) ∧
    (registryMachine (fun _ _ => none) (fun _ _ => none)).Runs
        Machine.Free initialisedTwice loaded ∧
      ¬((registryMachine (fun _ _ => none)
        (fun _ _ => none)).run initialisedTwice
          loaded).InStep := by
  refine ⟨⟨?_, ?_⟩, ?_, ?_⟩
  · exact ⟨⟨⟨fun _ => id, fun _ => id⟩, trivial⟩,
      ⟨trivial, trivial⟩, ⟨trivial, trivial⟩, trivial⟩
  · intro hInStep
    have hDefault := hInStep.defaults _ List.mem_cons_self rfl
    exact List.cons_ne_nil _ _ hDefault.2
  · refine ⟨⟨⟨fun _ => id, fun _ => id⟩, trivial⟩,
      ⟨⟨fun _ => ?_, fun _ => ?_⟩, trivial⟩, trivial⟩
    · decide
    · decide
  · intro hInStep
    have hHeld := hInStep.noneDropped (.rdArgs 16) (by decide)
    exact absurd hHeld.2 (by decide)

------------------------------------------------------------
-- The Configuration of the Driver
------------------------------------------------------------

def fallbackMacAddress : MacAddr :=
  ![0x02#8, 0x34#8, 0x56#8, 0x78#8, 0x9a#8, 0xab#8]

/- What DOS does in one `ReadConfig`, and the address that
   the unit has. -/
structure ConfigRead where
  opened : ULONG
  allocated : APTR
  file : List UBYTE
  stAddr : MacAddr

/- The calls of `ReadConfig`, for the keys `DEBUGLEV` and
   `MAC`. -/
def readConfigCalls (config : ConfigRead) : List RegistryCall :=
  [.registryInit config.opened config.allocated,
    .readKeyInt
      [0x44#8, 0x45#8, 0x42#8, 0x55#8, 0x47#8, 0x4c#8, 0x45#8,
        0x56#8] 0#32 config.file,
    .readKeyMacAddress [0x4d#8, 0x41#8, 0x43#8] config.stAddr
      fallbackMacAddress config.file,
    .registryDestroy]

/- Every item that a read touches is out. -/
def touchesOut
    (readArgs : CString → ArgsReader CString)
    (readNumber : CString → ArgsReader ULONG)
    (s : RegistryState) : RegistryCall → Prop
| .readKeyStr key _ file
| .readKeyMacAddress key _ _ file =>
    ∀ item ∈ touchedByKey (readArgs key) s.statics file,
      Ledger.IsOut item s.ledger
| .readKeyInt key _ file =>
    ∀ item ∈ touchedByKey (readNumber (key ++ numberSuffix))
        s.statics file,
      Ledger.IsOut item s.ledger
| _ => True

theorem mem_touchedByLines
    {ν : Type}
    {readArgs : ArgsReader ν}
    {r : Registry}
    {item : DosItem}
    (lines : List (List UBYTE))
    (b : LineBuffer)
    (hItem : item ∈ touchedByLines readArgs r lines b) :
    item = .fileHandle r.fh ∨ item = .rdArgs r.rdargs := by
  induction lines generalizing b with
  | nil => exact .inl (List.mem_singleton.mp hItem)
  | cons piece rest ih =>
      unfold touchedByLines at hItem
      dsimp only at hItem
      rcases List.mem_cons.mp hItem with hFile | hItem
      · exact .inl hFile
      · split at hItem
        next => exact ih _ hItem
        next =>
          rcases List.mem_cons.mp hItem with hArgs | hItem
          · exact .inr hArgs
          · split at hItem
            next => cases hItem
            next => exact ih _ hItem

namespace RegistryState

variable {s : RegistryState}

/- The variables hold nothing. -/
structure Idle (s : RegistryState) : Prop where
  accounted : s.Accounted
  fh : s.statics.fh = 0#32
  rdargs : s.statics.rdargs = 0

/- While `configFileOpen` is set, they hold both. -/
structure Usable (s : RegistryState) : Prop where
  accounted : s.Accounted
  configFileOpen :
    s.statics.configFileOpen = true →
      s.statics.fh ≠ 0#32 ∧ s.statics.rdargs ≠ 0

theorem Usable.endRead
    {α : Type} [DecidableEq α]
    (hUsable : s.Usable)
    (linebuff : LineBuffer)
    (value default : α)
    (touched : List DosItem) :
    (s.endRead linebuff value default touched).Usable :=
  ⟨⟨hUsable.accounted.balanced, hUsable.accounted.out⟩,
    hUsable.configFileOpen⟩

theorem Usable.isOut_of_mem_touchedByKey
    {ν : Type}
    {readArgs : ArgsReader ν}
    {file : List UBYTE}
    {item : DosItem}
    (hUsable : s.Usable)
    (hItem : item ∈ touchedByKey readArgs s.statics file) :
    Ledger.IsOut item s.ledger := by
  unfold touchedByKey at hItem
  split at hItem
  next hOpen =>
    rcases hUsable.configFileOpen hOpen with ⟨hFile, hArgs⟩
    have hEither :
        item = .fileHandle s.statics.fh ∨
          item = .rdArgs s.statics.rdargs := by
      rcases List.mem_cons.mp hItem with hFirst | hLater
      · exact .inl hFirst
      · exact mem_touchedByLines _ _ hLater
    rw [hUsable.accounted.out]
    rcases hEither with rfl | rfl
    · exact ⟨hFile, rfl⟩
    · exact ⟨hArgs, rfl⟩
  next => cases hItem

end RegistryState

section Configs

variable {readArgs : CString → ArgsReader CString}
variable {readNumber : CString → ArgsReader ULONG}
variable {s : RegistryState}

theorem idle_next_registryDestroy
    (hAccounted : s.Accounted) :
    (s.next readArgs readNumber .registryDestroy).Idle := by
  refine ⟨hAccounted.registryDestroy rfl, ?_, ?_⟩
  · rw [next_registryDestroy]
  · rw [next_registryDestroy]

/- `ReadConfig` touches only what is open, though
   `configFileOpen` may still be set from the call before,
   and leaves nothing behind. -/
theorem idle_readConfigCalls
    {config : ConfigRead}
    (hIdle : s.Idle)
    (hRuns :
      (registryMachine readArgs readNumber).Runs Machine.Free
        (readConfigCalls config) s) :
    ((registryMachine readArgs readNumber).run
        (readConfigCalls config) s).Idle ∧
      (registryMachine readArgs readNumber).Runs
        (touchesOut readArgs readNumber)
        (readConfigCalls config) s := by
  rcases hRuns with ⟨⟨hAllowed, -⟩, -⟩
  have hInit : (s.next readArgs readNumber (.registryInit
      config.opened config.allocated)).Usable := by
    refine ⟨hIdle.accounted.registryInit hIdle.rdargs rfl, ?_⟩
    rw [next_registryInit]
    exact fun hOpen => of_decide_eq_true hOpen
  refine ⟨?_, ⟨hAllowed, trivial⟩, ⟨trivial, ?_⟩,
    ⟨trivial, ?_⟩, ⟨trivial, trivial⟩, trivial⟩
  · refine @idle_next_registryDestroy readArgs readNumber _ ?_
    apply Usable.accounted
    apply Usable.endRead
    apply Usable.endRead
    exact hInit
  · exact fun item hItem =>
      hInit.isOut_of_mem_touchedByKey hItem
  · exact fun item hItem =>
      (hInit.endRead _ _ _ _).isOut_of_mem_touchedByKey hItem

theorem idle_readConfigs
    (configs : List ConfigRead)
    (hIdle : s.Idle)
    (hRuns :
      (registryMachine readArgs readNumber).Runs Machine.Free
        (configs.flatMap readConfigCalls) s) :
    ((registryMachine readArgs readNumber).run
        (configs.flatMap readConfigCalls) s).Idle ∧
      (registryMachine readArgs readNumber).Runs
        (touchesOut readArgs readNumber)
        (configs.flatMap readConfigCalls) s := by
  induction configs generalizing s with
  | nil => exact ⟨hIdle, trivial⟩
  | cons config configs ih =>
      rw [List.flatMap_cons, Machine.runs_append] at hRuns ⊢
      rw [Machine.run_append]
      rcases idle_readConfigCalls hIdle hRuns.1 with
        ⟨hAfter, hFirst⟩
      rcases ih hAfter hRuns.2 with ⟨hLast, hRest⟩
      exact ⟨hLast, hFirst, hRest⟩

/-
  However often the driver reads its configuration, it
  touches only what is open, gives nothing back twice, and
  has nothing out in the end.
-/
theorem noneOut_readConfigs
    (configs : List ConfigRead)
    (hRuns :
      (registryMachine readArgs readNumber).Runs Machine.Free
        (configs.flatMap readConfigCalls) loaded) :
    (∀ item, ¬Ledger.IsOut item
      ((registryMachine readArgs readNumber).run
        (configs.flatMap readConfigCalls) loaded).ledger) ∧
      Ledger.Balanced
        ((registryMachine readArgs readNumber).run
          (configs.flatMap readConfigCalls) loaded).ledger ∧
      (registryMachine readArgs readNumber).Runs
        (touchesOut readArgs readNumber)
        (configs.flatMap readConfigCalls) loaded := by
  have hLoaded : loaded.Idle :=
    ⟨Kept.loaded.accounted, rfl, rfl⟩
  rcases idle_readConfigs configs hLoaded hRuns with
    ⟨hIdle, hTouched⟩
  refine ⟨?_, hIdle.accounted.balanced, hTouched⟩
  intro item
  rw [hIdle.accounted.out, Registry.holds_iff, hIdle.fh,
    hIdle.rdargs]
  simp

/- An empty file, as it was opened. -/
def emptyConfig : ConfigRead where
  opened := 4#32
  allocated := 16
  file := []
  stAddr := fun _ => 0#8

/- It is read twice, by the same handle and object. -/
theorem noneOut_readConfigs_twice :
    (∀ item, ¬Ledger.IsOut item
      ((registryMachine (fun _ _ => none) (fun _ _ => none)).run
        ([emptyConfig, emptyConfig].flatMap
          readConfigCalls) loaded).ledger) ∧
      Ledger.Balanced
        ((registryMachine (fun _ _ => none)
          (fun _ _ => none)).run
            ([emptyConfig, emptyConfig].flatMap
              readConfigCalls) loaded).ledger ∧
      (registryMachine (fun _ _ => none)
        (fun _ _ => none)).Runs
          (touchesOut (fun _ _ => none) (fun _ _ => none))
          ([emptyConfig, emptyConfig].flatMap
            readConfigCalls) loaded := by
  apply noneOut_readConfigs
  refine ⟨⟨⟨fun _ => id, fun _ => id⟩, trivial⟩,
    ⟨trivial, trivial⟩, ⟨trivial, trivial⟩, ⟨trivial, trivial⟩,
    ⟨⟨fun _ => ?_, fun _ => ?_⟩, trivial⟩,
    ⟨trivial, trivial⟩, ⟨trivial, trivial⟩, ⟨trivial, trivial⟩,
    trivial⟩
  · decide
  · decide

end Configs

end KszDriver
