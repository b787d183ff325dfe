import KszDriver.Device.EntryPoints
import KszDriver.Device.System

/-
  The callbacks of an opener, and where the driver jumps to
  when it calls them.

  A copy function that is not given is replaced by the
  address of the field `h_Entry` of the dummy hook, and not
  by the function that the field points to.

  Main declarations:
    * `CodeMap`, `CodeMap.Honest`
    * `bms_deviceOpen`
    * `SelectsProperly`, `selectsProperly_iff`
-/

------------------------------------------------------------
-- Functions and Hooks
------------------------------------------------------------

namespace KszDriver

/-
  Where functions begin in memory, and the field `h_Entry` of
  every hook.  That of the dummy hook points to
  `FakePFHookEntry`; the field itself is data.
-/
structure CodeMap where
  Function : APTR → Prop
  hEntry : APTR → APTR
  fakePfHookEntry : Function (hEntry edDummyPfHook)
  data : ¬Function edDummyPfHookEntry

/- The tags that come with a function for copying. -/
def CopyTag (tag : ULONG) : Prop :=
  tag = s2CopyToBuff16 ∨ tag = s2CopyToBuff ∨
    tag = s2CopyFromBuff16 ∨ tag = s2CopyFromBuff

/- The client passes functions and hooks. -/
structure CodeMap.Honest
    (code : CodeMap)
    (tags : List (ULONG × APTR)) : Prop where
  functions : ∀ item ∈ tags, CopyTag item.1 →
    item.2 ≠ 0 ∧ code.Function item.2
  hooks : ∀ item ∈ tags, item.1 = s2PacketFilter →
    item.2 ≠ 0 ∧ code.Function (code.hEntry item.2)

/- Where `CopyBuf` and `CallFilterHook` jump to. -/
def copyBufTarget (funcPtr : APTR) : APTR :=
  funcPtr

def CodeMap.callFilterHookTarget
    (code : CodeMap) (hook : APTR) : APTR :=
  code.hEntry hook

------------------------------------------------------------
-- The Callbacks of an Opener
------------------------------------------------------------

/- A callback is the one that was given, or else some
   function. -/
def CodeMap.Chooses
    (code : CodeMap)
    (given : Option APTR)
    (callback : APTR) : Prop :=
  match given with
  | some function => callback = function
  | none => code.Function callback

/- The callbacks are those of the tags, the ones for words
   before the others, and all of them can be called. -/
structure SelectsProperly
    (code : CodeMap)
    (tags : List (ULONG × APTR))
    (bm : BufferManagement) : Prop where
  copyToBuffer :
    code.Chooses
      ((findTagItem s2CopyToBuff16 tags).or
        (findTagItem s2CopyToBuff tags))
      bm.copyToBuffer
  copyFromBuffer :
    code.Chooses
      ((findTagItem s2CopyFromBuff16 tags).or
        (findTagItem s2CopyFromBuff tags))
      bm.copyFromBuffer
  packetFilterHook :
    bm.packetFilterHook =
      (findTagItem s2PacketFilter tags).getD edDummyPfHook
  jumps :
    code.Function (copyBufTarget bm.copyToBuffer) ∧
      code.Function (copyBufTarget bm.copyFromBuffer) ∧
      code.Function
        (code.callFilterHookTarget bm.packetFilterHook)

/- Functions for both directions are given. -/
def GivesCopyFunctions (tags : List (ULONG × APTR)) : Prop :=
  ((findTagItem s2CopyToBuff16 tags).or
      (findTagItem s2CopyToBuff tags)).isSome = true ∧
    ((findTagItem s2CopyFromBuff16 tags).or
      (findTagItem s2CopyFromBuff tags)).isSome = true

/- What a successful open has entered. -/
theorem bms_deviceOpen
    (ios2 : APTR)
    (s2unit s2flags : ULONG)
    (env : OpenEnv)
    (s : Driver)
    (hOpened :
      ((deviceOpen ios2 s2unit s2flags env s).reqs
        ios2).ioError = s2errNoError) :
    (deviceOpen ios2 s2unit s2flags env s).bms
        ((deviceOpen ios2 s2unit s2flags env s).reqs
          ios2).bufferManagement =
      newBufferManagement env.tags := by
  revert hOpened
  apply Driver.deviceOpen_rule (I := fun _ => True)
    (J := fun s =>
      (s.reqs ios2).ioError = s2errNoError →
        s.bms (s.reqs ios2).bufferManagement =
          newBufferManagement env.tags)
  · exact fun _ _ _ _ => trivial
  · exact fun _ _ hEntered => hEntered
  · exact fun _ _ => trivial
  · exact fun _ _ => trivial
  · intro s _ hError
    have hFailed :
        ((openFailed ios2 s).reqs ios2).ioError =
          ioerrOpenFail := by
      simp [openFailed, Driver.setReq]
    rw [hFailed] at hError
    exact absurd hError (by decide)
  · intro s _ _ _ _
    simp [addOpener, Driver.setReq, Driver.setBase,
      Driver.setUnit]
  · trivial

section Selection

variable {code : CodeMap} {tags : List (ULONG × APTR)}

/- An item that is found is in the list. -/
theorem mem_of_findTagItem
    {tag : ULONG}
    {data : APTR}
    (hFound : findTagItem tag tags = some data) :
    (tag, data) ∈ tags := by
  unfold findTagItem at hFound
  obtain ⟨item, hItem, hData⟩ :=
    Option.map_eq_some_iff.mp hFound
  have hTag : item.1 = tag := by
    simpa using List.find?_some hItem
  rw [← hTag, ← hData]
  exact List.mem_of_find?_eq_some hItem

/- A callback that was given is a function. -/
theorem function_of_given
    (hHonest : code.Honest tags)
    {tag16 tag : ULONG}
    (hTag16 : CopyTag tag16)
    (hTag : CopyTag tag)
    {data : APTR}
    (hGiven : (findTagItem tag16 tags).or
      (findTagItem tag tags) = some data) :
    data ≠ 0 ∧ code.Function data := by
  rcases Option.or_eq_some_iff.mp hGiven with
    hFound | ⟨-, hFound⟩
  · exact hHonest.functions _ (mem_of_findTagItem hFound) hTag16
  · exact hHonest.functions _ (mem_of_findTagItem hFound) hTag

/- The callback is the one given, or the field of the dummy
   hook. -/
theorem chooses_iff
    (hHonest : code.Honest tags)
    {tag16 tag : ULONG}
    (hTag16 : CopyTag tag16)
    (hTag : CopyTag tag)
    (callback : APTR)
    (hCallback :
      callback =
        (if (findTagItem tag16 tags).getD
              ((findTagItem tag tags).getD 0) = 0 then
            edDummyPfHookEntry
          else
            (findTagItem tag16 tags).getD
              ((findTagItem tag tags).getD 0))) :
    (code.Chooses
        ((findTagItem tag16 tags).or (findTagItem tag tags))
        callback ∧
      code.Function (copyBufTarget callback)) ↔
      ((findTagItem tag16 tags).or
        (findTagItem tag tags)).isSome = true := by
  have hGetD :
      (findTagItem tag16 tags).getD
          ((findTagItem tag tags).getD 0) =
        ((findTagItem tag16 tags).or
          (findTagItem tag tags)).getD 0 := by
    cases findTagItem tag16 tags <;> rfl
  rw [hGetD] at hCallback
  have hFunction (data : APTR) := @function_of_given code tags
    hHonest tag16 tag hTag16 hTag data
  generalize (findTagItem tag16 tags).or (findTagItem tag tags) =
    given at hCallback hFunction ⊢
  unfold copyBufTarget
  cases given with
  | none =>
      rw [Option.getD_none, if_pos rfl] at hCallback
      rw [hCallback]
      exact iff_of_false (fun hBoth => code.data hBoth.2)
        (by simp)
  | some data =>
      obtain ⟨hSome, hJump⟩ := hFunction data rfl
      rw [Option.getD_some, if_neg hSome] at hCallback
      rw [hCallback]
      exact iff_of_true ⟨rfl, hJump⟩ rfl

/- The hook is the one given, or the dummy. -/
theorem filterHook_eq
    (hHonest : code.Honest tags)
    (hook : APTR)
    (hHook :
      hook =
        (if (findTagItem s2PacketFilter tags).getD 0 = 0 then
          edDummyPfHook
        else (findTagItem s2PacketFilter tags).getD 0)) :
    hook =
        (findTagItem s2PacketFilter tags).getD edDummyPfHook ∧
      code.Function (code.callFilterHookTarget hook) := by
  unfold CodeMap.callFilterHookTarget
  cases hFound : findTagItem s2PacketFilter tags with
  | none =>
      rw [hFound, Option.getD_none, if_pos rfl] at hHook
      rw [hHook]
      exact ⟨rfl, code.fakePfHookEntry⟩
  | some given =>
      obtain ⟨hSome, hJump⟩ :=
        hHonest.hooks _ (mem_of_findTagItem hFound) rfl
      rw [hFound, Option.getD_some, if_neg hSome] at hHook
      rw [hHook]
      exact ⟨rfl, hJump⟩

/-
  After an open that succeeds, the callbacks are as they
  should be exactly when the client has given copy functions
  for both directions.
-/
theorem selectsProperly_iff
    (code : CodeMap)
    (ios2 : APTR)
    (s2unit s2flags : ULONG)
    (env : OpenEnv)
    (s : Driver)
    (hHonest : code.Honest (env.tags.getD []))
    (hOpened :
      ((deviceOpen ios2 s2unit s2flags env s).reqs
        ios2).ioError = s2errNoError) :
    SelectsProperly code (env.tags.getD [])
        ((deviceOpen ios2 s2unit s2flags env s).bms
          ((deviceOpen ios2 s2unit s2flags env s).reqs
            ios2).bufferManagement) ↔
      GivesCopyFunctions (env.tags.getD []) := by
  rw [bms_deviceOpen ios2 s2unit s2flags env s hOpened]
  have hTo := chooses_iff hHonest (Or.inl rfl)
    (Or.inr (Or.inl rfl))
    (newBufferManagement env.tags).copyToBuffer rfl
  have hFrom := chooses_iff hHonest
    (Or.inr (Or.inr (Or.inl rfl)))
    (Or.inr (Or.inr (Or.inr rfl)))
    (newBufferManagement env.tags).copyFromBuffer rfl
  have hHook := filterHook_eq hHonest
    (newBufferManagement env.tags).packetFilterHook rfl
  unfold GivesCopyFunctions
  rw [← hTo, ← hFrom]
  constructor
  · intro hSelects
    exact ⟨⟨hSelects.copyToBuffer, hSelects.jumps.1⟩,
      hSelects.copyFromBuffer, hSelects.jumps.2.1⟩
  · rintro ⟨hCopyTo, hCopyFrom⟩
    exact ⟨hCopyTo.1, hCopyFrom.1, hHook.1,
      hCopyTo.2, hCopyFrom.2, hHook.2⟩

end Selection

/- A memory with functions from 4096 on, and hooks that all
   point there. -/
def plainCode : CodeMap where
  Function := fun a => 4096 ≤ a
  hEntry := fun _ => 4096
  fakePfHookEntry := Nat.le_refl 4096
  data := by decide

/- An open with copy functions for both directions. -/
def fullOpen : OpenEnv :=
  { plainOpen 40 with
    tags := some
      [(s2CopyToBuff, 5000), (s2CopyFromBuff16, 6000),
        (s2CopyToBuff16, 7000), (s2PacketFilter, 300)] }

theorem honest_fullOpen :
    plainCode.Honest (fullOpen.tags.getD []) := by
  have hItems (item : ULONG × APTR)
      (hMem : item ∈ fullOpen.tags.getD []) :
      item = (s2CopyToBuff, 5000) ∨
        item = (s2CopyFromBuff16, 6000) ∨
        item = (s2CopyToBuff16, 7000) ∨
        item = (s2PacketFilter, 300) := by
    simpa [fullOpen] using hMem
  refine ⟨fun item hMem hTag => ?_, fun item hMem _ => ?_⟩
  · unfold plainCode
    rcases hItems item hMem with rfl | rfl | rfl | rfl
    · decide
    · decide
    · decide
    · exact absurd hTag (by unfold CopyTag; decide)
  · unfold plainCode
    rcases hItems item hMem with rfl | rfl | rfl | rfl
    · decide
    · decide
    · decide
    · decide

theorem selectsProperly_iff_full :
    SelectsProperly plainCode (fullOpen.tags.getD [])
        ((deviceOpen 7 0#32 0#32 fullOpen
            (loadedDriver (idleRegisters 0#16))).bms
          ((deviceOpen 7 0#32 0#32 fullOpen
            (loadedDriver (idleRegisters 0#16))).reqs
              7).bufferManagement) ↔
      GivesCopyFunctions (fullOpen.tags.getD []) := by
  apply selectsProperly_iff
  · exact honest_fullOpen
  · decide +kernel

/- Without a tag list a copy would jump into the hook. -/
theorem not_selectsProperly_noTags :
    ((deviceOpen 7 0#32 0#32 (plainOpen 40)
        (loadedDriver (idleRegisters 0#16))).reqs 7).ioError =
        s2errNoError ∧
      ¬SelectsProperly plainCode []
        ((deviceOpen 7 0#32 0#32 (plainOpen 40)
            (loadedDriver (idleRegisters 0#16))).bms
          ((deviceOpen 7 0#32 0#32 (plainOpen 40)
            (loadedDriver (idleRegisters 0#16))).reqs
              7).bufferManagement) := by
  refine ⟨by decide +kernel, fun hSelects => ?_⟩
  have hJump := hSelects.jumps.1
  unfold plainCode copyBufTarget at hJump
  dsimp only at hJump
  revert hJump
  decide +kernel

end KszDriver
