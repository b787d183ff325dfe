import KszDriver.Core.Buffer
import KszDriver.Device.Lists
import KszDriver.Device.System

/-
  The queries and the buffers of the client that they fill:
  `S2_DEVICEQUERY`, `S2_GETGLOBALSTATS`,
  `S2_GETSPECIALSTATS` and `NSCMD_DEVICEQUERY`, field by
  field, with every access through the pointer of the client.

  Main declarations:
    * `BufferM`, `loadLong`, `storeLong`, `storeWord`
    * `QueryCommand`, `QueryCommand.handler`
    * `RespectsBuffer`, `MeetsQuery`
    * `Fills`, with a rule for each access
    * `respectsBuffer_iff`
    * `performIo_answers`
-/

------------------------------------------------------------
-- Fields
------------------------------------------------------------

namespace KszDriver

abbrev BufferM := Program (BufferOp UBYTE) BufferOp.Ret

/- The bytes of a long word and of a word, as they lie in
   memory. -/
def longBytes (v : ULONG) : List UBYTE :=
  [v.extractLsb' 24 8, v.extractLsb' 16 8, v.extractLsb' 8 8,
    v.extractLsb' 0 8]

def wordBytes (v : UWORD) : List UBYTE :=
  [highByte v, lowByte v]

/- The long word of four bytes. -/
def longOf (bytes : List UBYTE) : ULONG :=
  bytes.getD 0 0#8 ++ bytes.getD 1 0#8 ++
    bytes.getD 2 0#8 ++ bytes.getD 3 0#8

theorem longOf_longBytes (v : ULONG) :
    longOf (longBytes v) = v := by
  have hHigh :
      v.extractLsb' 24 8 ++ v.extractLsb' 16 8 =
        v.extractLsb' 16 16 :=
    BitVec.extractLsb'_append_extractLsb'_eq_extractLsb' rfl
  have hMiddle :
      v.extractLsb' 16 16 ++ v.extractLsb' 8 8 =
        v.extractLsb' 8 24 :=
    BitVec.extractLsb'_append_extractLsb'_eq_extractLsb' rfl
  have hLow :
      v.extractLsb' 8 24 ++ v.extractLsb' 0 8 =
        v.extractLsb' 0 32 :=
    BitVec.extractLsb'_append_extractLsb'_eq_extractLsb' rfl
  change v.extractLsb' 24 8 ++ v.extractLsb' 16 8 ++
    v.extractLsb' 8 8 ++ v.extractLsb' 0 8 = v
  rw [hHigh, hMiddle, hLow]
  exact BitVec.extractLsb'_eq_self

def loadLong (base : APTR) (offset : Nat) :
    BufferM ULONG := do
  let bytes ← Program.perform (BufferOp.load base offset 4)
  pure (longOf bytes)

def storeLong (base : APTR) (offset : Nat) (v : ULONG) :
    BufferM Unit :=
  Program.perform (BufferOp.store base offset (longBytes v))

def storeWord (base : APTR) (offset : Nat) (v : UWORD) :
    BufferM Unit :=
  Program.perform (BufferOp.store base offset (wordBytes v))

/- The long word at an address. -/
def Memory.longAt (m : Memory) (i : Nat) : ULONG :=
  longOf (Buffer.load m i 4)

theorem longAt_store
    (m : Memory)
    (i : Nat)
    (v : ULONG) :
    Memory.longAt (Buffer.store m i (longBytes v)) i = v :=
  (congrArg longOf (Buffer.load_store m i (longBytes v))).trans
    (longOf_longBytes v)

theorem longAt_store_apart
    (m : Memory)
    {i j : Nat}
    {bytes : List UBYTE}
    (hApart : j + 4 ≤ i ∨ i + bytes.length ≤ j) :
    Memory.longAt (Buffer.store m i bytes) j = m.longAt j :=
  congrArg longOf (Buffer.load_store_apart m hApart)

------------------------------------------------------------
-- Handlers
------------------------------------------------------------

/-
  What the handlers supply: the MTU of the unit, `GlobStat`,
  and the addresses of the name of the special statistic and
  of `auwSupportCmds`.
-/
structure QuerySource where
  mtu : ULONG
  packetsReceived : ULONG
  packetsSent : ULONG
  unknownTypesReceived : ULONG
  lastStartSecs : ULONG
  lastStartMicro : ULONG
  testStatistic : ULONG
  auwSupportCmds : ULONG

/- The requests that are filled in. -/
inductive QueryCommand where
| deviceQuery
| getGlobalStats
| getSpecialStats
| nsDeviceQuery
deriving DecidableEq

def QueryCommand.command : QueryCommand → UWORD
| .deviceQuery => s2DeviceQuery
| .getGlobalStats => s2GetGlobalStats
| .getSpecialStats => s2GetSpecialStats
| .nsDeviceQuery => nscmdDeviceQuery

/- `NSDEVTYPE_SANA2` -/
def nsDevTypeSana2 : UWORD := 7#16

/- `sizeof(struct NSDeviceQueryResult)` -/
def sizeofNsDeviceQueryResult : ULONG := 16#32

namespace QueryCommand

/- A `DEBUGOUT` that prints a field of the buffer: with
   `DEBUG` it is loaded, else the line is empty. -/
def debugOut (debug : Bool) (base : APTR) (offset : Nat) :
    BufferM Unit :=
  Program.onlyIf (debug = true) (do
    let _ ← loadLong base offset
    pure ())

/- `ios2_Req.io_Error` and `ios2_WireError` -/
def fail
    (req : IOSana2Req)
    (ioError : Int)
    (wireError : ULONG) : IOSana2Req :=
  { req with ioError, wireError }

/- `DevCmdDeviceQuery`, up to `TermIO`. -/
def queryDevice
    (debug : Bool) (source : QuerySource) (req : IOSana2Req) :
    BufferM IOSana2Req := do
  let deviceStatisticData := req.statData
  let req ←
    if deviceStatisticData ≠ 0 then do
      debugOut debug deviceStatisticData 0
      let sizeAvailable ← loadLong deviceStatisticData 0
      if sizeAvailable ≥ sizeofDeviceQuery then do
        storeWord deviceStatisticData 16 48#16
        storeLong deviceStatisticData 18 source.mtu
        storeLong deviceStatisticData 22 10000000#32
        storeLong deviceStatisticData 26 1#32
        storeLong deviceStatisticData 4 sizeofDeviceQuery
        pure req
      else pure (fail req s2errBadArgument s2werrGenericError)
    else pure (fail req s2errBadArgument s2werrNullPointer)
  debugOut debug deviceStatisticData 4
  pure req

/- `DevCmdGlobStats`; the field `Unused` is left out. -/
def globStats (source : QuerySource) (req : IOSana2Req) :
    BufferM IOSana2Req :=
  let stat := req.statData
  if stat ≠ 0 then do
    storeLong stat 0 source.packetsReceived
    storeLong stat 4 source.packetsSent
    storeLong stat 8 0#32
    storeLong stat 12 0#32
    storeLong stat 20 source.unknownTypesReceived
    storeLong stat 24 0#32
    storeLong stat 28 source.lastStartSecs
    storeLong stat 32 source.lastStartMicro
    pure req
  else pure (fail req s2errBadArgument s2werrNullPointer)

/- `DevAddSpecialStat`; the records lie behind the header of
   8 bytes, and have 12 bytes each. -/
def devAddSpecialStat
    (statistics : APTR) (type string count : ULONG) :
    BufferM Bool := do
  let recordCountSupplied ← loadLong statistics 4
  let recordCountMax ← loadLong statistics 0
  if recordCountSupplied < recordCountMax then do
    let recordCountSupplied ← loadLong statistics 4
    let nextRecord := 8 + 12 * recordCountSupplied.toNat
    storeLong statistics (nextRecord + 4) count
    storeLong statistics nextRecord type
    storeLong statistics (nextRecord + 8) string
    let recordCountSupplied ← loadLong statistics 4
    storeLong statistics 4 (recordCountSupplied + 1#32)
    pure true
  else pure false

/- `DevCmdGetSpecialStats` -/
def specialStats
    (debug : Bool) (source : QuerySource) (req : IOSana2Req) :
    BufferM IOSana2Req := do
  let stat := req.statData
  Program.onlyIf (stat ≠ 0) (debugOut debug stat 0)
  if stat ≠ 0 then do
    storeLong stat 4 0#32
    let _ ← devAddSpecialStat stat 1#32 source.testStatistic
      0#32
    pure req
  else pure (fail req s2errBadArgument s2werrNullPointer)

/-
  `DevCmdNSDeviceQuery`.  The request is seen as a standard
  one: its data pointer is the start of the source address,
  its length the packet type, and the actual count the wire
  error.
-/
def queryNsDevice
    (source : QuerySource) (req : IOSana2Req) :
    BufferM IOSana2Req := do
  let nsdqr := req.srcAddr.pointer
  let ulSize := req.packetType
  Program.onlyIf
    (nsdqr ≠ 0 ∧ ulSize ≥ sizeofNsDeviceQueryResult) (do
      storeLong nsdqr 0 0#32
      storeLong nsdqr 4 sizeofNsDeviceQueryResult
      storeWord nsdqr 8 nsDevTypeSana2
      storeWord nsdqr 10 0#16
      storeLong nsdqr 12 source.auwSupportCmds)
  let sizeAvailable ← loadLong nsdqr 4
  pure { req with wireError := sizeAvailable }

/- `PerformIO` clears the error and calls the handler. -/
def handler
    (c : QueryCommand)
    (debug : Bool)
    (source : QuerySource)
    (req : IOSana2Req) : BufferM IOSana2Req :=
  let req := { req with ioError := 0 }
  match c with
  | .deviceQuery => queryDevice debug source req
  | .getGlobalStats => globStats source req
  | .getSpecialStats => specialStats debug source req
  | .nsDeviceQuery => queryNsDevice source req

------------------------------------------------------------
-- The Buffer
------------------------------------------------------------

/- The pointer of the client. -/
def pointer (c : QueryCommand) (req : IOSana2Req) : APTR :=
  match c with
  | .nsDeviceQuery => req.srcAddr.pointer
  | _ => req.statData

/- How many bytes the client declares: `SizeAvailable`, the
   record with all statistics, a header with
   `RecordCountMax` records, or `io_Length`. -/
def capacity
    (c : QueryCommand) (req : IOSana2Req) (m : Memory) :
    Nat :=
  match c with
  | .deviceQuery => (m.longAt req.statData).toNat
  | .getGlobalStats => 36
  | .getSpecialStats => 8 + 12 * (m.longAt req.statData).toNat
  | .nsDeviceQuery => req.packetType.toNat

/- The bytes that are always there. -/
def fixedPart : QueryCommand → Nat
| .deviceQuery => 30
| .getGlobalStats => 36
| .getSpecialStats => 8
| .nsDeviceQuery => 16

/- How many bytes a handler says that it supplied, by
   `SizeSupplied`, `RecordCountSupplied` and `io_Actual`. -/
def supplied
    (c : QueryCommand) (req : IOSana2Req) (m : Memory) :
    Nat :=
  match c with
  | .deviceQuery => (m.longAt (req.statData + 4)).toNat
  | .getGlobalStats => 36
  | .getSpecialStats =>
      8 + 12 * (m.longAt (req.statData + 4)).toNat
  | .nsDeviceQuery => req.wireError.toNat

end QueryCommand

------------------------------------------------------------
-- Respecting the Buffer
------------------------------------------------------------

section Respect

variable (debug : Bool) (source : QuerySource)
variable (c : QueryCommand) (req : IOSana2Req) (m : Memory)

/- The accesses that a request makes. -/
def queryAccesses : List (BufferOp UBYTE) :=
  (c.handler debug source req).performed BufferOp.exec m

/- The request and the memory as they are left. -/
def queryResult : IOSana2Req × Memory :=
  (c.handler debug source req).run BufferOp.exec m

/-
  Nothing goes through a `NULL` pointer, and nothing is
  stored outside of what the client declared; what is
  reported as supplied fits; and a request without a buffer,
  or with one that is too small, ends in an error.
-/
structure RespectsBuffer : Prop where
  notNull : ∀ op ∈ queryAccesses debug source c req m,
    op.base ≠ 0
  inside : ∀ op ∈ queryAccesses debug source c req m,
    op.Inside (c.pointer req) (c.capacity req m)
  unchanged : ∀ j,
    j < c.pointer req ∨
        c.pointer req + c.capacity req m ≤ j →
      (queryResult debug source c req m).2 j = m j
  supplied :
    (queryResult debug source c req m).1.ioError = 0 →
      c.supplied (queryResult debug source c req m).1
          (queryResult debug source c req m).2 ≤
        c.capacity req m
  rejects :
    c.pointer req = 0 ∨ c.capacity req m < c.fixedPart →
      (queryResult debug source c req m).1.ioError ≠ 0

/-
  A new style query has a buffer, with room for the result;
  and where the debug output is compiled in, a device query
  has a buffer.
-/
def MeetsQuery : Prop :=
  match c with
  | .deviceQuery => debug = true → req.statData ≠ 0
  | .nsDeviceQuery =>
      req.srcAddr.pointer ≠ 0 ∧
        req.packetType ≥ sizeofNsDeviceQueryResult
  | _ => True

end Respect

------------------------------------------------------------
-- Accesses
------------------------------------------------------------

/-
  From `m`, every access of the program goes through `base`
  and stores stay in front of `capacity`, and it ends in `Q`.
-/
def Fills
    {α : Type}
    (base capacity : Nat)
    (Q : α → Memory → Prop)
    (p : BufferM α)
    (m : Memory) : Prop :=
  Program.Walks BufferOp.exec id
    (fun op _ => op.Inside base capacity) Q p m

namespace Fills

variable {base capacity offset : Nat} {m : Memory}

theorem pure
    {α : Type}
    {Q : α → Memory → Prop}
    {value : α}
    (hGoal : Q value m) :
    Fills base capacity Q (Pure.pure value) m :=
  hGoal

theorem bind
    {α β : Type}
    {Q : β → Memory → Prop}
    {p : BufferM α}
    {f : α → BufferM β}
    (hParts :
      Fills base capacity
        (fun a m' => Fills base capacity Q (f a) m') p m) :
    Fills base capacity Q (p >>= f) m :=
  Program.Walks.bind hParts (fun _ _ hRest => hRest)

theorem mono
    {α : Type}
    {Q Q' : α → Memory → Prop}
    {p : BufferM α}
    (hFills : Fills base capacity Q p m)
    (hGoal : ∀ a m', Q a m' → Q' a m') :
    Fills base capacity Q' p m :=
  Program.Walks.mono hFills hGoal

theorem loadLong
    {Q : ULONG → Memory → Prop}
    (hGoal : Q (m.longAt (base + offset)) m) :
    Fills base capacity Q
      (KszDriver.loadLong base offset) m := by
  refine ⟨rfl, ?_⟩
  rintro _ rfl
  exact hGoal

theorem storeLong
    {Q : Unit → Memory → Prop}
    {v : ULONG}
    (hInside : offset + 4 ≤ capacity)
    (hGoal :
      Q () (Buffer.store m (base + offset) (longBytes v))) :
    Fills base capacity Q
      (KszDriver.storeLong base offset v) m := by
  refine ⟨⟨rfl, hInside⟩, ?_⟩
  rintro _ rfl
  exact hGoal

theorem storeWord
    {Q : Unit → Memory → Prop}
    {v : UWORD}
    (hInside : offset + 2 ≤ capacity)
    (hGoal :
      Q () (Buffer.store m (base + offset) (wordBytes v))) :
    Fills base capacity Q
      (KszDriver.storeWord base offset v) m := by
  refine ⟨⟨rfl, hInside⟩, ?_⟩
  rintro _ rfl
  exact hGoal

theorem debugOut
    {Q : Unit → Memory → Prop}
    {debug : Bool}
    (hGoal : Q () m) :
    Fills base capacity Q
      (QueryCommand.debugOut debug base offset) m := by
  cases debug with
  | false => exact hGoal
  | true => exact bind (loadLong hGoal)

/- The same with what follows. -/
section Then

variable {α : Type} {Q : α → Memory → Prop}

theorem loadLong_bind
    {f : ULONG → BufferM α}
    (hRest :
      Fills base capacity Q
        (f (m.longAt (base + offset))) m) :
    Fills base capacity Q
      (KszDriver.loadLong base offset >>= f) m :=
  bind (loadLong hRest)

theorem storeLong_bind
    {v : ULONG}
    {f : Unit → BufferM α}
    (hInside : offset + 4 ≤ capacity)
    (hRest :
      Fills base capacity Q (f ())
        (Buffer.store m (base + offset) (longBytes v))) :
    Fills base capacity Q
      (KszDriver.storeLong base offset v >>= f) m :=
  bind (storeLong hInside hRest)

theorem storeWord_bind
    {v : UWORD}
    {f : Unit → BufferM α}
    (hInside : offset + 2 ≤ capacity)
    (hRest :
      Fills base capacity Q (f ())
        (Buffer.store m (base + offset) (wordBytes v))) :
    Fills base capacity Q
      (KszDriver.storeWord base offset v >>= f) m :=
  bind (storeWord hInside hRest)

theorem debugOut_bind
    {debug : Bool}
    {f : Unit → BufferM α}
    (hRest : Fills base capacity Q (f ()) m) :
    Fills base capacity Q
      (QueryCommand.debugOut debug base offset >>= f) m :=
  bind (debugOut hRest)

end Then

end Fills

------------------------------------------------------------
-- Requests with a Buffer
------------------------------------------------------------

section Answers

variable {debug : Bool} {source : QuerySource}
variable {c : QueryCommand} {req : IOSana2Req} {m : Memory}

/- What a request with a buffer has to end in, and how it is
   answered. -/
structure EndsWell
    (c : QueryCommand)
    (capacity : Nat)
    (answer : IOSana2Req)
    (req' : IOSana2Req)
    (m' : Memory) : Prop where
  answer : req' = answer
  supplied : req'.ioError = 0 → c.supplied req' m' ≤ capacity
  rejects : capacity < c.fixedPart → req'.ioError ≠ 0

theorem respectsBuffer_of_fills
    {answer : IOSana2Req}
    (hSome : c.pointer req ≠ 0)
    (hFills :
      Fills (c.pointer req) (c.capacity req m)
        (EndsWell c (c.capacity req m) answer)
        (c.handler debug source req) m) :
    RespectsBuffer debug source c req m := by
  have hInside := Program.Walks.performed hFills
  have hEnds := Program.Walks.run hFills
  refine ⟨?_, hInside, ?_, hEnds.supplied, ?_⟩
  · intro op hOp
    rw [(hInside op hOp).base_eq]
    exact hSome
  · intro j hOutside
    exact Buffer.run_unchanged hInside hOutside
  · rintro (hNull | hSmall)
    · exact absurd hNull hSome
    · exact hEnds.rejects hSmall

/- So is a request that only ends in an error. -/
theorem respectsBuffer_of_pure
    {answer : IOSana2Req}
    (hHandler : c.handler debug source req = pure answer)
    (hError : answer.ioError ≠ 0) :
    RespectsBuffer debug source c req m := by
  have hNone : queryAccesses debug source c req m = [] := by
    unfold queryAccesses
    rw [hHandler]
    rfl
  have hResult :
      queryResult debug source c req m = (answer, m) := by
    unfold queryResult
    rw [hHandler]
    rfl
  refine ⟨?_, ?_, ?_, ?_, ?_⟩
  · rw [hNone]
    exact nofun
  · rw [hNone]
    exact nofun
  · rw [hResult]
    exact fun _ _ => rfl
  · rw [hResult]
    exact fun hFine => absurd hFine hError
  · rw [hResult]
    exact fun _ => hError

/- `S2_DEVICEQUERY` -/
theorem fills_queryDevice
    (hSome : req.statData ≠ 0) :
    Fills req.statData (m.longAt req.statData).toNat
      (EndsWell .deviceQuery (m.longAt req.statData).toNat
        (if m.longAt req.statData ≥ sizeofDeviceQuery then req
          else
            QueryCommand.fail req s2errBadArgument
              s2werrGenericError))
      (QueryCommand.queryDevice debug source req) m := by
  unfold QueryCommand.queryDevice
  dsimp only
  rw [if_pos hSome]
  apply Fills.debugOut_bind
  apply Fills.loadLong_bind
  rw [Nat.add_zero]
  by_cases hRoom : m.longAt req.statData ≥ sizeofDeviceQuery
  · have hBytes : 30 ≤ (m.longAt req.statData).toNat := hRoom
    rw [if_pos hRoom, if_pos hRoom]
    apply Fills.storeWord_bind (by omega)
    apply Fills.storeLong_bind (by omega)
    apply Fills.storeLong_bind (by omega)
    apply Fills.storeLong_bind (by omega)
    apply Fills.storeLong_bind (by omega)
    apply Fills.bind
    apply Fills.pure
    apply Fills.debugOut_bind
    refine ⟨rfl, fun _ => ?_, fun hSmall => ?_⟩
    · unfold QueryCommand.supplied
      dsimp only
      rw [longAt_store]
      exact hBytes
    · exact absurd hSmall (Nat.not_lt.mpr hBytes)
  · rw [if_neg hRoom, if_neg hRoom]
    apply Fills.bind
    apply Fills.pure
    apply Fills.debugOut_bind
    exact ⟨rfl, nofun, fun _ => nofun⟩

/- `S2_GETGLOBALSTATS` -/
theorem fills_globStats
    (hSome : req.statData ≠ 0) :
    Fills req.statData 36 (EndsWell .getGlobalStats 36 req)
      (QueryCommand.globStats source req) m := by
  unfold QueryCommand.globStats
  dsimp only
  rw [if_pos hSome]
  apply Fills.storeLong_bind (by omega)
  apply Fills.storeLong_bind (by omega)
  apply Fills.storeLong_bind (by omega)
  apply Fills.storeLong_bind (by omega)
  apply Fills.storeLong_bind (by omega)
  apply Fills.storeLong_bind (by omega)
  apply Fills.storeLong_bind (by omega)
  apply Fills.storeLong_bind (by omega)
  exact ⟨rfl, fun _ => le_refl 36, fun hSmall =>
    absurd hSmall (lt_irrefl 36)⟩

/- A record is added only where there is room for one. -/
theorem fills_devAddSpecialStat
    {statistics : APTR}
    {recordCountMax : ULONG}
    {type string count : ULONG}
    (hMax : m.longAt statistics = recordCountMax)
    (hRoom : m.longAt (statistics + 4) ≤ recordCountMax) :
    Fills statistics (8 + 12 * recordCountMax.toNat)
      (fun _ m' => m'.longAt (statistics + 4) ≤ recordCountMax)
      (QueryCommand.devAddSpecialStat statistics type string
        count) m := by
  unfold QueryCommand.devAddSpecialStat
  apply Fills.loadLong_bind
  apply Fills.loadLong_bind
  rw [Nat.add_zero statistics, hMax]
  by_cases hFree : m.longAt (statistics + 4) < recordCountMax
  · have hNext : (m.longAt (statistics + 4)).toNat + 1 ≤
        recordCountMax.toNat := hFree
    rw [if_pos hFree]
    apply Fills.loadLong_bind
    dsimp only
    apply Fills.storeLong_bind (by omega)
    apply Fills.storeLong_bind (by omega)
    apply Fills.storeLong_bind (by omega)
    apply Fills.loadLong_bind
    rw [longAt_store_apart _ (by omega),
      longAt_store_apart _ (by omega),
      longAt_store_apart _ (by omega)]
    apply Fills.storeLong_bind (by omega)
    apply Fills.pure
    rw [longAt_store, BitVec.le_def, BitVec.toNat_add]
    exact Nat.le_trans (Nat.mod_le _ _) hNext
  · rw [if_neg hFree]
    exact hRoom

/- `S2_GETSPECIALSTATS` -/
theorem fills_specialStats
    (hSome : req.statData ≠ 0) :
    Fills req.statData (8 + 12 * (m.longAt req.statData).toNat)
      (EndsWell .getSpecialStats
        (8 + 12 * (m.longAt req.statData).toNat) req)
      (QueryCommand.specialStats debug source req) m := by
  unfold QueryCommand.specialStats Program.onlyIf
  dsimp only
  rw [if_pos hSome, if_pos hSome]
  apply Fills.debugOut_bind
  apply Fills.storeLong_bind (by omega)
  apply Fills.bind
  have hCleared :
      Memory.longAt
          (Buffer.store m (req.statData + 4) (longBytes 0#32))
          (req.statData + 4) ≤ m.longAt req.statData := by
    rw [longAt_store]
    exact Nat.zero_le _
  apply (fills_devAddSpecialStat
    (longAt_store_apart m (by omega)) hCleared).mono
  intro _ m' hFits
  refine ⟨rfl, fun _ => ?_, fun hSmall => ?_⟩
  · exact Nat.add_le_add_left (Nat.mul_le_mul_left 12 hFits) 8
  · exact absurd hSmall (Nat.not_lt.mpr (Nat.le_add_right 8 _))

/- `NSCMD_DEVICEQUERY`, with room for the result. -/
theorem fills_queryNsDevice
    (hSome : req.srcAddr.pointer ≠ 0)
    (hRoom : req.packetType ≥ sizeofNsDeviceQueryResult) :
    Fills req.srcAddr.pointer req.packetType.toNat
      (EndsWell .nsDeviceQuery req.packetType.toNat
        { req with wireError := sizeofNsDeviceQueryResult })
      (QueryCommand.queryNsDevice source req) m := by
  have hBytes : 16 ≤ req.packetType.toNat := hRoom
  unfold QueryCommand.queryNsDevice Program.onlyIf
  dsimp only
  rw [if_pos ⟨hSome, hRoom⟩]
  apply Fills.bind
  apply Fills.storeLong_bind (by omega)
  apply Fills.storeLong_bind (by omega)
  apply Fills.storeWord_bind (by omega)
  apply Fills.storeWord_bind (by omega)
  apply Fills.storeLong (by omega)
  apply Fills.loadLong_bind
  rw [longAt_store_apart _ (by omega),
    longAt_store_apart _ (by omega),
    longAt_store_apart _ (by omega), longAt_store]
  refine ⟨rfl, fun _ => hBytes, fun hSmall => ?_⟩
  exact absurd hSmall (Nat.not_lt.mpr hBytes)

end Answers

------------------------------------------------------------
-- Requests without a Buffer
------------------------------------------------------------

section Null

variable {debug : Bool} {source : QuerySource}
variable {req : IOSana2Req}

theorem queryDevice_null
    (hNull : req.statData = 0) :
    QueryCommand.queryDevice debug source req = (do
      QueryCommand.debugOut debug req.statData 4
      pure (QueryCommand.fail req s2errBadArgument
        s2werrNullPointer)) :=
  if_neg (not_not.mpr hNull)

theorem globStats_null
    (hNull : req.statData = 0) :
    QueryCommand.globStats source req =
      pure (QueryCommand.fail req s2errBadArgument
        s2werrNullPointer) :=
  if_neg (not_not.mpr hNull)

theorem specialStats_null
    (hNull : req.statData = 0) :
    QueryCommand.specialStats debug source req =
      pure (QueryCommand.fail req s2errBadArgument
        s2werrNullPointer) := by
  unfold QueryCommand.specialStats Program.onlyIf
  dsimp only
  rw [if_neg (not_not.mpr hNull), if_neg (not_not.mpr hNull)]
  rfl

end Null

------------------------------------------------------------
-- All Requests
------------------------------------------------------------

section Requests

variable {debug : Bool} {source : QuerySource}
variable {c : QueryCommand} {req : IOSana2Req} {m : Memory}

theorem respectsBuffer_deviceQuery
    (hMeets : debug = true → req.statData ≠ 0) :
    RespectsBuffer debug source .deviceQuery req m := by
  by_cases hNull : req.statData = 0
  · have hRelease : debug = false := by
      rw [← Bool.not_eq_true]
      exact fun hDebug => hMeets hDebug hNull
    subst hRelease
    exact respectsBuffer_of_pure (queryDevice_null hNull) nofun
  · exact respectsBuffer_of_fills hNull
      (@fills_queryDevice debug source
        { req with ioError := 0 } m hNull)

theorem respectsBuffer_getGlobalStats :
    RespectsBuffer debug source .getGlobalStats req m := by
  by_cases hNull : req.statData = 0
  · exact respectsBuffer_of_pure (globStats_null hNull) nofun
  · exact respectsBuffer_of_fills hNull
      (@fills_globStats source { req with ioError := 0 } m
        hNull)

theorem respectsBuffer_getSpecialStats :
    RespectsBuffer debug source .getSpecialStats req m := by
  by_cases hNull : req.statData = 0
  · exact respectsBuffer_of_pure (specialStats_null hNull)
      nofun
  · exact respectsBuffer_of_fills hNull
      (@fills_specialStats debug source
        { req with ioError := 0 } m hNull)

/- With the debug output a device query without a buffer
   still loads `SizeSupplied`. -/
theorem loads_deviceQuery_null
    (hNull : req.statData = 0) :
    BufferOp.load 0 4 4 ∈
      queryAccesses true source .deviceQuery req m := by
  have hHandler := @queryDevice_null true source
    { req with ioError := 0 } hNull
  unfold queryAccesses QueryCommand.handler
  dsimp only at hHandler ⊢
  rw [hHandler, hNull]
  exact List.mem_cons_self

/- A new style query always loads `SizeAvailable`. -/
theorem loads_nsDeviceQuery :
    BufferOp.load req.srcAddr.pointer 4 4 ∈
      queryAccesses debug source .nsDeviceQuery req m := by
  unfold queryAccesses QueryCommand.handler
    QueryCommand.queryNsDevice
  dsimp only
  rw [Program.performed_bind]
  apply List.mem_append_right
  exact List.mem_cons_self

/- It never ends in an error. -/
theorem ioError_nsDeviceQuery :
    (queryResult debug source .nsDeviceQuery req m).1.ioError =
      0 := by
  unfold queryResult QueryCommand.handler
    QueryCommand.queryNsDevice
  dsimp only
  rw [Program.run_bind]
  rfl

end Requests

/-
  A query respects the buffer of the client exactly when it
  is not a new style query without a buffer or with too small
  a one; and with the debug output, not a device query
  without a buffer.
-/
theorem respectsBuffer_iff
    (debug : Bool)
    (source : QuerySource)
    (c : QueryCommand)
    (req : IOSana2Req)
    (m : Memory) :
    RespectsBuffer debug source c req m ↔
      MeetsQuery debug c req := by
  cases c with
  | deviceQuery =>
      constructor
      · rintro hRespects rfl hNull
        exact hRespects.notNull _
          (loads_deviceQuery_null hNull) rfl
      · exact respectsBuffer_deviceQuery
  | getGlobalStats =>
      exact iff_of_true respectsBuffer_getGlobalStats trivial
  | getSpecialStats =>
      exact iff_of_true respectsBuffer_getSpecialStats trivial
  | nsDeviceQuery =>
      constructor
      · intro hRespects
        constructor
        · exact hRespects.notNull _ loads_nsDeviceQuery
        · by_contra hSmall
          have hShort : req.packetType.toNat < 16 :=
            Nat.not_le.mp hSmall
          exact hRespects.rejects (.inr hShort)
            ioError_nsDeviceQuery
      · rintro ⟨hSome, hRoom⟩
        exact respectsBuffer_of_fills hSome
          (@fills_queryNsDevice source
            { req with ioError := 0 } m hSome hRoom)

/- What is supplied on a memory of zeros. -/
def emptySource : QuerySource where
  mtu := 1500#32
  packetsReceived := 0#32
  packetsSent := 0#32
  unknownTypesReceived := 0#32
  lastStartSecs := 0#32
  lastStartMicro := 0#32
  testStatistic := 0#32
  auwSupportCmds := 0#32

/- A new style query for 12 bytes at the address 65536. -/
def shortQuery : IOSana2Req :=
  { plainRequest nscmdDeviceQuery with
    srcAddr := ![0#8, 1#8, 0#8, 0#8, 0#8, 0#8]
    packetType := 12#32 }

/- A new style query without a buffer, and one with too small
   a buffer. -/
theorem not_respectsBuffer_nsDeviceQuery :
    ¬RespectsBuffer false emptySource .nsDeviceQuery
        (plainRequest nscmdDeviceQuery) (fun _ => 0#8) ∧
      ¬RespectsBuffer false emptySource .nsDeviceQuery
        shortQuery (fun _ => 0#8) := by
  constructor
  · intro hRespects
    exact hRespects.notNull _ loads_nsDeviceQuery (by decide)
  · intro hRespects
    exact hRespects.rejects (.inr (by decide))
      ioError_nsDeviceQuery

------------------------------------------------------------
-- The Device Driver
------------------------------------------------------------

/- Two requests are answered alike. -/
def SameAnswer (req req' : IOSana2Req) : Prop :=
  req.ioError = req'.ioError ∧ req.wireError = req'.wireError

/- What the driver knows of the buffer is what lies there. -/
def QueryCommand.Shows
    (c : QueryCommand)
    (req : IOSana2Req)
    (s : Driver)
    (m : Memory) : Prop :=
  match c with
  | .deviceQuery =>
      (s.queries req.statData).sizeAvailable =
        m.longAt req.statData
  | .nsDeviceQuery =>
      (s.queries req.srcAddr.pointer).sizeAvailable =
        m.longAt (req.srcAddr.pointer + 4)
  | _ => True

section Answered

variable {debug : Bool} {source : QuerySource}
variable {req : IOSana2Req} {m : Memory}

theorem answer_queryDevice :
    ((QueryCommand.queryDevice debug source req).run
        BufferOp.exec m).1 =
      if req.statData ≠ 0 then
        if m.longAt req.statData ≥ sizeofDeviceQuery then req
        else
          QueryCommand.fail req s2errBadArgument
            s2werrGenericError
      else
        QueryCommand.fail req s2errBadArgument
          s2werrNullPointer := by
  by_cases hNull : req.statData = 0
  · rw [if_neg (not_not.mpr hNull), queryDevice_null hNull]
    cases debug <;> rfl
  · rw [if_pos hNull]
    exact (Program.Walks.run (fills_queryDevice hNull)).answer

theorem answer_globStats :
    ((QueryCommand.globStats source req).run
        BufferOp.exec m).1 =
      if req.statData ≠ 0 then req
      else
        QueryCommand.fail req s2errBadArgument
          s2werrNullPointer := by
  by_cases hNull : req.statData = 0
  · rw [if_neg (not_not.mpr hNull), globStats_null hNull]
    rfl
  · rw [if_pos hNull]
    exact (Program.Walks.run (@fills_globStats source req m
      hNull)).answer

theorem answer_specialStats :
    ((QueryCommand.specialStats debug source req).run
        BufferOp.exec m).1 =
      if req.statData ≠ 0 then req
      else
        QueryCommand.fail req s2errBadArgument
          s2werrNullPointer := by
  by_cases hNull : req.statData = 0
  · rw [if_neg (not_not.mpr hNull), specialStats_null hNull]
    rfl
  · rw [if_pos hNull]
    exact (Program.Walks.run (fills_specialStats hNull)).answer

theorem answer_queryNsDevice :
    ((QueryCommand.queryNsDevice source req).run
        BufferOp.exec m).1 =
      { req with
        wireError :=
          if req.srcAddr.pointer ≠ 0 ∧
              req.packetType ≥ sizeofNsDeviceQueryResult then
            sizeofNsDeviceQueryResult
          else m.longAt (req.srcAddr.pointer + 4) } := by
  by_cases hFits : req.srcAddr.pointer ≠ 0 ∧
      req.packetType ≥ sizeofNsDeviceQueryResult
  · rw [if_pos hFits]
    exact (Program.Walks.run (@fills_queryNsDevice source req
      m hFits.1 hFits.2)).answer
  · unfold QueryCommand.queryNsDevice Program.onlyIf
    dsimp only
    rw [if_neg hFits, if_neg hFits]
    rfl

end Answered

section Driver

variable {s : Driver} {ios2 : APTR}

theorem sameAnswer_termIo :
    SameAnswer ((s.termIo ios2).reqs ios2) (s.reqs ios2) := by
  unfold SameAnswer
  rw [Driver.reqs_termIo]
  split
  next => exact ⟨rfl, rfl⟩
  next => exact ⟨rfl, rfl⟩

theorem sameAnswer_termWithError
    (req : IOSana2Req)
    (ioError : Int)
    (wireError : ULONG) :
    SameAnswer
      ((s.termWithError ios2 ioError wireError).reqs ios2)
      (QueryCommand.fail req ioError wireError) := by
  have hError :
      (s.setErrorOnRequest ios2 ioError wireError).reqs ios2 =
        QueryCommand.fail (s.reqs ios2) ioError wireError :=
    Function.update_self _ _ _
  unfold Driver.termWithError
  have hTerm := @sameAnswer_termIo
    (s.setErrorOnRequest ios2 ioError wireError) ios2
  rw [hError] at hTerm
  exact hTerm

theorem answers_devCmdDeviceQuery
    {m : Memory}
    (debug : Bool)
    (source : QuerySource)
    (hSize :
      (s.queries (s.reqs ios2).statData).sizeAvailable =
        m.longAt (s.reqs ios2).statData) :
    SameAnswer ((devCmdDeviceQuery ios2 s).reqs ios2)
      ((QueryCommand.queryDevice debug source
        (s.reqs ios2)).run BufferOp.exec m).1 := by
  unfold devCmdDeviceQuery
  dsimp only
  rw [hSize, answer_queryDevice]
  split
  next =>
    split
    next => exact sameAnswer_termIo
    next => exact sameAnswer_termWithError _ _ _
  next => exact sameAnswer_termWithError _ _ _

theorem answers_devCmdStats :
    SameAnswer ((devCmdStats ios2 s).reqs ios2)
      (if (s.reqs ios2).statData ≠ 0 then s.reqs ios2
        else
          QueryCommand.fail (s.reqs ios2) s2errBadArgument
            s2werrNullPointer) := by
  unfold devCmdStats
  split
  next => exact sameAnswer_termIo
  next => exact sameAnswer_termWithError _ _ _

theorem answers_devCmdNsDeviceQuery
    {m : Memory}
    (source : QuerySource)
    (hSize :
      (s.queries (s.reqs ios2).srcAddr.pointer).sizeAvailable =
        m.longAt ((s.reqs ios2).srcAddr.pointer + 4)) :
    SameAnswer ((devCmdNsDeviceQuery ios2 s).reqs ios2)
      ((QueryCommand.queryNsDevice source
        (s.reqs ios2)).run BufferOp.exec m).1 := by
  rw [answer_queryNsDevice]
  unfold devCmdNsDeviceQuery sizeofNsDeviceQueryResult
  dsimp only
  generalize hFilled :
    (if (s.reqs ios2).srcAddr.pointer ≠ 0 ∧
        (s.reqs ios2).packetType ≥ 16#32 then
      s.setQuery (s.reqs ios2).srcAddr.pointer
        (fun query => { query with sizeAvailable := 16#32 })
    else s) = t
  have hReqs : t.reqs = s.reqs := by
    rw [← hFilled]
    split <;> rfl
  have hShown :
      (t.queries (s.reqs ios2).srcAddr.pointer).sizeAvailable =
        if (s.reqs ios2).srcAddr.pointer ≠ 0 ∧
            (s.reqs ios2).packetType ≥ 16#32 then 16#32
        else m.longAt ((s.reqs ios2).srcAddr.pointer + 4) := by
    rw [← hFilled]
    split
    next => simp [Driver.setQuery]
    next => exact hSize
  have hTerm := @sameAnswer_termIo
    (t.setReq ios2 (fun req =>
      { req with
        wireError :=
          (t.queries
            (s.reqs ios2).srcAddr.pointer).sizeAvailable }))
    ios2
  rw [Driver.reqs_setReq, if_pos rfl, hReqs, hShown] at hTerm
  rw [hShown]
  exact hTerm

/- The device driver answers the requests in the same way. -/
theorem performIo_answers
    {c : QueryCommand}
    {m : Memory}
    (debug : Bool)
    (source : QuerySource)
    (o : Outcome)
    (hCommand : (s.reqs ios2).ioCommand = c.command)
    (hShows : c.Shows (s.reqs ios2) s m) :
    SameAnswer ((performIo o ios2 s).reqs ios2)
      (queryResult debug source c (s.reqs ios2) m).1 := by
  have hReq :
      (s.setReq ios2 (fun req =>
          { req with ioError := 0 })).reqs ios2 =
        { s.reqs ios2 with ioError := 0 } :=
    Function.update_self _ _ _
  unfold performIo
  rw [hCommand]
  unfold queryResult QueryCommand.handler
  dsimp only
  rw [← hReq]
  cases c with
  | deviceQuery =>
      apply answers_devCmdDeviceQuery
      rw [hReq]
      exact hShows
  | getGlobalStats =>
      dsimp only
      rw [answer_globStats]
      exact answers_devCmdStats
  | getSpecialStats =>
      dsimp only
      rw [answer_specialStats]
      exact answers_devCmdStats
  | nsDeviceQuery =>
      apply answers_devCmdNsDeviceQuery
      rw [hReq]
      exact hShows

end Driver

end KszDriver
