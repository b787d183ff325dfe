import Mathlib.Data.List.Nodup
import KszDriver.Device.Commands
import KszDriver.Device.Lists

/-
  The packet types that a unit keeps statistics of: a list of
  nodes, and a pointer to the node of one type.

  A request that finds no memory for its node ends without an
  error.  Otherwise the types are a set that each request
  changes as it says.

  Main declarations:
    * `TrackState`, `TrackOp.step`
    * `TrackState.Sound`, `sound_step`
    * `StepLaw`, `LawfulRun`
    * `lawfulRun_iff`
    * `answers_performIo`
-/

------------------------------------------------------------
-- The List of Nodes
------------------------------------------------------------

namespace KszDriver

/- `struct SuperS2PTStats`, at its address. -/
structure StatsNode where
  addr : APTR
  ssPType : ULONG

/- The nodes in `eu_Track`, and where `eu_IPTrack` points to,
   which is 0 for `NULL`. -/
structure TrackState where
  euTrack : List StatsNode
  euIpTrack : APTR

/- `ios2_WireError` is what the request comes with, and
   `allocMem` what `AllocMem` returns if it is called. -/
inductive TrackOp where
| trackType (packetType wireError : ULONG) (allocMem : APTR)
| unTrackType (packetType wireError : ULONG)

/- What a request ends with. -/
structure TrackReply where
  ioError : Int
  wireError : ULONG

def ipPacketType : ULONG := 2048#32

namespace TrackState

def types (s : TrackState) : List ULONG :=
  s.euTrack.map StatsNode.ssPType

def Tracked (s : TrackState) (packetType : ULONG) : Prop :=
  packetType ∈ s.types

/- Where the walk through the list stops: at the node of the
   type, or at the end of the list. -/
def walk (s : TrackState) (packetType : ULONG) :
    Option StatsNode :=
  s.euTrack.find? (fun stats => packetType == stats.ssPType)

/- `AddTail` of a new node. -/
def addStats (s : TrackState) (packetType : ULONG)
    (stats : APTR) : TrackState where
  euTrack := s.euTrack ++ [⟨stats, packetType⟩]
  euIpTrack :=
    if packetType = ipPacketType then stats else s.euIpTrack

/- `Remove` of a node. -/
def removeStats (s : TrackState) (packetType : ULONG)
    (stats : APTR) : TrackState where
  euTrack :=
    s.euTrack.filter (fun node => node.addr != stats)
  euIpTrack :=
    if packetType = ipPacketType then 0 else s.euIpTrack

/- No type is tracked. -/
def empty : TrackState where
  euTrack := []
  euIpTrack := 0

end TrackState

namespace TrackOp

/- `DevCmdTrackType` and `DevCmdUnTrackType`, for a request
   whose `io_Error` is zero. -/
def step : TrackOp → TrackState → TrackReply × TrackState
| .trackType packetType wireError allocMem, s =>
    match s.walk packetType with
    | some _ => (⟨s2errBadState, s2werrAlreadyTracked⟩, s)
    | none =>
        if allocMem ≠ 0 then
          (⟨0, wireError⟩, s.addStats packetType allocMem)
        else (⟨0, wireError⟩, s)
| .unTrackType packetType wireError, s =>
    match s.walk packetType with
    | some stats =>
        (⟨0, wireError⟩, s.removeStats packetType stats.addr)
    | none => (⟨s2errBadState, s2werrNotTracked⟩, s)

/- `AllocMem` returns nothing, or memory that is not in
   use. -/
def Granted : TrackOp → TrackState → Prop
| .trackType _ _ allocMem, s =>
    allocMem ≠ 0 →
      ∀ stats ∈ s.euTrack, stats.addr ≠ allocMem
| .unTrackType _ _, _ => True

/- There is memory for a node that is needed. -/
def Supplied : TrackOp → TrackState → Prop
| .trackType packetType _ allocMem, s =>
    s.Tracked packetType ∨ allocMem ≠ 0
| .unTrackType _ _, _ => True

end TrackOp

------------------------------------------------------------
-- What Requests Are to Do
------------------------------------------------------------

/- The request ends in the error. -/
def TrackReply.EndsWith (reply : TrackReply) (error : ULONG) :
    Prop :=
  reply.ioError = s2errBadState ∧ reply.wireError = error

/- The types are a set, and `eu_IPTrack` points to the node of
   its type, as long as there is one. -/
structure TrackState.Sound (s : TrackState) : Prop where
  types : s.types.Nodup
  addrs : (s.euTrack.map StatsNode.addr).Nodup
  allocated : ∀ stats ∈ s.euTrack, stats.addr ≠ 0
  ipTrack : ∀ stats ∈ s.euTrack,
    stats.ssPType = ipPacketType → s.euIpTrack = stats.addr
  ipNull : ¬s.Tracked ipPacketType → s.euIpTrack = 0

/- What a request says about its type is the case, and no other
   type is affected. -/
def StepLaw : TrackOp → TrackState → Prop
| .trackType packetType wireError allocMem, s =>
    let result :=
      (TrackOp.trackType packetType wireError allocMem).step s
    (result.1.ioError = 0 ↔
      ¬s.Tracked packetType ∧ result.2.Tracked packetType) ∧
    (result.1.EndsWith s2werrAlreadyTracked ↔
      s.Tracked packetType) ∧
    ∀ other, other ≠ packetType →
      (result.2.Tracked other ↔ s.Tracked other)
| .unTrackType packetType wireError, s =>
    let result :=
      (TrackOp.unTrackType packetType wireError).step s
    (result.1.ioError = 0 ↔ s.Tracked packetType) ∧
    ¬result.2.Tracked packetType ∧
    (result.1.EndsWith s2werrNotTracked ↔
      ¬s.Tracked packetType) ∧
    ∀ other, other ≠ packetType →
      (result.2.Tracked other ↔ s.Tracked other)

/- `P` holds in front of every request of a run. -/
def AtEveryStep (P : TrackOp → TrackState → Prop) :
    List TrackOp → TrackState → Prop
| [], _ => True
| op :: ops, s => P op s ∧ AtEveryStep P ops (op.step s).2

/- Every state of a run is sound, and every request does what
   it is to do. -/
def LawfulRun : List TrackOp → TrackState → Prop
| [], s => s.Sound
| op :: ops, s =>
    s.Sound ∧ StepLaw op s ∧ LawfulRun ops (op.step s).2

------------------------------------------------------------
-- One Request
------------------------------------------------------------

section Walk

variable {s : TrackState} {packetType : ULONG}

theorem walk_eq_none_iff :
    s.walk packetType = none ↔ ¬s.Tracked packetType := by
  unfold TrackState.walk TrackState.Tracked TrackState.types
  rw [List.find?_eq_none, List.mem_map]
  constructor
  · rintro hNone ⟨stats, hMem, hType⟩
    exact hNone stats hMem (by simp [hType])
  · intro hNone stats hMem hSame
    exact hNone ⟨stats, hMem, (beq_iff_eq.mp hSame).symm⟩

/- The node that the walk stops at. -/
theorem of_walk_eq_some
    {stats : StatsNode}
    (hWalk : s.walk packetType = some stats) :
    stats ∈ s.euTrack ∧ stats.ssPType = packetType := by
  refine ⟨List.mem_of_find?_eq_some hWalk, ?_⟩
  have hSame := List.find?_some hWalk
  exact (beq_iff_eq.mp hSame).symm

theorem tracked_of_walk
    {stats : StatsNode}
    (hWalk : s.walk packetType = some stats) :
    s.Tracked packetType := by
  obtain ⟨hMem, hType⟩ := of_walk_eq_some hWalk
  exact List.mem_map.mpr ⟨stats, hMem, hType⟩

theorem tracked_addStats (stats : APTR) (other : ULONG) :
    (s.addStats packetType stats).Tracked other ↔
      s.Tracked other ∨ other = packetType := by
  unfold TrackState.Tracked TrackState.types
    TrackState.addStats
  simp

variable (hSound : s.Sound)
include hSound

/- A node is known by its address, and by its type. -/
theorem addr_ne_iff
    {stats node : StatsNode}
    (hWalk : s.walk packetType = some stats)
    (hMem : node ∈ s.euTrack) :
    node.addr ≠ stats.addr ↔ node.ssPType ≠ packetType := by
  obtain ⟨hFound, hType⟩ := of_walk_eq_some hWalk
  rw [← hType]
  apply not_congr
  constructor
  · intro hAddr
    rw [List.inj_on_of_nodup_map hSound.addrs hMem hFound hAddr]
  · intro hSame
    rw [List.inj_on_of_nodup_map hSound.types hMem hFound hSame]

theorem types_removeStats
    {stats : StatsNode}
    (hWalk : s.walk packetType = some stats) :
    (s.removeStats packetType stats.addr).types =
      s.types.erase packetType := by
  rw [hSound.types.erase_eq_filter]
  unfold TrackState.types TrackState.removeStats
  dsimp only
  rw [List.filter_map]
  refine congrArg (List.map StatsNode.ssPType) ?_
  apply List.filter_congr
  intro node hMem
  have hSame := addr_ne_iff hSound hWalk hMem
  rw [Bool.eq_iff_iff]
  simpa [bne_iff_ne] using hSame

theorem tracked_removeStats
    {stats : StatsNode}
    (hWalk : s.walk packetType = some stats)
    (other : ULONG) :
    (s.removeStats packetType stats.addr).Tracked other ↔
      s.Tracked other ∧ other ≠ packetType := by
  unfold TrackState.Tracked
  rw [types_removeStats hSound hWalk,
    hSound.types.mem_erase_iff, and_comm]

/- A new node keeps the list sound. -/
theorem sound_addStats
    {stats : APTR}
    (hNew : ¬s.Tracked packetType)
    (hAllocated : stats ≠ 0)
    (hFree : ∀ node ∈ s.euTrack, node.addr ≠ stats) :
    (s.addStats packetType stats).Sound := by
  have hNodes (node : StatsNode)
      (hMem : node ∈ (s.addStats packetType stats).euTrack) :
      node ∈ s.euTrack ∨ node = ⟨stats, packetType⟩ := by
    rcases List.mem_append.mp hMem with hOld | hLast
    · exact Or.inl hOld
    · exact Or.inr (List.mem_singleton.mp hLast)
  refine ⟨?_, ?_, ?_, ?_, ?_⟩
  · have hTypes : (s.addStats packetType stats).types =
        s.types ++ [packetType] := by
      unfold TrackState.types TrackState.addStats
      simp
    rw [hTypes, List.nodup_append]
    refine ⟨hSound.types, List.nodup_singleton _, ?_⟩
    rintro a hOld b hLast rfl
    rw [List.mem_singleton.mp hLast] at hOld
    exact hNew hOld
  · have hAddrs :
        (s.addStats packetType stats).euTrack.map
            StatsNode.addr =
          s.euTrack.map StatsNode.addr ++ [stats] := by
      unfold TrackState.addStats
      simp
    rw [hAddrs, List.nodup_append]
    refine ⟨hSound.addrs, List.nodup_singleton _, ?_⟩
    rintro a hOld b hLast rfl
    rw [List.mem_singleton.mp hLast] at hOld
    obtain ⟨node, hMem, hAddr⟩ := List.mem_map.mp hOld
    exact hFree node hMem hAddr
  · intro node hMem
    rcases hNodes node hMem with hOld | rfl
    · exact hSound.allocated node hOld
    · exact hAllocated
  · intro node hMem hType
    unfold TrackState.addStats
    dsimp only
    rcases hNodes node hMem with hOld | rfl
    · have hOther : packetType ≠ ipPacketType := by
        rintro rfl
        exact hNew (List.mem_map.mpr ⟨node, hOld, hType⟩)
      rw [if_neg hOther]
      exact hSound.ipTrack node hOld hType
    · exact if_pos hType
  · intro hNone
    rw [tracked_addStats, not_or] at hNone
    unfold TrackState.addStats
    dsimp only
    rw [if_neg (Ne.symm hNone.2)]
    exact hSound.ipNull hNone.1

/- So does a node that is removed. -/
theorem sound_removeStats
    {stats : StatsNode}
    (hWalk : s.walk packetType = some stats) :
    (s.removeStats packetType stats.addr).Sound := by
  have hNodes (node : StatsNode)
      (hMem :
        node ∈ (s.removeStats packetType stats.addr).euTrack) :
      node ∈ s.euTrack ∧ node.ssPType ≠ packetType := by
    obtain ⟨hOld, hAddr⟩ := List.mem_filter.mp hMem
    exact ⟨hOld,
      (addr_ne_iff hSound hWalk hOld).mp (bne_iff_ne.mp hAddr)⟩
  refine ⟨?_, ?_, ?_, ?_, ?_⟩
  · rw [types_removeStats hSound hWalk]
    exact hSound.types.erase packetType
  · exact hSound.addrs.sublist (List.filter_sublist.map _)
  · intro node hMem
    exact hSound.allocated node (hNodes node hMem).1
  · intro node hMem hType
    obtain ⟨hOld, hOther⟩ := hNodes node hMem
    unfold TrackState.removeStats
    dsimp only
    rw [if_neg (fun hSame => hOther (hType.trans hSame.symm))]
    exact hSound.ipTrack node hOld hType
  · intro hNone
    unfold TrackState.removeStats
    dsimp only
    split
    next hSame => rfl
    next hOther =>
      rw [tracked_removeStats hSound hWalk, not_and_or] at hNone
      refine hSound.ipNull (hNone.resolve_right ?_)
      exact not_not_intro (Ne.symm hOther)

end Walk

/- Every request keeps the list sound. -/
theorem sound_step
    {s : TrackState}
    (hSound : s.Sound)
    {op : TrackOp}
    (hGranted : op.Granted s) :
    (op.step s).2.Sound := by
  cases op with
  | trackType packetType wireError allocMem =>
      unfold TrackOp.step
      dsimp only
      cases hWalk : s.walk packetType with
      | some stats => exact hSound
      | none =>
          dsimp only
          split
          next hAllocated =>
            exact sound_addStats hSound
              (walk_eq_none_iff.mp hWalk) hAllocated
              (hGranted hAllocated)
          next => exact hSound
  | unTrackType packetType wireError =>
      unfold TrackOp.step
      dsimp only
      cases hWalk : s.walk packetType with
      | some stats => exact sound_removeStats hSound hWalk
      | none => exact hSound

/- A request does what it is to do exactly when it gets the
   memory that it needs. -/
theorem stepLaw_iff
    {s : TrackState}
    (hSound : s.Sound)
    (op : TrackOp) :
    StepLaw op s ↔ op.Supplied s := by
  have hErrors : s2errBadState ≠ 0 := by decide
  cases op with
  | trackType packetType wireError allocMem =>
      unfold StepLaw TrackOp.step TrackOp.Supplied
      dsimp only
      cases hWalk : s.walk packetType with
      | some stats =>
          have hTracked := tracked_of_walk hWalk
          simp [hTracked, hErrors, TrackReply.EndsWith]
      | none =>
          have hNew := walk_eq_none_iff.mp hWalk
          by_cases hAllocated : allocMem ≠ 0
          · have hAdded :=
              @tracked_addStats s packetType allocMem
            simp +contextual [hNew, hAllocated, hErrors.symm,
              hAdded, TrackReply.EndsWith]
          · simp [hNew, hAllocated, hErrors.symm,
              TrackReply.EndsWith]
  | unTrackType packetType wireError =>
      unfold StepLaw TrackOp.step TrackOp.Supplied
      dsimp only
      cases hWalk : s.walk packetType with
      | some stats =>
          have hTracked := tracked_of_walk hWalk
          have hRemoved := tracked_removeStats hSound hWalk
          simp +contextual [hTracked, hRemoved, hErrors.symm,
            TrackReply.EndsWith]
      | none =>
          have hNew := walk_eq_none_iff.mp hWalk
          simp [hNew, hErrors, TrackReply.EndsWith]

------------------------------------------------------------
-- Runs of Requests
------------------------------------------------------------

theorem sound_empty : TrackState.empty.Sound where
  types := List.nodup_nil
  addrs := List.nodup_nil
  allocated := fun _ hMem => absurd hMem List.not_mem_nil
  ipTrack := fun _ hMem => absurd hMem List.not_mem_nil
  ipNull := fun _ => rfl

theorem lawfulRun_iff_of_sound
    (ops : List TrackOp)
    {s : TrackState}
    (hSound : s.Sound)
    (hGranted : AtEveryStep TrackOp.Granted ops s) :
    LawfulRun ops s ↔ AtEveryStep TrackOp.Supplied ops s := by
  induction ops generalizing s with
  | nil => exact iff_of_true hSound trivial
  | cons op ops ih =>
      have hNext := sound_step hSound hGranted.1
      unfold LawfulRun AtEveryStep
      rw [and_iff_right hSound, stepLaw_iff hSound op,
        ih hNext hGranted.2]

/-
  From the empty list, the types are a set and every request
  does what it is to do, in all of a run, exactly when every
  new type of the run finds memory.
-/
theorem lawfulRun_iff
    (ops : List TrackOp)
    (hGranted :
      AtEveryStep TrackOp.Granted ops TrackState.empty) :
    LawfulRun ops TrackState.empty ↔
      AtEveryStep TrackOp.Supplied ops TrackState.empty :=
  lawfulRun_iff_of_sound ops sound_empty hGranted

/- Two types are tracked, one of them twice, and one no
   longer. -/
theorem lawfulRun_iff_twoTypes :
    LawfulRun
        [.trackType 2048#32 0#32 16,
          .trackType 2054#32 0#32 32,
          .trackType 2048#32 0#32 0,
          .unTrackType 2048#32 0#32]
        TrackState.empty ↔
      AtEveryStep TrackOp.Supplied
        [.trackType 2048#32 0#32 16,
          .trackType 2054#32 0#32 32,
          .trackType 2048#32 0#32 0,
          .unTrackType 2048#32 0#32]
        TrackState.empty := by
  apply lawfulRun_iff
  refine ⟨?_, ?_, ?_, ?_, trivial⟩
  · exact fun _ _ hMem => absurd hMem List.not_mem_nil
  · intro _ stats hMem
    rw [List.mem_singleton.mp hMem]
    decide
  · exact fun hSome => absurd rfl hSome
  · trivial

/- Without memory the type is not tracked, though the request
   ends without an error. -/
theorem not_lawfulRun_noMemory :
    ¬LawfulRun [.trackType 2048#32 0#32 0]
      TrackState.empty := by
  rintro ⟨-, ⟨hEnds, -⟩, -⟩
  exact List.not_mem_nil (hEnds.mp rfl).2

------------------------------------------------------------
-- The Unit
------------------------------------------------------------

/- What the unit knows of the nodes: their types, and whether
   there is one for the Internet protocol. -/
structure TrackState.Represents
    (s : TrackState)
    (d : Driver) : Prop where
  track : d.unit.track = s.types
  ipTrack : d.unit.ipTrack = true ↔ s.euIpTrack ≠ 0

/- The operation that a request is, and the command that it
   comes with. -/
def TrackOp.command : TrackOp → UWORD
| .trackType _ _ _ => s2TrackType
| .unTrackType _ _ => s2UntrackType

def TrackOp.packetType : TrackOp → ULONG
| .trackType packetType _ _ => packetType
| .unTrackType packetType _ => packetType

def TrackOp.wireError : TrackOp → ULONG
| .trackType _ wireError _ => wireError
| .unTrackType _ wireError => wireError

/- What `AllocMem` does to the request. -/
def TrackOp.Meets (o : Outcome) : TrackOp → Prop
| .trackType _ _ allocMem => o.allocMem = true ↔ allocMem ≠ 0
| .unTrackType _ _ => True

/- The driver has done with a request what was done to the
   list. -/
structure Answers
    (ios2 : APTR)
    (result : TrackReply × TrackState)
    (d : Driver) : Prop where
  unit : result.2.Represents d
  ioError : (d.reqs ios2).ioError = result.1.ioError
  wireError : (d.reqs ios2).wireError = result.1.wireError

/- A request ends with the error that it has then. -/
theorem Answers.termIo
    {ios2 : APTR}
    {result : TrackReply × TrackState}
    {d : Driver}
    (hAnswers : Answers ios2 result d) :
    Answers ios2 result (d.termIo ios2) := by
  have hUnit : (d.termIo ios2).unit = d.unit :=
    Driver.unit_of_rest (Driver.rest_termIo d ios2)
  refine ⟨⟨?_, ?_⟩, ?_, ?_⟩
  · rw [hUnit]
    exact hAnswers.unit.track
  · rw [hUnit]
    exact hAnswers.unit.ipTrack
  · rw [Driver.reqs_termIo, ← hAnswers.ioError]
    split <;> rfl
  · rw [Driver.reqs_termIo, ← hAnswers.wireError]
    split <;> rfl

section Commands

variable {s : TrackState} {d : Driver} {ios2 : APTR}
variable {packetType wireError : ULONG}

theorem tracked_of_represents
    (hRepresents : s.Represents d) :
    packetType ∈ d.unit.track ↔ s.Tracked packetType := by
  rw [hRepresents.track]
  exact Iff.rfl

/- A request that ends in an error. -/
theorem answers_termWithError
    (hRepresents : s.Represents d)
    (ioError : Int)
    (error : ULONG) :
    Answers ios2 (⟨ioError, error⟩, s)
      (d.termWithError ios2 ioError error) := by
  have hSet : Answers ios2 (⟨ioError, error⟩, s)
      (d.setErrorOnRequest ios2 ioError error) := by
    refine ⟨⟨hRepresents.track, hRepresents.ipTrack⟩,
      ?_, ?_⟩
    · simp [Driver.setErrorOnRequest]
    · simp [Driver.setErrorOnRequest]
  exact hSet.termIo

theorem answers_devCmdTrackType
    {o : Outcome}
    {allocMem : APTR}
    (hRepresents : s.Represents d)
    (hType : (d.reqs ios2).packetType = packetType)
    (hWire : (d.reqs ios2).wireError = wireError)
    (hClear : (d.reqs ios2).ioError = 0)
    (hAlloc : o.allocMem = true ↔ allocMem ≠ 0) :
    Answers ios2
      ((TrackOp.trackType packetType wireError allocMem).step s)
      (devCmdTrackType o ios2 d) := by
  have hMember := @tracked_of_represents s d packetType
    hRepresents
  unfold devCmdTrackType TrackOp.step
  dsimp only
  rw [hType]
  cases hWalk : s.walk packetType with
  | some stats =>
      rw [if_pos (hMember.mpr (tracked_of_walk hWalk))]
      exact answers_termWithError hRepresents _ _
  | none =>
      have hNew := walk_eq_none_iff.mp hWalk
      rw [if_neg (fun hMem => hNew (hMember.mp hMem))]
      by_cases hSome : allocMem ≠ 0
      · rw [if_pos (hAlloc.mpr hSome)]
        dsimp only
        rw [if_pos hSome]
        apply Answers.termIo
        refine ⟨⟨?_, ?_⟩, hClear, hWire⟩
        · unfold Driver.setUnit TrackState.addStats
            TrackState.types
          simp [hRepresents.track, TrackState.types]
        · unfold Driver.setUnit TrackState.addStats ipPacketType
          dsimp only
          split
          next => simp [hSome]
          next => exact hRepresents.ipTrack
      · rw [if_neg (fun hTaken => hSome (hAlloc.mp hTaken))]
        dsimp only
        rw [if_neg hSome]
        apply Answers.termIo
        exact ⟨hRepresents, hClear, hWire⟩

theorem answers_devCmdUnTrackType
    (hSound : s.Sound)
    (hRepresents : s.Represents d)
    (hType : (d.reqs ios2).packetType = packetType)
    (hWire : (d.reqs ios2).wireError = wireError)
    (hClear : (d.reqs ios2).ioError = 0) :
    Answers ios2
      ((TrackOp.unTrackType packetType wireError).step s)
      (devCmdUnTrackType ios2 d) := by
  have hMember := @tracked_of_represents s d packetType
    hRepresents
  unfold devCmdUnTrackType TrackOp.step
  dsimp only
  rw [hType]
  cases hWalk : s.walk packetType with
  | some stats =>
      rw [if_pos (hMember.mpr (tracked_of_walk hWalk))]
      apply Answers.termIo
      refine ⟨⟨?_, ?_⟩, hClear, hWire⟩
      · dsimp only
        rw [types_removeStats hSound hWalk, ← hRepresents.track]
        rfl
      · unfold Driver.setUnit TrackState.removeStats ipPacketType
        dsimp only
        split
        next => simp
        next => exact hRepresents.ipTrack
  | none =>
      have hNew := walk_eq_none_iff.mp hWalk
      rw [if_neg (fun hMem => hNew (hMember.mp hMem))]
      exact answers_termWithError hRepresents _ _

/- So does the dispatcher, which clears the error first. -/
theorem answers_performIo
    {o : Outcome}
    {op : TrackOp}
    (hSound : s.Sound)
    (hRepresents : s.Represents d)
    (hCommand : (d.reqs ios2).ioCommand = op.command)
    (hType : (d.reqs ios2).packetType = op.packetType)
    (hWire : (d.reqs ios2).wireError = op.wireError)
    (hAlloc : op.Meets o) :
    Answers ios2 (op.step s) (performIo o ios2 d) := by
  have hCleared : s.Represents
      (d.setReq ios2 (fun req => { req with ioError := 0 })) :=
    ⟨hRepresents.track, hRepresents.ipTrack⟩
  unfold performIo
  rw [hCommand]
  cases op with
  | trackType packetType wireError allocMem =>
      apply answers_devCmdTrackType hCleared
      · rw [Driver.reqs_setReq, if_pos rfl]
        exact hType
      · rw [Driver.reqs_setReq, if_pos rfl]
        exact hWire
      · rw [Driver.reqs_setReq, if_pos rfl]
      · exact hAlloc
  | unTrackType packetType wireError =>
      apply answers_devCmdUnTrackType hSound hCleared
      · rw [Driver.reqs_setReq, if_pos rfl]
        exact hType
      · rw [Driver.reqs_setReq, if_pos rfl]
        exact hWire
      · rw [Driver.reqs_setReq, if_pos rfl]

end Commands

end KszDriver
