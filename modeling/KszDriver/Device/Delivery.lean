import KszDriver.Device.Events
import KszDriver.Device.OrphanRule

/-
  What `fulfillReadIORequest` writes into a request and what
  it copies to the client.

  Main declarations:
    * `PacketInfo`, `Driver.SameInfo`
    * `packetInfo_fulfillReadIORequest`
    * `copied_fulfillReadIORequest`
-/

------------------------------------------------------------
-- The Description of a Packet
------------------------------------------------------------

namespace KszDriver

open Driver

/- The fields of a request that describe a packet. -/
structure PacketInfo where
  dstAddr : MacAddr
  srcAddr : MacAddr
  packetType : ULONG
  dataLength : ULONG
  ioFlags : UBYTE

def IOSana2Req.packetInfo (req : IOSana2Req) : PacketInfo where
  dstAddr := req.dstAddr
  srcAddr := req.srcAddr
  packetType := req.packetType
  dataLength := req.dataLength
  ioFlags := req.ioFlags

namespace Driver

/- No request is described anew. -/
def SameInfo (s s' : Driver) : Prop :=
  ∀ r, (s'.reqs r).packetInfo = (s.reqs r).packetInfo

variable {s s' s'' : Driver}

theorem SameInfo.trans
    (hFirst : SameInfo s s')
    (hSecond : SameInfo s' s'') :
    SameInfo s s'' := by
  intro r
  rw [hSecond r, hFirst r]

theorem sameInfo_setReq
    (s : Driver)
    (ios2 : APTR)
    {f : IOSana2Req → IOSana2Req}
    (hInfo : ∀ req, (f req).packetInfo = req.packetInfo) :
    SameInfo s (s.setReq ios2 f) := by
  intro r
  rw [reqs_setReq]
  split
  · rename_i hSame
    rw [hInfo, hSame]
  · rfl

theorem sameInfo_remove (s : Driver) (ios2 : APTR) :
    SameInfo s (s.remove ios2) :=
  fun _ => rfl

theorem sameInfo_termIo (s : Driver) (ios2 : APTR) :
    SameInfo s (s.termIo ios2) := by
  intro r
  rw [reqs_termIo]
  split
  · rename_i hSame
    rw [hSame.1]
    rfl
  · rfl

theorem sameInfo_retire
    (s : Driver)
    (ios2 : APTR)
    {f : IOSana2Req → IOSana2Req}
    (hInfo : ∀ req, (f req).packetInfo = req.packetInfo) :
    SameInfo s (s.retire ios2 f) :=
  ((sameInfo_setReq s ios2 hInfo).trans
    (sameInfo_remove _ ios2)).trans (sameInfo_termIo _ ios2)

theorem sameInfo_setErrorOnRequest
    (s : Driver)
    (ios2 : APTR)
    (ioError : Int)
    (wireError : ULONG) :
    SameInfo s (s.setErrorOnRequest ios2 ioError wireError) :=
  sameInfo_setReq s ios2 (fun _ => rfl)

theorem sameInfo_doEventLoop
    (events : ULONG)
    (rs : List APTR)
    (s : Driver) :
    SameInfo s (doEventLoop events rs s) := by
  induction rs generalizing s with
  | nil => exact fun _ => rfl
  | cons ios2 rs ih =>
      by_cases hAwaits : (s.reqs ios2).Awaits events
      · rw [doEventLoop_cons_of_awaits rs hAwaits]
        refine SameInfo.trans (sameInfo_retire s ios2 ?_) (ih _)
        exact fun _ => rfl
      · rw [doEventLoop_cons_of_not_awaits rs hAwaits]
        exact ih s

theorem sameInfo_doEvent (s : Driver) (events : ULONG) :
    SameInfo s (s.doEvent events) := by
  have hFired : SameInfo s (s.record (.fired events)) :=
    fun _ => rfl
  exact hFired.trans (sameInfo_doEventLoop events _ _)

end Driver

------------------------------------------------------------
-- One Request
------------------------------------------------------------

section Fulfilling

variable {s : Driver} {ios2 : APTR}

/- The packet is described in the request that it is offered
   to, whatever the callbacks say, and in no other. -/
theorem packetInfo_fulfillReadIORequest
    (o : Outcome)
    (head : ListHead)
    (buffer : Memory)
    (size : UWORD)
    (hBm : (s.reqs ios2).bufferManagement ≠ 0)
    (r : APTR) :
    ((fulfillReadIORequest o head ios2 buffer size
        s).2.reqs r).packetInfo =
      if r = ios2 then
        (describePacket buffer size (s.reqs ios2)).packetInfo
      else (s.reqs r).packetInfo := by
  have hDescribed :
      ((s.setReq ios2 (describePacket buffer size)).reqs
          r).packetInfo =
        if r = ios2 then
          (describePacket buffer size (s.reqs ios2)).packetInfo
        else (s.reqs r).packetInfo := by
    rw [reqs_setReq]
    split <;> rfl
  rw [← hDescribed]
  unfold fulfillReadIORequest
  rw [if_pos hBm]
  dsimp only
  split
  · split
    · exact sameInfo_termIo _ ios2 r
    · dsimp only
      have hOffered :
          SameInfo
            (s.setReq ios2 (describePacket buffer size))
            ((s.setReq ios2 (describePacket buffer size)).record
              (.offered head ios2 false)) :=
        fun _ => rfl
      have hMarked := sameInfo_setErrorOnRequest
        ((s.setReq ios2 (describePacket buffer size)).record
          (.offered head ios2 false))
        ios2 s2errNoResources s2werrBuffError
      have hFired := (hOffered.trans hMarked).trans
        (sameInfo_doEvent _ s2eventBuff)
      have hTaken := hFired.trans (sameInfo_remove _ ios2)
      exact hTaken.trans (sameInfo_termIo _ ios2) r
  · rfl

/- Where the opener accepts, the packet is copied to the
   request and the request is terminated. -/
theorem fulfillReadIORequest_of_accepts
    {o : Outcome}
    (head : ListHead)
    (buffer : Memory)
    (size : UWORD)
    (hAccepts : Accepts o s ios2) :
    fulfillReadIORequest o head ios2 buffer size s =
      (true,
        ((((s.setReq ios2 (describePacket buffer size)).record
          (.copiedToBuffer ios2
            (deliveredBytes buffer size (s.reqs ios2)))).record
          (.offered head ios2 true)).remove ios2).termIo
            ios2) := by
  unfold fulfillReadIORequest
  rw [if_pos hAccepts.1]
  dsimp only
  rw [if_pos hAccepts.2.1, if_pos hAccepts.2.2]

/- Where it does not, nothing is copied. -/
theorem grows_refused
    {o : Outcome}
    (head : ListHead)
    (buffer : Memory)
    (size : UWORD)
    (hRefuses : ¬ Accepts o s ios2) :
    ∃ newer,
      GrowsBy newer s
        (fulfillReadIORequest o head ios2 buffer size s).2 ∧
      ∀ event ∈ newer, ∀ r bytes,
        event ≠ .copiedToBuffer r bytes := by
  have hOffered (f : IOSana2Req → IOSana2Req) :
      GrowsBy [.offered head ios2 false] s
        ((s.setReq ios2 f).record (.offered head ios2 false)) :=
    rfl
  unfold fulfillReadIORequest
  split
  · rename_i hBm
    dsimp only
    split
    · rename_i hFilter
      rw [if_neg (fun hCopy => hRefuses ⟨hBm, hFilter, hCopy⟩)]
      dsimp only
      rcases grows_doEvent s2eventBuff
        (((s.setReq ios2 (describePacket buffer size)).record
          (.offered head ios2 false)).setErrorOnRequest ios2
            s2errNoResources s2werrBuffError) with
        ⟨newer, hGrows, hEvents⟩
      refine ⟨_, ((hOffered _).trans hGrows).trans
        (grows_termIo _ ios2), ?_⟩
      rintro event hMem r bytes rfl
      rcases List.mem_append.mp hMem with hMem | hMem
      · simp at hMem
      · rcases List.mem_append.mp hMem with hMem | hMem
        · exact hEvents _ hMem
        · simp at hMem
    · exact ⟨_, hOffered _, by simp⟩
  · exact ⟨[.offered head ios2 false], rfl, by simp⟩

/- Nothing is copied but the bytes of the packet. -/
theorem copied_fulfillReadIORequest
    {o : Outcome}
    {head : ListHead}
    {buffer : Memory}
    {size : UWORD}
    {bytes : List UBYTE}
    (hCopied : .copiedToBuffer ios2 bytes ∈
      s.since (fulfillReadIORequest o head ios2 buffer size
        s).2) :
    bytes = deliveredBytes buffer size (s.reqs ios2) := by
  by_cases hAccepts : Accepts o s ios2
  · rw [fulfillReadIORequest_of_accepts head buffer size
      hAccepts] at hCopied
    have hGrows :
        GrowsBy
          [.terminated ios2 _, .offered head ios2 true,
            .copiedToBuffer ios2
              (deliveredBytes buffer size (s.reqs ios2))] s
          ((((s.setReq ios2
            (describePacket buffer size)).record
            (.copiedToBuffer ios2
              (deliveredBytes buffer size
                (s.reqs ios2)))).record
            (.offered head ios2 true)).remove ios2 |>.termIo
              ios2) :=
      log_termIo _ ios2
    rw [since_of_append hGrows] at hCopied
    simpa using hCopied
  · rcases grows_refused head buffer size hAccepts with
      ⟨newer, hGrows, hNone⟩
    rw [since_of_append hGrows] at hCopied
    exact absurd rfl (hNone _ hCopied ios2 bytes)

end Fulfilling

end KszDriver
