import KszDriver.Device.EndToEnd
import KszDriver.Device.RawAndCooked
import KszDriver.Nic.RxQueue
import Mathlib.Data.List.GetD
import Mathlib.Data.List.OfFn

/-
  Packets on their way from the clients of one station to
  those of another one.

  A cooked packet becomes a frame with the address of the
  station that sends it.  The chip transmits the bytes that
  its header counts, another chip puts them into its receive
  queue, and the driver there hands them on, in the order in
  which they were written.  A read gets the addresses, the
  type and the payload back, but a short payload comes with
  what it was padded with.

  Main declarations:
    * `Letter`, `Posts`
    * `Mails`, `Arrives`, `Receives`
    * `mail_end_to_end`
-/

------------------------------------------------------------
-- Letters
------------------------------------------------------------

namespace KszDriver

open Driver

/- A cooked packet that a client writes, with its request. -/
structure Letter where
  ios2 : APTR
  outcome : Outcome
  dst : MacAddr
  packetType : ULONG
  payload : List UBYTE

namespace Letter

/- The request is submitted. -/
def post (l : Letter) (s : Driver) : Driver :=
  s.next (.beginIo l.ios2 l.outcome)

/- The letter can be sent by the station `src`. -/
structure Postable
    (src : MacAddr) (l : Letter) (s : Driver) : Prop where
  write :
    CookedWrite l.dst src l.packetType l.payload l.outcome
      l.ios2 s
  short : l.payload.length ≤ 1500
  copies : Copies l.outcome l.ios2 s
  room : HasRoom l.payload s

/- The type that goes into the Ethernet header. -/
def etherType (l : Letter) : UWORD :=
  l.packetType.setWidth 16

/- A frame that carries the letter; what a short payload is
   padded with is left open. -/
def IsFrameOf
    (src : MacAddr) (l : Letter) (frame : List UBYTE) : Prop :=
  ∃ pad : List UBYTE,
    pad.length = 46 - l.payload.length ∧
      frame =
        frameHead l.dst.memory src.memory l.etherType ++
          (l.payload ++ pad)

end Letter

/- One letter after the other can be sent. -/
def Posts (src : MacAddr) : List Letter → Driver → Prop
| [], _ => True
| l :: ls, s => l.Postable src s ∧ Posts src ls (l.post s)

------------------------------------------------------------
-- Frames on the Wire
------------------------------------------------------------

/- The chip is told to transmit this frame, and no other
   one. -/
def TransmitsFrame (frame : List UBYTE) (s s' : Driver) : Prop :=
  ∃ ws, s'.nic.chip.frames = s.nic.chip.frames ++ [ws] ∧
    coveredBytes
      ((portOrder s.nic.iface.isInBigEndianMode).bytes ws) =
      frame

/- Submitting the letters has these frames transmitted. -/
def Mails : List Letter → List (List UBYTE) → Driver → Prop
| [], frames, _ => frames = []
| l :: ls, frames, s => ∃ frame rest,
    frames = frame :: rest ∧ TransmitsFrame frame s (l.post s) ∧
      Mails ls rest (l.post s)

/-
  A frame in the receive queue of a chip: it is valid, and
  behind three words come two bytes, the frame and its
  checksum, which are counted without the three words.
-/
structure Arrives
    (isInBigEndianMode : Bool)
    (frame : List UBYTE)
    (f : RxFrame) : Prop where
  valid : f.status &&& rxfhsrRxfv ≠ 0#16
  count : f.length.toNat = frame.length + 6
  words : ∃ header words dummy crc pad,
    f.words = header ++ words ∧
      header.length = 3 ∧ dummy.length = 2 ∧
      crc.length = 4 ∧
      (portOrder isInBigEndianMode).bytes words =
        dummy ++ frame ++ crc ++ pad

/- These frames, and no other ones, are in the queue of a chip
   whose driver hands them on, and they are counted. -/
structure Receives
    (isInBigEndianMode : Bool)
    (frames : List (List UBYTE))
    (q : RxChip) : Prop where
  mode : q.nic.iface.isInBigEndianMode = isInBigEndianMode
  called : q.nic.iface.onPacketReceived = true
  presents : q.Presents
  queue :
    List.Forall₂ (Arrives isInBigEndianMode) frames q.queue
  counted : q.frameCount = q.queue.length

------------------------------------------------------------
-- Sending
------------------------------------------------------------

section Sending

variable {src : MacAddr} {l : Letter} {s : Driver}
variable {frame : List UBYTE}

/- The frame that a cooked packet becomes carries it. -/
theorem Letter.Postable.isFrameOf
    (hPostable : l.Postable src s) :
    l.IsFrameOf src (sentFrame l.outcome l.ios2 s) := by
  have hWrite := hPostable.write
  have hData := hWrite.dataLength
  have hPayload := hWrite.payload
  rw [← sentMemory_bytes] at hPayload
  have hPadded :
      (s.reqs l.ios2).dataLength.toNat ≤
        paddedLength (s.reqs l.ios2).dataLength.toNat := by
    unfold paddedLength
    split <;> omega
  refine ⟨((sentMemory l.outcome l.ios2 s).bytes
    (paddedLength (s.reqs l.ios2).dataLength.toNat)).drop
      (s.reqs l.ios2).dataLength.toNat, ?_, ?_⟩
  · rw [List.length_drop, Memory.length_bytes, hData]
    unfold paddedLength
    split <;> omega
  · rw [← Memory.take_bytes _ hPadded] at hPayload
    rw [← hPayload, List.take_append_drop, ← hWrite.dst,
      ← hWrite.src]
    unfold Letter.etherType
    rw [← hWrite.packetType]
    rfl

/- A letter that can be sent is sent. -/
theorem Letter.Postable.transmitsFrame
    (hPostable : l.Postable src s)
    (hFifo : s.nic.chip.fifo = []) :
    TransmitsFrame (sentFrame l.outcome l.ios2 s) s (l.post s) ∧
      (l.post s).nic.chip.fifo = [] := by
  have hWrite := hPostable.write
  have hBoth := (transmitted_iff hWrite.reach hWrite.online
    hWrite.allowed hWrite.write).mp
      (hWrite.transmitted hPostable.short hPostable.copies
        hPostable.room).1
  rcases hWrite.sendsFrame hBoth.1 hBoth.2 with
    ⟨ws, hStarted, hCovered⟩
  have hFrames := hStarted.frames
  rw [hFifo, List.nil_append] at hFrames
  exact ⟨⟨ws, hFrames, hCovered⟩, hStarted.fifo⟩

/- All of them are sent, in order. -/
theorem mails_of_posts
    {letters : List Letter}
    (hPosts : Posts src letters s)
    (hFifo : s.nic.chip.fifo = []) :
    ∃ frames, Mails letters frames s ∧
      List.Forall₂ (Letter.IsFrameOf src) letters frames := by
  induction letters generalizing s with
  | nil => exact ⟨[], rfl, .nil⟩
  | cons l letters ih =>
      rcases hPosts with ⟨hPostable, hRest⟩
      rcases hPostable.transmitsFrame hFifo with
        ⟨hTransmits, hEmpty⟩
      rcases ih hRest hEmpty with ⟨frames, hMails, hFrames⟩
      exact ⟨_ :: frames, ⟨_, frames, rfl, hTransmits, hMails⟩,
        .cons hPostable.isFrameOf hFrames⟩

/- Each of the letters is short enough. -/
theorem short_of_posts
    {letters : List Letter}
    (hPosts : Posts src letters s) :
    ∀ l ∈ letters, l.payload.length ≤ 1500 := by
  induction letters generalizing s with
  | nil => exact fun l hNone => nomatch hNone
  | cons l letters ih =>
      intro l' hMem
      rcases List.mem_cons.mp hMem with rfl | hLater
      · exact hPosts.1.short
      · exact ih hPosts.2 l' hLater

theorem Letter.IsFrameOf.length
    (hFrame : l.IsFrameOf src frame) :
    frame.length = 14 + max 46 l.payload.length := by
  rcases hFrame with ⟨pad, hPad, rfl⟩
  rw [List.length_append, List.length_append,
    length_frameHead, hPad]
  omega

/- Then none of the frames is too long. -/
theorem most_of_frames
    {letters : List Letter}
    {frames : List (List UBYTE)}
    (hFrames :
      List.Forall₂ (Letter.IsFrameOf src) letters frames)
    (hShort : ∀ l ∈ letters, l.payload.length ≤ 1500) :
    ∀ frame ∈ frames, frame.length ≤ 1514 := by
  induction hFrames with
  | nil => exact fun frame hNone => nomatch hNone
  | cons hFrame _ ih =>
      intro frame hMem
      rcases List.mem_cons.mp hMem with rfl | hLater
      · rw [hFrame.length]
        have hFirst := hShort _ List.mem_cons_self
        omega
      · exact ih (fun l hIn =>
          hShort l (List.mem_cons_of_mem _ hIn)) frame hLater

end Sending

------------------------------------------------------------
-- Receiving
------------------------------------------------------------

/- What is related by the elements in between. -/
theorem forall₂_comp
    {α β γ : Type}
    {R : α → β → Prop}
    {S : β → γ → Prop}
    {as : List α}
    {bs : List β}
    {cs : List γ}
    (hFirst : List.Forall₂ R as bs)
    (hThen : List.Forall₂ S bs cs) :
    List.Forall₂ (fun a c => ∃ b, R a b ∧ S b c) as cs := by
  induction hFirst generalizing cs with
  | nil =>
      cases hThen
      exact .nil
  | cons hHead _ ih =>
      cases hThen with
      | cons hHead' hTail' =>
          exact .cons ⟨_, hHead, hHead'⟩ (ih hTail')

/- The packet that is handed on for a frame. -/
def IsPacketOfFrame
    (frame : List UBYTE) (packet : Memory × UWORD) : Prop :=
  packet.2.toNat = frame.length ∧
    packet.1.bytes frame.length = frame

section Receiving

variable {isInBigEndianMode : Bool} {frame : List UBYTE}
variable {f : RxFrame} {packet : Memory × UWORD}
variable {q : RxChip}

theorem Arrives.acceptable
    (hArrives : Arrives isInBigEndianMode frame f)
    (hMost : frame.length ≤ 1514) :
    f.Acceptable := by
  refine ⟨hArrives.valid, ?_, ?_⟩
  · intro hZero
    have hCount := hArrives.count
    rw [hZero] at hCount
    exact absurd hCount (Nat.succ_ne_zero _).symm
  · rw [hArrives.count]
    unfold ethMaxFrameSize
    omega

/- Without the dummy bytes and the checksum, the frame is what
   is handed on. -/
theorem Arrives.isPacketOfFrame
    (hArrives : Arrives isInBigEndianMode frame f)
    (hPacket : f.IsPacketOf isInBigEndianMode packet) :
    IsPacketOfFrame frame packet := by
  rcases hArrives.words with
    ⟨header, words, dummy, crc, pad, hWords, hHeader, hDummy,
      hCrc, hBytes⟩
  have hCount := hArrives.count
  have hSize :=
    (toNat_size_iff f.length).mpr (by
      rw [hCount]
      omega)
  refine ⟨?_, ?_⟩
  · rw [hPacket.1]
    omega
  · have hRest : f.words.drop 3 = words := by
      rw [hWords, ← hHeader, List.drop_left]
    have hLong : 2 + frame.length ≤ 2 * words.length := by
      have hLength := congrArg List.length hBytes
      rw [WordOrder.length_bytes] at hLength
      simp only [List.length_append] at hLength
      omega
    have hRead : 2 + frame.length ≤
        2 * (readLength f.length.toNat / 2) := by
      rw [hCount]
      unfold readLength
      omega
    have hFront :
        ((portOrder isInBigEndianMode).bytes f.dataWords).take
            (2 + frame.length) =
          dummy ++ frame := by
      have hQueue := take_bytes_rxWords
        (n := offlineNic.setChip (fun c =>
          { c with rxq := words }))
        (portOrder isInBigEndianMode) hRead hLong
      unfold RxFrame.dataWords
      rw [hRest]
      refine hQueue.trans ?_
      show List.take _ ((portOrder isInBigEndianMode).bytes
        words) = _
      rw [hBytes, List.append_assoc]
      apply List.take_left'
      rw [List.length_append, hDummy]
    have hInside : frame.length ≤
        readLength f.length.toNat - 2 := by
      unfold readLength at hRead ⊢
      omega
    have hDropped := congrArg (List.drop 2) hFront
    rw [List.drop_take, Nat.add_sub_cancel_left,
      List.drop_left' hDummy] at hDropped
    rw [← Memory.take_bytes _ hInside, hPacket.2, hDropped]

/- All frames in the queue are handed on, in order. -/
theorem handedOn_of_receives
    {frames : List (List UBYTE)}
    {status : UWORD}
    (enableMask : UWORD)
    (hReceives : Receives isInBigEndianMode frames q)
    (hMost : ∀ frame ∈ frames, frame.length ≤ 1514)
    (hReceived : status &&& isrRxis ≠ 0#16) :
    ∃ packets,
      ((handleReceive status
          enableMask).runAt q).2.nic.delivered =
        q.nic.delivered ++ packets ∧
      List.Forall₂ IsPacketOfFrame frames packets ∧
      ((handleReceive status enableMask).runAt q).2.queue =
        [] := by
  rcases handleReceive_of_received enableMask
    hReceives.presents hReceived with
    ⟨r, hRun, hPresents, hQueue, hSame⟩
  have hAcceptable : ∀ f ∈ q.queue, f.Acceptable := by
    intro f hMem
    rcases List.forall₂_iff_get.mp hReceives.queue with
      ⟨hLength, hAll⟩
    rcases List.mem_iff_get.mp hMem with ⟨i, rfl⟩
    have hInside : i.1 < frames.length := by
      rw [hLength]
      exact i.2
    exact (hAll i.1 hInside i.2).acceptable
      (hMost _ (List.get_mem _ _))
  have hCounted : q.frameCount ≤ r.queue.length := by
    rw [hReceives.counted, hQueue]
  have hConsumed := consumed_receiveLoop hPresents
    (fun f hMem => Or.inl (hAcceptable f (by
      rw [← hQueue]
      exact List.mem_of_mem_take hMem)).1) hCounted
  rcases hConsumed.delivered with ⟨packets, hPackets, hGrown⟩
  have hAll : r.queue.take q.frameCount = q.queue := by
    rw [hQueue, hReceives.counted, List.take_length]
  rw [hAll, List.filter_eq_self.mpr (fun f hMem =>
      decide_eq_true (hAcceptable f hMem)),
    hSame.iface, hReceives.mode] at hPackets
  rw [hSame.iface, hReceives.called, if_pos rfl,
    hSame.delivered] at hGrown
  refine ⟨packets, ?_, ?_, ?_⟩
  · rw [hRun, hGrown]
  · apply (forall₂_comp hReceives.queue hPackets).imp
    rintro frame packet ⟨f, hArrives, hPacket⟩
    exact hArrives.isPacketOfFrame hPacket
  · rw [hRun, hConsumed.queue, hQueue, hReceives.counted,
      List.drop_length]

end Receiving

------------------------------------------------------------
-- From Client to Client
------------------------------------------------------------

/-
  The read is terminated with the letter: its addresses, its
  type and its payload, behind the header if the read is raw,
  and with what the payload was padded with.
-/
def Letter.Reaches
    (src : MacAddr)
    (l : Letter)
    (bm r : APTR)
    (t t' : Driver) : Prop :=
  ∃ pad req,
    pad.length = 46 - l.payload.length ∧
    packetStory r t'.log =
      [.terminated r req, .offered (.bmRxQueue bm) r true,
        .copiedToBuffer r
          (if (t.reqs r).Raw then
            frameHead l.dst.memory src.memory l.etherType ++
              (l.payload ++ pad)
          else l.payload ++ pad)] ++ packetStory r t.log ∧
    req.ioError = 0 ∧ req.dstAddr = l.dst ∧
    req.srcAddr = src ∧
    req.packetType.toNat = l.etherType.toNat ∧
    req.dataLength.toNat =
      (if (t.reqs r).Raw then 14 else 0) +
        max 46 l.payload.length

section Delivery

variable {src : MacAddr} {l : Letter}
variable {frame : List UBYTE} {packet : Memory × UWORD}

theorem type_bigEndian (word : UWORD) :
    (highByte word).toNat * 256 + (lowByte word).toNat =
      word.toNat := by
  rw [← toNat_wordOf, wordOf_bytes]

/- The parts of a frame that carries the letter. -/
theorem Letter.IsFrameOf.parts
    (hFrame : l.IsFrameOf src frame) :
    frame.take 6 = List.ofFn l.dst ∧
      (frame.drop 6).take 6 = List.ofFn src ∧
      (frame.getD 12 0#8).toNat * 256 +
          (frame.getD 13 0#8).toNat =
        l.etherType.toNat := by
  rcases hFrame with ⟨pad, -, rfl⟩
  refine ⟨rfl, rfl, ?_⟩
  exact type_bigEndian l.etherType

theorem Letter.IsFrameOf.reaches
    {bm r : APTR}
    {t t' : Driver}
    (hFrame : l.IsFrameOf src frame)
    (hGets : GetsFrame frame bm r t t') :
    l.Reaches src bm r t t' := by
  rcases hGets with ⟨bytes, req, hStory, hHolds⟩
  have hParts := hFrame.parts
  have hLength := hFrame.length
  rcases hFrame with ⟨pad, hPad, hBytes⟩
  refine ⟨pad, req, hPad, ?_, hHolds.noError, ?_, ?_, ?_, ?_⟩
  · rw [hStory, hHolds.bytes, hBytes,
      List.drop_left' (length_frameHead _ _ _)]
    simp only [decide_eq_true_eq]
  · exact List.ofFn_injective
      (hHolds.dstAddr.trans hParts.1)
  · exact List.ofFn_injective
      (hHolds.srcAddr.trans hParts.2.1)
  · exact hHolds.packetType.trans hParts.2.2
  · rw [hHolds.dataLength]
    simp only [decide_eq_true_eq]
    split <;> omega

/-
  Whoever has a matching read pending when the packet comes
  gets the letter, if the callbacks accept it.
-/
def Letter.IsDelivered
    (src : MacAddr)
    (l : Letter)
    (packet : Memory × UWORD) : Prop :=
  ∀ t, deviceMachine.Reach Machine.Free t →
    ∀ o, ∀ bm ∈ t.unit.buffMgmt,
      (∃ r ∈ t.lists (.bmRxQueue bm),
        TypeMatches (t.reqs r).packetType l.etherType) →
      ∃ r ∈ t.lists (.bmRxQueue bm),
        TypeMatches (t.reqs r).packetType l.etherType ∧
          (o.callFilterHook r = true →
            o.copyToBuffer r = true →
              l.Reaches src bm r t
                (t.next (.pktReceived packet.1 packet.2 o)))

theorem Letter.IsFrameOf.isDelivered
    (hFrame : l.IsFrameOf src frame)
    (hShort : l.payload.length ≤ 1500)
    (hPacket : IsPacketOfFrame frame packet) :
    l.IsDelivered src packet := by
  intro t hReach o bm hOpen hPending
  have hLength := hFrame.length
  have hType : packetTypeOf packet.1 = l.etherType := by
    rw [packetTypeOf_eq hPacket.2 (by omega)]
    apply BitVec.eq_of_toNat_eq
    rw [← hFrame.parts.2.2]
    exact toNat_wordOf _ _
  rw [← hType] at hPending ⊢
  rcases exists_chosen hOpen hPending with ⟨r, hChosen⟩
  refine ⟨r, chosen_mem hChosen, typeMatches_of_chosen hChosen,
    fun hFilter hCopy => ?_⟩
  exact hFrame.reaches (getsFrame_pktReceived hReach hPacket.2
    hPacket.1 (by omega) (by omega) hChosen hFilter hCopy)

/-
  Letters that are written one after the other are sent as
  one frame each.  Where these frames arrive, one interrupt
  hands on one packet for each letter, in order, from which a
  pending read gets the letter.
-/
theorem mail_end_to_end
    {letters : List Letter}
    {s : Driver}
    (hPosts : Posts src letters s)
    (hFifo : s.nic.chip.fifo = []) :
    ∃ frames, Mails letters frames s ∧
      List.Forall₂ (Letter.IsFrameOf src) letters frames ∧
      ∀ isInBigEndianMode q status enableMask,
        Receives isInBigEndianMode frames q →
        status &&& isrRxis ≠ 0#16 →
        ∃ packets,
          ((handleReceive status
              enableMask).runAt q).2.nic.delivered =
            q.nic.delivered ++ packets ∧
          List.Forall₂ (Letter.IsDelivered src) letters
            packets ∧
          ((handleReceive status
            enableMask).runAt q).2.queue = [] := by
  rcases mails_of_posts hPosts hFifo with
    ⟨frames, hMails, hFrames⟩
  refine ⟨frames, hMails, hFrames, ?_⟩
  intro isInBigEndianMode q status enableMask hReceives
    hReceived
  have hShort := short_of_posts hPosts
  have hMost := most_of_frames hFrames hShort
  rcases handedOn_of_receives enableMask hReceives hMost
    hReceived with ⟨packets, hDelivered, hPackets, hEmpty⟩
  refine ⟨packets, hDelivered, ?_, hEmpty⟩
  have hBoth := forall₂_comp
    ((List.forall₂_and_left letters frames).mpr
      ⟨hShort, hFrames⟩) hPackets
  apply hBoth.imp
  rintro l packet ⟨frame, ⟨hShort, hFrame⟩, hPacket⟩
  exact hFrame.isDelivered hShort hPacket

end Delivery

------------------------------------------------------------
-- A Letter That Arrives
------------------------------------------------------------

/- How a chip keeps a frame, with zeros around it. -/
def RxFrame.ofFrame
    (isInBigEndianMode : Bool)
    (frame : List UBYTE) : RxFrame where
  status := rxfhsrRxfv
  byteCount := BitVec.ofNat 16 (frame.length + 6)
  words := List.replicate 3 0#16 ++
    (portOrder isInBigEndianMode).words
      (fun i => (List.replicate 2 0#8 ++ frame).getD i 0#8)
      ((frame.length + 7) / 2)

/- Behind its end a list is read as zeros. -/
theorem map_getD_range
    (bytes : List UBYTE)
    {n : Nat}
    (hLong : bytes.length ≤ n) :
    (List.range n).map (fun i => bytes.getD i 0#8) =
      bytes ++ List.replicate (n - bytes.length) 0#8 := by
  apply List.ext_getElem
  · simp only [List.length_map, List.length_range,
      List.length_append, List.length_replicate]
    omega
  · intro i _ hInside
    rw [List.getElem_map, List.getElem_range]
    by_cases hIn : i < bytes.length
    · rw [List.getElem_append_left hIn,
        List.getD_eq_getElem _ _ hIn]
    · rw [List.getElem_append_right (by omega),
        List.getElem_replicate,
        List.getD_eq_default _ _ (by omega)]

theorem arrives_ofFrame
    (isInBigEndianMode : Bool)
    {frame : List UBYTE}
    (hMost : frame.length ≤ 1514) :
    Arrives isInBigEndianMode frame
      (RxFrame.ofFrame isInBigEndianMode frame) where
  valid := by
    show rxfhsrRxfv &&& rxfhsrRxfv ≠ 0#16
    decide
  count := by
    show (BitVec.ofNat 16 (frame.length + 6) &&&
      rxfhbcrRxbcMask).toNat = _
    have hMask : rxfhbcrRxbcMask.toNat = 2 ^ 12 - 1 := rfl
    rw [BitVec.toNat_and, hMask,
      Nat.and_two_pow_sub_one_eq_mod, BitVec.toNat_ofNat]
    omega
  words := by
    refine ⟨List.replicate 3 0#16, _, List.replicate 2 0#8,
      List.replicate 4 0#8,
      List.replicate (2 * ((frame.length + 7) / 2) -
        (frame.length + 6)) 0#8, rfl, rfl, rfl, rfl, ?_⟩
    have hLength :
        (List.replicate 2 0#8 ++ frame).length =
          frame.length + 2 := by
      rw [List.length_append, List.length_replicate]
      omega
    rw [bytes_words_portOrder]
    unfold Memory.bytes
    rw [map_getD_range _ (by omega), hLength,
      List.append_assoc, List.append_assoc,
      List.append_assoc, List.replicate_append_replicate]
    congr 3
    omega

/- A chip that has received these frames. -/
theorem receives_chipWith
    {frames : List (List UBYTE)}
    (hMost : ∀ frame ∈ frames, frame.length ≤ 1514)
    (hFew : frames.length < 256) :
    Receives true frames
      (chipWith (frames.map (RxFrame.ofFrame true))) where
  mode := by
    cases frames <;> rfl
  called := by
    cases frames <;> rfl
  presents := presents_chipWith _
  queue := by
    show List.Forall₂ _ frames (frames.map _)
    rw [List.forall₂_map_right_iff]
    apply List.forall₂_same.mpr
    exact fun frame hMem =>
      arrives_ofFrame true (hMost frame hMem)
  counted := by
    have hReg : (chipWith (frames.map
        (RxFrame.ofFrame true))).nic.chip.reg regRxfctr =
          BitVec.ofNat 16
            (256 * (frames.map (RxFrame.ofFrame true)).length) :=
      by cases frames <;> rfl
    unfold RxChip.frameCount highByte
    rw [hReg, List.length_map]
    show _ = (frames.map (RxFrame.ofFrame true)).length
    rw [List.length_map, BitVec.toNat_setWidth,
      BitVec.toNat_ushiftRight, BitVec.toNat_ofNat,
      Nat.shiftRight_eq_div_pow]
    omega

/- A hundred zeros for another station. -/
def zeroLetter : Letter where
  ios2 := 9
  outcome := plainOutcome
  dst := blankRequest.dstAddr
  packetType := 0#32
  payload := zeros 100

theorem mail_end_to_end_zeroLetter :
    ∃ frames, Mails [zeroLetter] frames (zeroPacket 0#8 100) ∧
      ∃ packet,
        ((handleReceive isrRxis 0#16).runAt
            (chipWith (frames.map
              (RxFrame.ofFrame true)))).2.nic.delivered =
          [packet] ∧
        zeroLetter.IsDelivered onlineUnit.unit.stAddr
          packet := by
  have hPostable : zeroLetter.Postable onlineUnit.unit.stAddr
      (zeroPacket 0#8 100) :=
    ⟨cookedWrite_zeroPacket (by decide), by decide +kernel,
      Or.inr rfl, hasRoom_zeroPacket _ _ (by decide)⟩
  have hPosts : Posts onlineUnit.unit.stAddr [zeroLetter]
      (zeroPacket 0#8 100) :=
    ⟨hPostable, trivial⟩
  rcases mail_end_to_end hPosts (by decide +kernel) with
    ⟨frames, hMails, hFrames, hArrive⟩
  have hMost := most_of_frames hFrames (short_of_posts hPosts)
  have hLength := hFrames.length_eq
  rcases hArrive true _ isrRxis 0#16
    (receives_chipWith hMost (by rw [← hLength]; decide))
    (by decide) with ⟨packets, hGrown, hDelivered, -⟩
  refine ⟨frames, hMails, ?_⟩
  cases hDelivered with
  | cons hPacket hNone =>
      cases hNone
      refine ⟨_, ?_, hPacket⟩
      rw [hGrown]
      cases frames <;> rfl

end KszDriver
