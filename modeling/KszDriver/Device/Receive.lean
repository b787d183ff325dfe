import KszDriver.Device.Commands

/-
  Delivery of received packets to the openers and to orphan
  readers (`device.c`).

  Key definitions include:
    * `fulfillReadIORequest`
    * `firstMatching`
    * `onPktReceived`
-/

namespace KszDriver

/- The type of a packet, at offset 12. -/
def packetTypeOf (buffer : Memory) : UWORD :=
  buffer.wordAt 12

/-
  The length a request gets: the payload for a cooked
  request, the whole packet for a raw one, at most as much
  as an Ethernet frame holds.  It has sixteen bits.
-/
def deliveredLength (raw : Bool) (size : UWORD) : UWORD :=
  if raw then if size > 1514#16 then 1514#16 else size
  else
    if size - 14#16 > 1500#16 then 1500#16
    else size - 14#16

/- `isBroadcastEthernetAddress` -/
def IsBroadcast (addr : MacAddr) : Prop :=
  ∀ i, addr i = broadcastAddress i

instance (addr : MacAddr) : Decidable (IsBroadcast addr) := by
  unfold IsBroadcast
  infer_instance

/- The flag of a packet that is not for one station. -/
def castFlag (dstAddr : MacAddr) : UBYTE :=
  if dstAddr.memory 0 &&& 1#8 ≠ 0#8 then
    if IsBroadcast dstAddr then sana2IofBcast
    else sana2IofMcast
  else 0#8

/- Describe the packet in the request. -/
def describePacket
    (buffer : Memory) (size : UWORD) (req : IOSana2Req) :
    IOSana2Req :=
  { req with
    dstAddr := buffer.macAddr
    srcAddr := (buffer.drop 6).macAddr
    packetType := (packetTypeOf buffer).setWidth 32
    dataLength :=
      (deliveredLength (decide req.Raw) size).setWidth 32
    ioFlags := req.ioFlags ||| castFlag buffer.macAddr }

/- The bytes that are copied to the client. -/
def deliveredBytes
    (buffer : Memory) (size : UWORD) (req : IOSana2Req) :
    List UBYTE :=
  (buffer.drop (if req.Raw then 0 else 14)).bytes
    (deliveredLength (decide req.Raw) size).toNat

/-
  Copy the packet to the request if the filter accepts it.
  The request was found in the list `head`.
-/
def fulfillReadIORequest
    (o : Outcome)
    (head : ListHead)
    (ios2 : APTR)
    (buffer : Memory)
    (size : UWORD)
    (s : Driver) : Bool × Driver :=
  if (s.reqs ios2).bufferManagement ≠ 0 then
    let bytes := deliveredBytes buffer size (s.reqs ios2)
    let s := s.setReq ios2 (describePacket buffer size)
    if o.callFilterHook ios2 then
      if o.copyToBuffer ios2 then
        let s := s.record (.copiedToBuffer ios2 bytes)
        let s := s.record (.offered head ios2 true)
        (true, (s.remove ios2).termIo ios2)
      else
        let s := s.record (.offered head ios2 false)
        let s := s.setErrorOnRequest ios2 s2errNoResources
          s2werrBuffError
        let s := s.doEvent s2eventBuff
        (false, (s.remove ios2).termIo ios2)
    else (false, s.record (.offered head ios2 false))
  else (false, s.record (.offered head ios2 false))

/- The type of a request fits the type of a packet. -/
def TypeMatches (requested : ULONG) (packetType : UWORD) :
    Prop :=
  requested = packetType.setWidth 32 ∨
    (requested ≤ 1500#32 ∧ packetType ≤ 1500#16)

instance (requested : ULONG) (packetType : UWORD) :
    Decidable (TypeMatches requested packetType) := by
  unfold TypeMatches
  infer_instance

/- The first request of a list that the packet fits. -/
def firstMatching
    (packetType : UWORD) (head : ListHead) (s : Driver) :
    Option APTR :=
  (s.lists head).find? (fun ios2 =>
    decide (TypeMatches (s.reqs ios2).packetType packetType))

/-
  The loop over the openers.  The flag is assigned anew for
  every opener that has a matching request.
-/
def askOpeners
    (o : Outcome) (buffer : Memory) (size : UWORD) :
    List APTR → Bool → Driver → Bool × Driver
| [], delivered, s => (delivered, s)
| bm :: rest, delivered, s =>
    match firstMatching (packetTypeOf buffer)
        (.bmRxQueue bm) s with
    | some ios2 =>
        let result := fulfillReadIORequest o (.bmRxQueue bm)
          ios2 buffer size s
        askOpeners o buffer size rest result.1 result.2
    | none => askOpeners o buffer size rest delivered s

/- Offer the packet to the first orphan reader. -/
def askOrphan
    (o : Outcome)
    (buffer : Memory)
    (size : UWORD)
    (s : Driver) : Driver :=
  match s.lists .euReadOrphan with
  | [] => s
  | firstOrphan :: _ =>
      (fulfillReadIORequest o .euReadOrphan firstOrphan buffer
        size s).2

def onPktReceived
    (o : Outcome)
    (buffer : Memory)
    (size : UWORD)
    (s : Driver) : Driver :=
  let result :=
    askOpeners o buffer size s.unit.buffMgmt false s
  if result.1 then result.2
  else askOrphan o buffer size result.2

end KszDriver
