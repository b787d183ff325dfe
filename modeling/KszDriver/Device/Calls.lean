import KszDriver.Device.QueueSteps
import KszDriver.Nic.Footing

/-
  The calls of the low level driver that a step makes.

  Main declarations:
    * `LowLevelCall`, `LowLevelCall.program`
    * `Driver.calls`
    * `nic_next`
-/

------------------------------------------------------------
-- Calls
------------------------------------------------------------

namespace KszDriver

open Driver

/- A call through the function table of the driver. -/
inductive LowLevelCall where
| setReceiver
| probe
| init
| online
| offline
| deinit
| setNetworkAddress (addr : MacAddr)
| sendPacket (buffer : Memory) (length : Nat)
| sendPacketCooked
    (dst src : Memory)
    (packetType : UWORD)
    (payload : Memory)
    (payloadLength : Nat)

/- What a call runs.  Its result does not matter here. -/
def LowLevelCall.program : LowLevelCall → NicM Unit
| .setReceiver => setInterface (fun iface =>
    { iface with onPacketReceived := true })
| .probe => do
    let _ ← ksz8851DetectNICEndiness
| .init => do
    let _ ← ksz8851Init
| .online => ksz8851Online
| .offline => ksz8851Offline
| .deinit => ksz8851Deinit
| .setNetworkAddress addr => ksz8851SetNetworkAddress addr
| .sendPacket buffer length => do
    let _ ← ksz8851SendPacket buffer length
| .sendPacketCooked dst src packetType payload length => do
    let _ ← ksz8851SendPacketCooked dst src packetType payload
      length

/- The call sends a packet. -/
def LowLevelCall.Sends : LowLevelCall → Prop
| .sendPacket _ _ => True
| .sendPacketCooked _ _ _ _ _ => True
| _ => False

/- The state after a call. -/
def LowLevelCall.run
    (c : LowLevelCall) (n : NicState) : NicState :=
  (c.program.runOn n).2

/- The state after several calls. -/
def runCalls : List LowLevelCall → NicState → NicState
| [], n => n
| c :: cs, n => runCalls cs (c.run n)

/- Dropping a result changes nothing. -/
theorem runOn_discard
    {α : Type}
    (p : NicM α)
    (n : NicState) :
    (NicM.runOn (do let _ ← p) n).2 = (p.runOn n).2 := by
  unfold NicM.runOn
  exact congrArg Prod.snd (Program.run_bind p _ n)

------------------------------------------------------------
-- Calls of the Commands
------------------------------------------------------------

/- The call for a raw packet. -/
def rawCalls (o : Outcome) (ios2 : APTR) (s : Driver) :
    List LowLevelCall :=
  let length := (s.reqs ios2).dataLength.toNat
  if length > etherPacketHeadSize ∧
      (o.copyFromBuffer ios2).1 = true then
    [.sendPacket (s.copyFromBuffer o ios2 0).sendBuffer length]
  else []

/- The call for a packet that goes through `sendBuffer`. -/
def copiedCalls (o : Outcome) (ios2 : APTR) (s : Driver) :
    List LowLevelCall :=
  let buffer := cookedBuffer o ios2 s
  if (o.copyFromBuffer ios2).1 then
    [.sendPacketCooked buffer (buffer.drop 6)
      (buffer.wordAt 12) (buffer.drop etherPacketHeadSize)
      (s.reqs ios2).dataLength.toNat]
  else []

/- The call for a cooked packet. -/
def cookedCalls (o : Outcome) (ios2 : APTR) (s : Driver) :
    List LowLevelCall :=
  let req := s.reqs ios2
  if req.dataLength.toNat ≤ ethernetMtu then
    match dmaPacketBuffer o ios2 s with
    | some packet =>
        [.sendPacketCooked req.dstAddr.memory
          s.unit.stAddr.memory req.packetTypeWord packet
          req.dataLength.toNat]
    | none => copiedCalls o ios2 s
  else []

/- The calls of `sendAllPackets` for one packet. -/
def sendCalls (o : Outcome) (ios2 : APTR) (s : Driver) :
    List LowLevelCall :=
  if (s.reqs ios2).Raw then rawCalls o ios2 s
  else cookedCalls o ios2 s

/- The calls of its loop. -/
def sendLoopCalls (o : Outcome) :
    List APTR → Driver → List LowLevelCall
| [], _ => []
| ios2 :: rest, s =>
    sendCalls o ios2 (s.remove ios2) ++
      sendLoopCalls o rest (sendOne o ios2 (s.remove ios2))

def sendAllCalls (o : Outcome) (s : Driver) :
    List LowLevelCall :=
  sendLoopCalls o (s.lists .euTx) s

def writeCalls (o : Outcome) (ios2 : APTR) (s : Driver) :
    List LowLevelCall :=
  if s.Online ∧ (s.reqs ios2).dataLength ≤ s.unit.mtu then
    let s := s.setReq ios2 (fun req =>
      { req with
        ioFlags := req.ioFlags &&& ~~~iofQuick
        lnType := ntMessage })
    sendAllCalls o (s.putMsg .euTx ios2)
  else []

/- The unit goes online. -/
def goOnlineCalls : List LowLevelCall :=
  [.setReceiver, .init, .online]

def onlineCalls (s : Driver) : List LowLevelCall :=
  if s.Configured ∧ ¬ s.Online then goOnlineCalls else []

def configCalls (ios2 : APTR) (s : Driver) :
    List LowLevelCall :=
  if s.Configured then []
  else
    .setNetworkAddress (s.reqs ios2).srcAddr ::
      if s.Online then [] else goOnlineCalls

/- The calls of the switch of `PerformIO`. -/
def dispatchCalls
    (o : Outcome)
    (command : UWORD)
    (ios2 : APTR)
    (s : Driver) : List LowLevelCall :=
  if command = cmdWrite then writeCalls o ios2 s
  else if command = s2Broadcast then
    writeCalls o ios2 (s.setReq ios2
      (fun req => { req with dstAddr := broadcastAddress }))
  else if command = s2Multicast then writeCalls o ios2 s
  else if command = s2Online then onlineCalls s
  else if command = s2Offline then
    if s.Online then [.offline] else []
  else if command = s2ConfigInterface then configCalls ios2 s
  else []

def performCalls (o : Outcome) (ios2 : APTR) (s : Driver) :
    List LowLevelCall :=
  dispatchCalls o (s.reqs ios2).ioCommand ios2
    (s.resetError ios2)

------------------------------------------------------------
-- Calls of the Steps
------------------------------------------------------------

/- `DeviceOpen` comes to the probe of the chip. -/
def Probes (s2unit s2flags : ULONG) (env : OpenEnv)
    (s : Driver) : Prop :=
  env.stackOk = true ∧ s2unit < edMaxUnits ∧
    ¬ (s2flags &&& sana2OpfMine ≠ 0#32 ∧
      s.base.libOpenCnt + 1#16 > 1#16) ∧
    ¬ (s2flags &&& sana2OpfProm ≠ 0#32 ∧
      ¬ s2flags &&& sana2OpfMine ≠ 0#32)

instance (s2unit s2flags : ULONG) (env : OpenEnv)
    (s : Driver) : Decidable (Probes s2unit s2flags env s) := by
  unfold Probes
  infer_instance

/- `DeviceClose` of the last opener. -/
def ClosesUnit (ios2 : APTR) (s : Driver) : Prop :=
  (s.reqs ios2).ioDevice ≠ none ∧
    (s.reqs ios2).ioUnit ≠ none ∧
    s.unit.unitOpenCnt - 1#16 = 0#16 ∧ s.base.unit0 = true

instance (ios2 : APTR) (s : Driver) :
    Decidable (ClosesUnit ios2 s) := by
  unfold ClosesUnit
  infer_instance

/- The calls that a step makes, first call first. -/
def Driver.calls (s : Driver) : Op → List LowLevelCall
| .openDevice _ s2unit s2flags env =>
    if Probes s2unit s2flags env s then [.probe] else []
| .close ios2 => if ClosesUnit ios2 s then [.deinit] else []
| .beginIo ios2 o =>
    if PerformedNow (s.reqs ios2).ioCommand then
      performCalls o ios2 (s.record (.submitted ios2))
    else []
| .serviceMsgPort o =>
    match s.lists .unitMsgPort with
    | [] => []
    | ios2 :: _ => performCalls o ios2 (s.remove ios2)
| _ => []

------------------------------------------------------------
-- The Chip after the Commands
------------------------------------------------------------

/- What the unit keeps about the chip, and the chip. -/
structure Wire where
  stAddr : MacAddr
  signalNumber : Int
  nic : NicState

def Driver.wire (s : Driver) : Wire where
  stAddr := s.unit.stAddr
  signalNumber := s.unit.lowLevelDriverSignalNumber
  nic := s.nic

/- A call; the unit asks for the signal when it has gone
   online. -/
def Wire.call (w : Wire) (c : LowLevelCall) : Wire where
  stAddr := w.stAddr
  signalNumber :=
    match c with
    | .online => (c.run w.nic).iface.sigNumber
    | _ => w.signalNumber
  nic := c.run w.nic

def Wire.after : Wire → List LowLevelCall → Wire
| w, [] => w
| w, c :: cs => (w.call c).after cs

theorem Wire.after_nil (w : Wire) : w.after [] = w := rfl

theorem Wire.after_cons
    (w : Wire) (c : LowLevelCall) (cs : List LowLevelCall) :
    w.after (c :: cs) = (w.call c).after cs := rfl

theorem Wire.after_append
    (w : Wire) (cs cs' : List LowLevelCall) :
    w.after (cs ++ cs') = (w.after cs).after cs' := by
  induction cs generalizing w with
  | nil => rfl
  | cons c cs ih => exact ih (w.call c)

@[simp] theorem Wire.nic_after
    (w : Wire) (cs : List LowLevelCall) :
    (w.after cs).nic = runCalls cs w.nic := by
  induction cs generalizing w with
  | nil => rfl
  | cons c cs ih => exact ih (w.call c)

@[simp] theorem Wire.stAddr_after
    (w : Wire) (cs : List LowLevelCall) :
    (w.after cs).stAddr = w.stAddr := by
  induction cs generalizing w with
  | nil => rfl
  | cons c cs ih => exact ih (w.call c)

/- After going online the unit has the driver's signal. -/
theorem Wire.signalNumber_after_online
    (w : Wire) (cs : List LowLevelCall) :
    (w.after (cs ++ [.online])).signalNumber =
      (runCalls (cs ++ [.online]) w.nic).iface.sigNumber := by
  rw [← Wire.nic_after, Wire.after_append]
  rfl

theorem Wire.signalNumber_after
    (w : Wire)
    {cs : List LowLevelCall}
    (hOther : .online ∉ cs) :
    (w.after cs).signalNumber = w.signalNumber := by
  induction cs generalizing w with
  | nil => rfl
  | cons c cs ih =>
      have hTail : .online ∉ cs :=
        fun hIn => hOther (List.mem_cons_of_mem c hIn)
      have hCall :
          (w.call c).signalNumber = w.signalNumber := by
        cases c with
        | online => exact absurd List.mem_cons_self hOther
        | _ => rfl
      exact (ih (w.call c) hTail).trans hCall

theorem wire_of_rest
    {s s' : Driver}
    (hRest : s'.rest = s.rest) :
    s'.wire = s.wire := by
  unfold wire
  rw [unit_of_rest hRest, nic_of_rest hRest]

/- What the calls do to the chip. -/
theorem nic_of_wire
    {s' : Driver}
    {w : Wire}
    {cs : List LowLevelCall}
    (hWire : s'.wire = w.after cs) :
    s'.nic = runCalls cs w.nic :=
  (congrArg Wire.nic hWire).trans (w.nic_after cs)

/- The calls leave the address. -/
theorem stAddr_of_wire
    {s' : Driver}
    {w : Wire}
    {cs : List LowLevelCall}
    (hWire : s'.wire = w.after cs) :
    s'.unit.stAddr = w.stAddr :=
  (congrArg Wire.stAddr hWire).trans (w.stAddr_after cs)

section Handlers

variable (o : Outcome) (ios2 : APTR) (s : Driver)

@[simp] theorem wire_termIo :
    (s.termIo ios2).wire = s.wire :=
  wire_of_rest (rest_termIo s ios2)

@[simp] theorem wire_termWithError
    (ioError : Int) (wireError : ULONG) :
    (s.termWithError ios2 ioError wireError).wire = s.wire :=
  wire_of_rest (rest_termWithError s ios2 ioError wireError)

@[simp] theorem wire_doEvent (events : ULONG) :
    (s.doEvent events).wire = s.wire :=
  wire_of_rest (rest_doEvent s events)

@[simp] theorem wire_abortReqList (head : ListHead) :
    (s.abortReqList head).wire = s.wire :=
  wire_of_rest (rest_abortReqList s head)

@[simp] theorem wire_flushReadQueues (bms : List APTR) :
    (flushReadQueues bms s).wire = s.wire := by
  induction bms generalizing s with
  | nil => rfl
  | cons bm bms ih =>
      unfold flushReadQueues
      rw [ih, wire_abortReqList]

@[simp] theorem wire_flushRequests :
    (flushRequests s).wire = s.wire := by
  unfold flushRequests
  rw [wire_abortReqList, wire_abortReqList,
    wire_flushReadQueues]

/- A packet whose result is noted. -/
theorem wire_runSend
    (c : LowLevelCall)
    (p : NicM ErrorT)
    (hSends : c.Sends)
    (hProgram : c.program = (do let _ ← p)) :
    (s.runSend ios2 p).wire = s.wire.after [c] := by
  have hRun : c.run s.nic = (p.runOn s.nic).2 := by
    unfold LowLevelCall.run
    rw [hProgram]
    exact runOn_discard p s.nic
  have hCall :
      s.wire.call c = { s.wire with nic := c.run s.nic } := by
    cases c with
    | sendPacket buffer length => rfl
    | sendPacketCooked dst src packetType payload length =>
        rfl
    | _ => exact hSends.elim
  show _ = s.wire.call c
  rw [hCall, hRun]
  rfl

theorem wire_sendRaw :
    (sendRaw o ios2 s).wire =
      s.wire.after (rawCalls o ios2 s) := by
  unfold sendRaw rawCalls
  dsimp only
  by_cases hLength :
      (s.reqs ios2).dataLength.toNat > etherPacketHeadSize
  · by_cases hCopied : (o.copyFromBuffer ios2).1 = true
    · rw [if_pos hLength, if_pos hCopied,
        if_pos ⟨hLength, hCopied⟩]
      exact wire_runSend ios2 _ (.sendPacket _ _) _ trivial rfl
    · rw [if_pos hLength, if_neg hCopied,
        if_neg (fun hBoth => hCopied hBoth.2)]
      rfl
  · rw [if_neg hLength, if_neg (fun hBoth => hLength hBoth.1)]
    rfl

theorem wire_sendCopied :
    (sendCopied o ios2 s).wire =
      s.wire.after (copiedCalls o ios2 s) := by
  unfold sendCopied copiedCalls
  dsimp only
  by_cases hCopied : (o.copyFromBuffer ios2).1 = true
  · rw [if_pos hCopied, if_pos hCopied]
    exact wire_runSend ios2 _ (.sendPacketCooked _ _ _ _ _) _
      trivial rfl
  · rw [if_neg hCopied, if_neg hCopied]
    rfl

theorem wire_sendCooked :
    (sendCooked o ios2 s).wire =
      s.wire.after (cookedCalls o ios2 s) := by
  unfold sendCooked cookedCalls
  dsimp only
  split
  · cases dmaPacketBuffer o ios2 s with
    | some packet =>
        exact wire_runSend ios2 _
          (.sendPacketCooked _ _ _ _ _) _ trivial rfl
    | none => exact wire_sendCopied o ios2 s
  · rfl

theorem wire_sendOne :
    (sendOne o ios2 s).wire =
      s.wire.after (sendCalls o ios2 s) := by
  unfold sendOne sendCalls
  dsimp only
  rw [wire_termIo]
  by_cases hRaw : (s.reqs ios2).Raw
  · rw [if_pos hRaw, if_pos hRaw, ← wire_sendRaw]
    split
    · exact wire_doEvent _ _
    · rfl
  · rw [if_neg hRaw, if_neg hRaw, ← wire_sendCooked]
    split
    · exact wire_doEvent _ _
    · rfl

theorem wire_sendLoop (rs : List APTR) :
    (sendLoop o rs s).wire =
      s.wire.after (sendLoopCalls o rs s) := by
  induction rs generalizing s with
  | nil => rfl
  | cons ios2 rs ih =>
      unfold sendLoop sendLoopCalls
      rw [ih, Wire.after_append, wire_sendOne]
      rfl

theorem wire_devCmdWritePacket :
    (devCmdWritePacket o ios2 s).wire =
      s.wire.after (writeCalls o ios2 s) := by
  unfold devCmdWritePacket writeCalls
  by_cases hOnline : s.Online
  · rw [if_pos hOnline]
    by_cases hFits : (s.reqs ios2).dataLength ≤ s.unit.mtu
    · rw [if_pos hFits, if_pos ⟨hOnline, hFits⟩]
      exact wire_sendLoop o _ _
    · rw [if_neg hFits, if_neg (fun hBoth => hFits hBoth.2),
        wire_doEvent, wire_termWithError, Wire.after_nil]
  · rw [if_neg hOnline, if_neg (fun hBoth => hOnline hBoth.1),
      wire_termWithError, Wire.after_nil]

theorem wire_broadcastPacket :
    (broadcastPacket o ios2 s).wire =
      s.wire.after (writeCalls o ios2 (s.setReq ios2
        (fun req =>
          { req with dstAddr := broadcastAddress }))) :=
  wire_devCmdWritePacket o ios2 _

theorem wire_started :
    s.started.wire = s.wire.after goOnlineCalls := by
  unfold goOnlineCalls Wire.after Wire.after Wire.after
    Wire.after Wire.call LowLevelCall.run LowLevelCall.program
  dsimp only
  rw [runOn_discard]
  rfl

theorem wire_devCmdOnline :
    (devCmdOnline ios2 s).wire =
      s.wire.after (onlineCalls s) := by
  unfold devCmdOnline onlineCalls
  by_cases hConfigured : s.Configured
  · rw [if_pos hConfigured]
    by_cases hOnline : s.Online
    · rw [if_pos hOnline,
        if_neg (fun hBoth => hBoth.2 hOnline), wire_termIo,
        Wire.after_nil]
    · rw [if_neg hOnline, if_pos ⟨hConfigured, hOnline⟩,
        wire_termIo, goOnline_eq, wire_doEvent, wire_started]
  · rw [if_neg hConfigured,
      if_neg (fun hBoth => hConfigured hBoth.1),
      wire_termWithError, Wire.after_nil]

theorem wire_devCmdOffline :
    (devCmdOffline (some ios2) s).wire =
      s.wire.after (if s.Online then [.offline] else []) := by
  unfold devCmdOffline goOffline devCmdFlush
  dsimp only
  rw [wire_termIo]
  split
  · have hFlushed :
        (flushRequests ((s.setUnit (fun u =>
          { u with
            state := u.state &&& ~~~etherufOnline })).doEvent
              s2eventOffline)).wire = s.wire := by
      rw [wire_flushRequests, wire_doEvent]
      rfl
    exact congrArg (fun w : Wire => w.after [.offline])
      hFlushed
  · rfl

theorem wire_devCmdConfigInterface_of_configured
    (hDone : s.Configured) :
    (devCmdConfigInterface ios2 s).wire =
      s.wire.after (configCalls ios2 s) := by
  unfold devCmdConfigInterface configCalls
  rw [if_pos hDone, if_pos hDone, wire_termWithError,
    Wire.after_nil]

/- The unit takes the address of the request. -/
theorem wire_devCmdConfigInterface
    (hDone : ¬ s.Configured) :
    (devCmdConfigInterface ios2 s).wire =
      { s.wire with stAddr := (s.reqs ios2).srcAddr }.after
        (configCalls ios2 s) := by
  have hOnline := online_configured s ios2
  have hWire :
      (s.configured ios2).wire =
        { s.wire with stAddr := (s.reqs ios2).srcAddr }.call
          (.setNetworkAddress (s.reqs ios2).srcAddr) := rfl
  unfold configCalls
  rw [devCmdConfigInterface_of_not_configured hDone,
    wire_devCmdOnline, if_neg hDone, hWire]
  unfold onlineCalls
  by_cases hOn : s.Online
  · rw [if_pos hOn,
      if_neg (fun hBoth => hBoth.2 (hOnline.mpr hOn)),
      Wire.after_cons]
  · rw [if_neg hOn,
      if_pos ⟨configured_configured s ios2,
        fun hBack => hOn (hOnline.mp hBack)⟩,
      Wire.after_cons]

/- Commands that make no call. -/
theorem wire_devCmdReadPacket :
    (devCmdReadPacket ios2 s).wire = s.wire := by
  unfold devCmdReadPacket
  dsimp only
  split
  · split
    · rfl
    · exact wire_termWithError _ _ _ _
  · exact wire_termWithError _ _ _ _

theorem wire_devCmdReadOrphan :
    (devCmdReadOrphan ios2 s).wire = s.wire := by
  unfold devCmdReadOrphan
  split
  · rfl
  · exact wire_termWithError _ _ _ _

theorem wire_devCmdOnEvent :
    (devCmdOnEvent ios2 s).wire = s.wire := by
  unfold devCmdOnEvent
  split
  · exact wire_termIo _ _
  · rfl

theorem wire_devCmdDeviceQuery :
    (devCmdDeviceQuery ios2 s).wire = s.wire := by
  unfold devCmdDeviceQuery
  dsimp only
  split
  · split
    · exact wire_termIo _ _
    · exact wire_termWithError _ _ _ _
  · exact wire_termWithError _ _ _ _

theorem wire_devCmdStats :
    (devCmdStats ios2 s).wire = s.wire := by
  unfold devCmdStats
  split
  · exact wire_termIo _ _
  · exact wire_termWithError _ _ _ _

theorem wire_devCmdNsDeviceQuery :
    (devCmdNsDeviceQuery ios2 s).wire = s.wire := by
  unfold devCmdNsDeviceQuery
  dsimp only
  rw [wire_termIo]
  split <;> rfl

theorem wire_devCmdTrackType :
    (devCmdTrackType o ios2 s).wire = s.wire := by
  unfold devCmdTrackType
  dsimp only
  split
  · exact wire_termWithError _ _ _ _
  · split
    · exact wire_termIo _ _
    · exact wire_termIo _ _

theorem wire_devCmdUnTrackType :
    (devCmdUnTrackType ios2 s).wire = s.wire := by
  unfold devCmdUnTrackType
  dsimp only
  split
  · exact wire_termIo _ _
  · exact wire_termWithError _ _ _ _

/- A command of the switch, and those after it. -/
theorem wire_case
    {c : Prop} [Decidable c]
    {s₁ s₂ : Driver}
    {cs₁ cs₂ : List LowLevelCall}
    (hThen : c → s₁.wire = s.wire.after cs₁)
    (hElse : ¬ c → s₂.wire = s.wire.after cs₂) :
    (if c then s₁ else s₂).wire =
      s.wire.after (if c then cs₁ else cs₂) := by
  by_cases hCond : c
  · rw [if_pos hCond, if_pos hCond]
    exact hThen hCond
  · rw [if_neg hCond, if_neg hCond]
    exact hElse hCond

/- A command that makes no call. -/
theorem wire_silent
    {c : Prop} [Decidable c]
    {s₁ s₂ : Driver}
    {cs : List LowLevelCall}
    (hThen : c → s₁.wire = s.wire ∧ cs = [])
    (hElse : ¬ c → s₂.wire = s.wire.after cs) :
    (if c then s₁ else s₂).wire = s.wire.after cs := by
  by_cases hCond : c
  · rw [if_pos hCond, (hThen hCond).1, (hThen hCond).2,
      Wire.after_nil]
  · rw [if_neg hCond]
    exact hElse hCond

/- One case for each command of the switch. -/
theorem wire_dispatch
    {command : UWORD}
    (hKeeps : command = s2ConfigInterface → s.Configured) :
    (dispatch o command ios2 s).wire =
      s.wire.after (dispatchCalls o command ios2 s) := by
  unfold dispatch dispatchCalls
  apply wire_case s
  · exact fun _ => wire_devCmdWritePacket o ios2 s
  intro _
  apply wire_silent s
  · rintro rfl
    exact ⟨wire_devCmdReadPacket ios2 s, rfl⟩
  intro _
  apply wire_case s
  · exact fun _ => wire_broadcastPacket o ios2 s
  intro _
  apply wire_case s
  · exact fun _ => wire_devCmdWritePacket o ios2 s
  intro _
  apply wire_silent s
  · rintro rfl
    exact ⟨(wire_termIo ios2 _).trans (wire_flushRequests s),
      rfl⟩
  intro _
  apply wire_silent s
  · rintro rfl
    exact ⟨wire_devCmdOnEvent ios2 s, rfl⟩
  intro _
  apply wire_case s
  · exact fun _ => wire_devCmdOnline ios2 s
  intro _
  apply wire_case s
  · exact fun _ => wire_devCmdOffline ios2 s
  intro _
  apply wire_silent s
  · rintro rfl
    exact ⟨wire_devCmdDeviceQuery ios2 s, rfl⟩
  intro _
  apply wire_silent s
  · rintro rfl
    exact ⟨wire_termIo ios2 _, rfl⟩
  intro _
  apply wire_case s
  · exact fun hConfig =>
      wire_devCmdConfigInterface_of_configured ios2 s
        (hKeeps hConfig)
  intro _
  apply wire_silent s
  · exact fun _ => ⟨wire_devCmdReadOrphan ios2 s, rfl⟩
  intro _
  apply wire_silent s
  · exact fun _ => ⟨wire_devCmdStats ios2 s, rfl⟩
  intro _
  apply wire_silent s
  · exact fun _ => ⟨wire_devCmdTrackType o ios2 s, rfl⟩
  intro _
  apply wire_silent s
  · exact fun _ => ⟨wire_devCmdUnTrackType ios2 s, rfl⟩
  intro _
  apply wire_silent s
  · exact fun _ => ⟨wire_devCmdStats ios2 s, rfl⟩
  intro _
  apply wire_silent s
  · exact fun _ => ⟨wire_devCmdNsDeviceQuery ios2 s, rfl⟩
  intro _
  exact wire_termWithError ios2 s _ _

theorem wire_performIo
    (hKeeps : (s.reqs ios2).ioCommand = s2ConfigInterface →
      s.Configured) :
    (performIo o ios2 s).wire =
      s.wire.after (performCalls o ios2 s) :=
  wire_dispatch o ios2 (s.resetError ios2) hKeeps

/- The one command that also sets the address. -/
theorem nic_performIo :
    (performIo o ios2 s).nic =
      runCalls (performCalls o ios2 s) s.nic := by
  by_cases hKeeps :
      (s.reqs ios2).ioCommand = s2ConfigInterface →
        s.Configured
  · exact nic_of_wire (wire_performIo o ios2 s hKeeps)
  · rw [Classical.not_imp] at hKeeps
    have hWire := wire_devCmdConfigInterface ios2
      (s.resetError ios2) hKeeps.2
    unfold performIo performCalls
    rw [hKeeps.1, dispatch_s2ConfigInterface]
    exact nic_of_wire hWire

end Handlers

------------------------------------------------------------
-- The Chip after the Steps
------------------------------------------------------------

section Nic

variable (ios2 : APTR) (s : Driver)

theorem nic_initUnitProcess (env : OpenEnv) :
    (initUnitProcess env s).nic = s.nic := by
  unfold initUnitProcess
  split
  · rfl
  · split <;> rfl

theorem nic_probeAndOpen (env : OpenEnv) :
    (probeAndOpen ios2 env s).nic =
      runCalls [.probe] s.nic := by
  have hProbed :
      (s.runNic ksz8851DetectNICEndiness).nic =
        runCalls [.probe] s.nic :=
    (runOn_discard ksz8851DetectNICEndiness s.nic).symm
  unfold probeAndOpen
  dsimp only
  split
  · split
    · exact (nic_initUnitProcess _ env).trans hProbed
    · exact (nic_initUnitProcess _ env).trans hProbed
  · exact hProbed

/- Either branch of a check. -/
theorem nic_case
    {c : Prop} [Decidable c]
    {s₁ s₂ : Driver}
    {cs₁ cs₂ : List LowLevelCall}
    (hThen : c → s₁.nic = runCalls cs₁ s.nic)
    (hElse : ¬ c → s₂.nic = runCalls cs₂ s.nic) :
    (if c then s₁ else s₂).nic =
      runCalls (if c then cs₁ else cs₂) s.nic := by
  by_cases hCond : c
  · rw [if_pos hCond, if_pos hCond]
    exact hThen hCond
  · rw [if_neg hCond, if_neg hCond]
    exact hElse hCond

theorem nic_openWithFlags (s2flags : ULONG) (env : OpenEnv) :
    (openWithFlags ios2 s2flags env s).nic =
      runCalls
        (if s2flags &&& sana2OpfMine ≠ 0#32 ∧
            s.base.libOpenCnt > 1#16 then []
          else if s2flags &&& sana2OpfProm ≠ 0#32 ∧
            ¬ s2flags &&& sana2OpfMine ≠ 0#32 then []
          else [.probe]) s.nic := by
  unfold openWithFlags
  apply nic_case s
  · exact fun _ => rfl
  · intro _
    apply nic_case s
    · exact fun _ => rfl
    · exact fun _ => nic_probeAndOpen ios2 _ env

theorem nic_deviceOpen
    (s2unit s2flags : ULONG) (env : OpenEnv) :
    (deviceOpen ios2 s2unit s2flags env s).nic =
      runCalls (if Probes s2unit s2flags env s then [.probe]
        else []) s.nic := by
  have hCount (step : UWORD) (t : Driver) :
      (countOpen step t).nic = t.nic := rfl
  unfold deviceOpen
  dsimp only
  rw [hCount]
  by_cases hStack : env.stackOk = true
  · rw [if_neg (fun hNot => hNot hStack)]
    by_cases hUnit : s2unit < edMaxUnits
    · rw [if_pos hUnit, nic_openWithFlags]
      simp only [Probes, hStack, hUnit, true_and, ite_not,
        ite_and]
      rfl
    · rw [if_neg hUnit, if_neg (fun hAll => hUnit hAll.2.1)]
      rfl
  · rw [if_pos hStack, if_neg (fun hAll => hStack hAll.1)]
    rfl

/- Freeing an opener does not count. -/
theorem counted_freeOpener :
    (freeOpener ios2 s).unit.unitOpenCnt =
        s.unit.unitOpenCnt ∧
      (freeOpener ios2 s).base = s.base ∧
      (freeOpener ios2 s).nic = s.nic := by
  have hRest := rest_abortReqList s
    (.bmRxQueue (s.reqs ios2).bufferManagement)
  have hCount := congrArg DeviceDriverUnit.unitOpenCnt
    (unit_of_rest hRest)
  have hBase := base_of_rest hRest
  have hNic := nic_of_rest hRest
  unfold freeOpener
  dsimp only
  split
  · split
    · exact ⟨hCount, hBase, hNic⟩
    · exact ⟨hCount, hBase, hNic⟩
  · exact ⟨rfl, rfl, rfl⟩

theorem nic_expungeUnit :
    (expungeUnit s).nic =
      runCalls (if s.base.unit0 then [.deinit] else [])
        s.nic := by
  unfold expungeUnit
  split <;> rfl

theorem nic_deviceExpunge :
    (deviceExpunge s).2.nic = s.nic := by
  rw [deviceExpunge_setBase]
  rfl

/- The unit ends when its openers are counted down. -/
theorem nic_lastClosed :
    (if s.unit.unitOpenCnt = 0#16 then expungeUnit s
      else s).nic =
        runCalls (if s.unit.unitOpenCnt = 0#16 ∧
          s.base.unit0 = true then [.deinit] else []) s.nic := by
  by_cases hLast : s.unit.unitOpenCnt = 0#16
  · rw [if_pos hLast, nic_expungeUnit]
    simp only [hLast, true_and]
  · rw [if_neg hLast, if_neg (fun hBoth => hLast hBoth.1)]
    rfl

theorem nic_closeUnit :
    (closeUnit ios2 s).nic =
      runCalls (if s.unit.unitOpenCnt - 1#16 = 0#16 ∧
        s.base.unit0 = true then [.deinit] else []) s.nic := by
  have hFreed := counted_freeOpener ios2 s
  rw [← hFreed.1, ← hFreed.2.1, ← hFreed.2.2]
  unfold closeUnit
  generalize freeOpener ios2 s = t
  exact nic_lastClosed _

/- A handle closes the unit if it is the last one. -/
theorem closesUnit_iff
    (hOpen : (s.reqs ios2).ioDevice ≠ none ∧
      (s.reqs ios2).ioUnit ≠ none) :
    ClosesUnit ios2 s ↔
      s.unit.unitOpenCnt - 1#16 = 0#16 ∧
        s.base.unit0 = true :=
  ⟨fun hAll => hAll.2.2,
    fun hBoth => ⟨hOpen.1, hOpen.2, hBoth⟩⟩

theorem nic_deviceClose :
    (deviceClose ios2 s).2.nic =
      runCalls (if ClosesUnit ios2 s then [.deinit] else [])
        s.nic := by
  rw [deviceClose_eq]
  by_cases hOpen : (s.reqs ios2).ioDevice ≠ none ∧
      (s.reqs ios2).ioUnit ≠ none
  · rw [if_pos hOpen, nic_closeUnit,
      if_congr (closesUnit_iff ios2 s hOpen) rfl rfl]
  · rw [if_neg hOpen,
      if_neg (fun hAll => hOpen ⟨hAll.1, hAll.2.1⟩)]
    rfl

theorem unit0_deviceClose :
    (deviceClose ios2 s).2.base.unit0 =
      if ClosesUnit ios2 s then false else s.base.unit0 := by
  rw [deviceClose_eq]
  by_cases hOpen : (s.reqs ios2).ioDevice ≠ none ∧
      (s.reqs ios2).ioUnit ≠ none
  · have hFreed := counted_freeOpener ios2 s
    rw [if_pos hOpen,
      if_congr (closesUnit_iff ios2 s hOpen) rfl rfl,
      ← hFreed.1, ← hFreed.2.1]
    unfold closeUnit
    generalize freeOpener ios2 s = t
    exact unit0_lastClosed _
  · rw [if_neg hOpen,
      if_neg (fun hAll => hOpen ⟨hAll.1, hAll.2.1⟩)]

end Nic

/- A packet goes to the openers, not to the chip. -/
theorem wire_fulfillReadIORequest
    (o : Outcome)
    (head : ListHead)
    (ios2 : APTR)
    (buffer : Memory)
    (size : UWORD)
    (s : Driver) :
    (fulfillReadIORequest o head ios2 buffer size s).2.wire =
      s.wire := by
  unfold fulfillReadIORequest
  dsimp only
  split
  · split
    · split
      · exact wire_termIo ios2 _
      · exact (wire_termIo ios2 _).trans (wire_doEvent _ _)
    · rfl
  · rfl

theorem wire_onPktReceived
    (o : Outcome)
    (buffer : Memory)
    (size : UWORD)
    (s : Driver) :
    (onPktReceived o buffer size s).wire = s.wire := by
  apply onPktReceived_rule (I := fun t => t.wire = s.wire)
  · intro t head r _ _ _ hWire
    exact (wire_fulfillReadIORequest o head r buffer size
      t).trans hWire
  · rfl

theorem wire_deviceBeginIo
    (o : Outcome) (ios2 : APTR) (s : Driver) :
    (deviceBeginIo o ios2 s).wire =
      s.wire.after (s.calls (.beginIo ios2 o)) := by
  have hSame : (s.record (.submitted ios2)).wire = s.wire :=
    rfl
  unfold deviceBeginIo Driver.calls
  rw [← hSame]
  apply wire_case
  · intro hNow
    apply wire_performIo
    intro hConfig
    rw [hConfig] at hNow
    exact absurd hNow (by decide)
  · exact fun _ => rfl

theorem nic_serviceMsgPort (o : Outcome) (s : Driver) :
    (serviceMsgPort o s).nic =
      runCalls (s.calls (.serviceMsgPort o)) s.nic := by
  unfold serviceMsgPort Driver.calls
  dsimp only
  cases hPort : s.lists .unitMsgPort with
  | nil => rfl
  | cons ios2 others => exact nic_performIo o ios2 _

theorem wire_deviceAbortIo (ios2 : APTR) (s : Driver) :
    (deviceAbortIo ios2 s).2.wire = s.wire := by
  rcases deviceAbortIo_cases ios2 s with
    hSame | ⟨-, hAborted⟩
  · rw [hSame]
  · rw [hAborted]
    exact wire_of_rest (rest_abortOne s ios2)

/- A step is its calls, as far as the chip is concerned. -/
theorem nic_next
    {op : Op}
    (s : Driver)
    (hDriver : ∀ regs, op ≠ .hardware regs) :
    (s.next op).nic = runCalls (s.calls op) s.nic := by
  cases op with
  | openDevice ios2 s2unit s2flags env =>
      exact nic_deviceOpen ios2 s s2unit s2flags env
  | close ios2 => exact nic_deviceClose ios2 s
  | expunge => exact nic_deviceExpunge s
  | beginIo ios2 o =>
      exact nic_of_wire (wire_deviceBeginIo o ios2 s)
  | abortIo ios2 =>
      exact congrArg Wire.nic (wire_deviceAbortIo ios2 s)
  | serviceMsgPort o => exact nic_serviceMsgPort o s
  | pktReceived buffer size o =>
      exact congrArg Wire.nic
        (wire_onPktReceived o buffer size s)
  | doEvent events =>
      exact congrArg Wire.nic (wire_doEvent s events)
  | configChanged addr => rfl
  | clientWrite ios2 req => rfl
  | hardware regs => exact absurd rfl (hDriver regs)

end KszDriver
