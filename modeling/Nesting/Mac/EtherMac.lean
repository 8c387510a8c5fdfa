import Nesting.Common.Schedule
import Nesting.Ieee8021q
import Nesting.Lib.Run
import Nesting.Mac.TransmissionSelection

/-!
# EtherMACFullDuplexPreemptable

The sending side of the MAC, with the parts of `EtherMacFullDuplex` it inherits.  A preemptable frame
does not go out when its transmission starts: the link is blocked for the time it takes, and at the
end a message tells how many of its bytes have gone through.

* `handleUpperPacket`, `packetEnqueued`, `hold`, `release`, `processPauseCommand`   the calls;
* `handleEndTxPeriod`, `handleEndIFGPeriod`, `handleEndPausePeriod`, `preemptCurrentFrame`,
  `checkForAndRequestExpressFrame`   the self-messages;
* `MacEvent`, `step`   these, the messages of `TransmissionSelection` and the gates, in any order.
-/

set_option linter.unusedVariables false

namespace Nesting

/-- `MacTransmitState`, the values that full duplex uses -/
inductive MacTransmitState where
  | TX_IDLE_STATE
  | WAIT_IFG_STATE
  | TRANSMITTING_STATE
  | PAUSE_STATE
  deriving DecidableEq, Repr

/-- the transmission rates of `etherDescrs`, bits per second -/
def etherTxrates : List ℚ :=
  [10000000, 100000000, 1000000000, 10000000000, 40000000000, 100000000000, 200000000000,
    400000000000]

/-- the parameters and the constant surroundings of the MAC -/
structure MacConfig where
  /-- `curEtherDescr->txrate`; a channel with another rate is a run-time error -/
  txrate : ℚ
  txrate_mem : txrate ∈ etherTxrates
  enablePreemptingFrames : Bool
  connected : Bool
  disabled : Bool
  /-- `getMacAddress()` -/
  address : String

namespace MacConfig

variable (cfg : MacConfig)

/-- `SimTime(1, SIMTIME_S) / transmitRate` -/
def bitTime : SimTime := timeForOneBit cfg.txrate

/-- only at 400 Gbit/s a bit is not a whole number of picoseconds: two and a half are cut to two -/
theorem bitTime_cases : cfg.bitTime = 1 / cfg.txrate ∨
    cfg.txrate = 400000000000 ∧ cfg.bitTime = 4 / 5 / cfg.txrate := by
  have hall : ∀ r ∈ etherTxrates,
      timeForOneBit r = 1 / r ∨ r = 400000000000 ∧ timeForOneBit r = 4 / 5 / r := by decide +kernel
  exact hall _ cfg.txrate_mem

theorem txrate_pos : 0 < cfg.txrate := by
  have hall : ∀ r ∈ etherTxrates, 0 < r := by decide +kernel
  exact hall _ cfg.txrate_mem

theorem bitTime_pos : 0 < cfg.bitTime := by
  have hr := cfg.txrate_pos
  obtain h | ⟨-, h⟩ := cfg.bitTime_cases <;> rw [h] <;> positivity

end MacConfig

/-- a self-message that is created and deleted on the way -/
inductive DynamicMsg where
  | nullptr
  | idle
  | scheduled (t : SimTime)
  /-- the pointer is kept after `cancelAndDelete` -/
  | deleted
  deriving DecidableEq, Repr

/-- what an observer sees of the MAC -/
inductive MacRecord where
  /-- `handleUpperPacket` has taken the packet in -/
  | accepted (packet : Packet)
  /-- `startFrameTransmission` of an express frame -/
  | express (frame : Packet)
  /-- `startFrameTransmission` of a preemptable frame -/
  | preemptable (frame : Packet) (onHold : Bool)
  /-- the message `PreemptedFrame` -/
  | preemptedFrame (frame : Packet) (bytesSent bytesTotal bytesInThisPart : Nat)
  deriving DecidableEq, Repr

structure EtherMac where
  time : SimTime
  transmitState : MacTransmitState
  curTxFrame : Option Packet
  transmittingExpressFrame : Bool
  currentExpressFrame : Option Packet
  onHold : Bool
  transmittingPreemptableFrame : Bool
  currentPreemptableFrame : Option Packet
  preemptableTransmissionStart : SimTime
  preemptedBytesSent : Nat
  pauseUnitsRequested : Int
  endTxMsg : Option SimTime
  endIFGMsg : Option SimTime
  endPauseMsg : Option SimTime
  preemptCurrentFrameMsg : Option SimTime
  recheckForQueuedExpressFrameMsg : DynamicMsg
  /-- the messages `holdRequest` -/
  holdRequests : List SimTime
  transmissionSelection : TransmissionSelection
  history : List MacRecord
  deriving DecidableEq

/-- a value stored in an `unsigned int` -/
def uint (n : Int) : Nat := (n % 4294967296).toNat

theorem uint_natCast {n : Nat} (h : n < 4294967296) : uint n = n := by
  unfold uint
  omega

namespace EtherMac

/-- after initialization; `preemptedBytesSent` has no initial value -/
def start (preemptedBytesSent : Nat) (tGates : List GateView) : EtherMac where
  time := 0
  transmitState := .TX_IDLE_STATE
  curTxFrame := none
  transmittingExpressFrame := false
  currentExpressFrame := none
  onHold := false
  transmittingPreemptableFrame := false
  currentPreemptableFrame := none
  preemptableTransmissionStart := 0
  preemptedBytesSent := preemptedBytesSent
  pauseUnitsRequested := 0
  endTxMsg := none
  endIFGMsg := none
  endPauseMsg := none
  preemptCurrentFrameMsg := none
  recheckForQueuedExpressFrameMsg := .nullptr
  holdRequests := []
  transmissionSelection := (TransmissionSelection.start tGates).requestPacket
  history := []

/-- `scheduleAt(t, msg)` -/
def scheduleAt (now : SimTime) (msg : Option SimTime) (t : SimTime) : Sim (Option SimTime) := do
  ASSERT (decide (now ≤ t)) "t >= simTime()"
  ASSERT msg.isNone "!msg->isScheduled()"
  return some t

theorem scheduleAt_ok {now t : SimTime} {msg msg' : Option SimTime}
    (h : scheduleAt now msg t = .ok msg') : now ≤ t ∧ msg = none ∧ msg' = some t := by
  obtain ⟨_, ht, h⟩ := bind_ok.mp h
  obtain ⟨_, hm, h⟩ := bind_ok.mp h
  cases h
  exact ⟨of_decide_eq_true (ASSERT_ok.mp ht), Option.isNone_iff_eq_none.mp (ASSERT_ok.mp hm), rfl⟩

/-! ## durations and bytes -/

def calculateTransmissionDuration (cfg : MacConfig) (bytes : Int) : SimTime :=
  cfg.bitTime * bytes * 8

/-- `transmissionChannel->calculateDuration` of so many bytes: whole picoseconds at all the rates -/
def calculateDuration (cfg : MacConfig) (bytes : Nat) : SimTime := bytes * 8 / cfg.txrate

/-- the bytes of a frame with preamble and start frame delimiter -/
def encapsulatedLength (frame : Packet) : Nat := max frame.byteLength MIN_ETHERNET_FRAME_BYTES + 8

/-- the bytes that fit between the start of the transmission and `t` -/
def bytesUntil (cfg : MacConfig) (s : EtherMac) (t : SimTime) : Int :=
  ⌊(t - s.preemptableTransmissionStart) / cfg.bitTime / 8⌋

def calculatePreemptedPayloadBytesSent (cfg : MacConfig) (s : EtherMac) (timeToCheck : SimTime)
    (sentCRC : Bool) : Sim Int :=
  if !s.transmittingPreemptableFrame then .ok 0
  else
    let bytesTransmittedInTotal := s.bytesUntil cfg timeToCheck - if sentCRC then 4 else 0
    if bytesTransmittedInTotal < 0 then .ok 0
    else
      match s.currentPreemptableFrame with
      | none => .error (.undefinedBehaviour "currentPreemptableFrame->getByteLength()")
      | some frame =>
        if bytesTransmittedInTotal > frame.byteLength + 8 then
          .error (.runtimeError "Supposedly transmitted more bytes than the frame's length.")
        else .ok bytesTransmittedInTotal

def isPreemptionNowPossible (cfg : MacConfig) (s : EtherMac) : Sim Bool :=
  if !cfg.enablePreemptingFrames || !s.transmittingPreemptableFrame then .ok true
  else if s.transmittingExpressFrame then .ok false
  else do
    let payloadBytesSent ← s.calculatePreemptedPayloadBytesSent cfg s.time false
    match s.currentPreemptableFrame with
    | none => .error (.undefinedBehaviour "currentPreemptableFrame->getByteLength()")
    | some frame =>
      let payloadBytesRemaining : Int := frame.byteLength - payloadBytesSent - s.preemptedBytesSent
      return decide (¬payloadBytesRemaining < kFramePreemptionMinFinalPayloadSize ∧
        payloadBytesSent ≥ kFramePreemptionMinNonFinalPayloadSize)

/-- when the preemption would be possible; zero for never -/
def isPreemptionLaterPossible (cfg : MacConfig) (s : EtherMac) : Sim SimTime := do
  if ← s.isPreemptionNowPossible cfg then return s.time
  else do
    let payloadBytesSentByNow ← s.calculatePreemptedPayloadBytesSent cfg s.time false
    match s.currentPreemptableFrame with
    | none => .error (.undefinedBehaviour "currentPreemptableFrame->getByteLength()")
    | some frame =>
      let payloadBytesRemaining : Int :=
        frame.byteLength - payloadBytesSentByNow - s.preemptedBytesSent
      return if payloadBytesSentByNow < kFramePreemptionMinNonFinalPayloadSize ∧
          payloadBytesRemaining ≥ kFramePreemptionMinNonFinalPayloadSize + 4 - payloadBytesSentByNow
            + kFramePreemptionMinFinalPayloadSize then
        s.time + calculateTransmissionDuration cfg
          (kFramePreemptionMinNonFinalPayloadSize - payloadBytesSentByNow)
      else 0

/-- bits and pieces: `getHoldAdvance` adds bits and bytes -/
def getHoldAdvance (cfg : MacConfig) : SimTime :=
  cfg.bitTime * (INTERFRAME_GAP_BITS + kFramePreemptionMinNonFinalPayloadSize
    + kFramePreemptionMinFinalPayloadSize + 4 : Int)

/-! ## starting a transmission -/

def sendExpressFrame (cfg : MacConfig) (s : EtherMac) (frame : Packet) : Sim EtherMac := do
  let endTxMsg ← scheduleAt s.time s.endTxMsg
    (s.time + calculateDuration cfg (encapsulatedLength frame))
  return { s with
    transmittingExpressFrame := true
    endTxMsg
    transmitState := .TRANSMITTING_STATE
    history := s.history ++ [.express frame] }

/-- the check for a new preemptable frame goes by the name -/
def isNewFrame (s : EtherMac) (frame : Packet) : Bool :=
  match s.currentPreemptableFrame with
  | none => true
  | some current => current.name != frame.name

def sendPreemptableFrame (cfg : MacConfig) (s : EtherMac) (frame : Packet) : Sim EtherMac := do
  let preemptedBytesSent := if s.isNewFrame frame then 0 else s.preemptedBytesSent
  let preemptedPacketLength := uint (encapsulatedLength frame - preemptedBytesSent)
  let endTxMsg ← scheduleAt s.time s.endTxMsg (s.time + calculateDuration cfg preemptedPacketLength)
  return { s with
    preemptedBytesSent
    currentPreemptableFrame := if s.isNewFrame frame then some frame else s.currentPreemptableFrame
    transmittingPreemptableFrame := true
    preemptableTransmissionStart := s.time
    endTxMsg
    transmitState := .TRANSMITTING_STATE
    history := s.history ++ [.preemptable frame s.onHold] }

def startFrameTransmission (cfg : MacConfig) (s : EtherMac) : Sim EtherMac :=
  match s.curTxFrame with
  | none => .error (.assertion "curTxFrame")
  | some frame => do
    ASSERT (!s.transmittingExpressFrame) "!transmittingExpressFrame"
    ASSERT (!s.transmittingPreemptableFrame) "!transmittingPreemptableFrame"
    if !cfg.enablePreemptingFrames || frame.express then s.sendExpressFrame cfg frame
    else s.sendPreemptableFrame cfg frame

def requestPacket (s : EtherMac) : EtherMac :=
  { s with transmissionSelection := s.transmissionSelection.requestPacket }

def requestNextFrameFromExtQueue (s : EtherMac) : Sim EtherMac := do
  ASSERT s.curTxFrame.isNone "nullptr == curTxFrame"
  return if s.transmissionSelection.getNumPendingRequests = 0 then s.requestPacket else s

/-- `!transmissionSelectionModule->isEmpty() && transmissionSelectionModule->hasExpressPacketEnqueued()` -/
def expressFrameWaits (s : EtherMac) : Bool :=
  !s.transmissionSelection.isEmpty s.onHold &&
    s.transmissionSelection.hasExpressPacketEnqueued s.onHold

/-- the new state and whether a frame was requested -/
def checkForAndRequestExpressFrame (cfg : MacConfig) (s : EtherMac) : Sim (EtherMac × Bool) := do
  let possible ← s.isPreemptionNowPossible cfg
  ASSERT possible "isPreemptionNowPossible()"
  return if !s.transmittingExpressFrame && s.expressFrameWaits then (s.requestPacket, true)
    else (s, false)

/-- `getNextFrameFromQueue` when no express frame is stored and none is requested -/
def resumeOrRequest (s : EtherMac) : Sim EtherMac :=
  match s.onHold, s.currentPreemptableFrame with
  | false, some frame => .ok { s with curTxFrame := some frame }
  | _, _ => s.requestNextFrameFromExtQueue

def getNextFrameFromQueue (cfg : MacConfig) (s : EtherMac) : Sim EtherMac := do
  ASSERT s.curTxFrame.isNone "nullptr == curTxFrame in getNextFrameFromQueue"
  match s.currentExpressFrame with
  | some frame => return { s with curTxFrame := some frame, currentExpressFrame := none }
  | none =>
    if cfg.enablePreemptingFrames then do
      let (s, requested) ← s.checkForAndRequestExpressFrame cfg
      if requested then return s else s.resumeOrRequest
    else s.resumeOrRequest

def beginSendFrames (cfg : MacConfig) (s : EtherMac) : Sim EtherMac :=
  if s.curTxFrame.isSome then s.startFrameTransmission cfg
  else .ok { s with transmitState := .TX_IDLE_STATE }

/-! ## the end of a transmission -/

def scheduleEndIFGPeriod (cfg : MacConfig) (s : EtherMac) : Sim EtherMac := do
  ASSERT s.curTxFrame.isNone "nullptr == curTxFrame"
  let endIFGMsg ← scheduleAt s.time s.endIFGMsg (s.time + INTERFRAME_GAP_BITS / cfg.txrate)
  return { s with transmitState := .WAIT_IFG_STATE, endIFGMsg }

def scheduleEndPausePeriod (cfg : MacConfig) (s : EtherMac) (pauseUnits : Int) : Sim EtherMac := do
  ASSERT s.curTxFrame.isNone "nullptr == curTxFrame"
  let endPauseMsg ← scheduleAt s.time s.endPauseMsg
    (s.time + pauseUnits * PAUSE_UNIT_BITS / cfg.txrate)
  return { s with transmitState := .PAUSE_STATE, endPauseMsg }

/-- `EtherMacFullDuplex::handleEndTxPeriod` -/
def finishTransmission (cfg : MacConfig) (s : EtherMac) : Sim EtherMac :=
  if s.transmitState ≠ .TRANSMITTING_STATE then
    .error (.runtimeError "Model error: End of transmission, and incorrect state detected")
  else if s.curTxFrame.isNone then
    .error (.runtimeError "Model error: Frame under transmission cannot be found")
  else if s.pauseUnitsRequested > 0 then do
    let s ← { s with curTxFrame := none }.scheduleEndPausePeriod cfg s.pauseUnitsRequested
    return { s with pauseUnitsRequested := 0 }
  else { s with curTxFrame := none }.scheduleEndIFGPeriod cfg

/-- the bytes of a part and the new `preemptedBytesSent`; only the last part carries the checksum of
the frame -/
def framelet (frame : Packet) (preemptedBytesSent bytesSentInThisPart : Nat) : Nat × Nat :=
  let sent := uint (preemptedBytesSent + bytesSentInThisPart)
  if uint (sent + 4) = frame.byteLength + 8 then
    (uint (bytesSentInThisPart - 4), uint frame.byteLength)
  else (bytesSentInThisPart, sent)

/-- the part of `handleEndTxPeriod` for a preemptable frame -/
def sendPreemptedFrame (cfg : MacConfig) (s : EtherMac) : Sim EtherMac :=
  match s.currentPreemptableFrame with
  | none => .error (.undefinedBehaviour "currentPreemptableFrame->getTreeId()")
  | some frame => do
    let bytes ← s.calculatePreemptedPayloadBytesSent cfg s.time true
    let (bytesInThisPart, sent) := framelet frame s.preemptedBytesSent (uint bytes)
    return { s with
      preemptedBytesSent := sent
      currentPreemptableFrame := if sent = frame.byteLength then none else some frame
      history := s.history ++ [.preemptedFrame frame sent frame.byteLength bytesInThisPart] }

def handleEndTxPeriod (cfg : MacConfig) (s : EtherMac) : Sim EtherMac :=
  if cfg.enablePreemptingFrames && s.transmittingPreemptableFrame then do
    let s ← s.sendPreemptedFrame cfg
    { s with
      transmittingExpressFrame := false
      transmittingPreemptableFrame := false }.finishTransmission cfg
  else if s.curTxFrame.isNone then .error (.undefinedBehaviour "curTxFrame->getTreeId()")
  else
    { s with
      transmittingExpressFrame := false
      transmittingPreemptableFrame := false }.finishTransmission cfg

def handleEndIFGPeriod (cfg : MacConfig) (s : EtherMac) : Sim EtherMac := do
  ASSERT s.curTxFrame.isNone "nullptr == curTxFrame"
  if s.transmitState ≠ .WAIT_IFG_STATE then
    .error (.runtimeError "Not in WAIT_IFG_STATE at the end of IFG period")
  else do
    let s ← s.getNextFrameFromQueue cfg
    s.beginSendFrames cfg

def handleEndPausePeriod (cfg : MacConfig) (s : EtherMac) : Sim EtherMac := do
  ASSERT s.curTxFrame.isNone "nullptr == curTxFrame"
  if s.transmitState ≠ .PAUSE_STATE then
    .error (.runtimeError "End of PAUSE event occurred when not in PAUSE_STATE!")
  else do
    let s ← s.getNextFrameFromQueue cfg
    s.beginSendFrames cfg

def processPauseCommand (cfg : MacConfig) (s : EtherMac) (pauseUnits : Int) : Sim EtherMac :=
  match s.transmitState with
  | .TX_IDLE_STATE => if pauseUnits > 0 then s.scheduleEndPausePeriod cfg pauseUnits else .ok s
  | .PAUSE_STATE => { s with endPauseMsg := none }.scheduleEndPausePeriod cfg pauseUnits
  | _ => .ok { s with pauseUnitsRequested := pauseUnits }

/-! ## preemption -/

def preemptCurrentFrame (cfg : MacConfig) (s : EtherMac) : Sim EtherMac := do
  ASSERT s.transmittingPreemptableFrame "transmittingPreemptableFrame"
  ASSERT s.currentPreemptableFrame.isSome "currentPreemptableFrame"
  ASSERT (!s.transmittingExpressFrame) "!transmittingExpressFrame"
  let possible ← s.isPreemptionNowPossible cfg
  ASSERT possible "isPreemptionNowPossible()"
  return { s with endTxMsg := some (s.time + calculateTransmissionDuration cfg 4) }

/-- `cancelAndDelete` and a new message for `t` -/
def scheduleRecheck (s : EtherMac) (t : SimTime) : Sim EtherMac :=
  match s.recheckForQueuedExpressFrameMsg with
  | .deleted =>
    .error (.undefinedBehaviour "cancelAndDelete(recheckForQueuedExpressFrameMsg)")
  | _ => do
    let _ ← scheduleAt s.time none t
    return { s with recheckForQueuedExpressFrameMsg := .scheduled t }

def packetEnqueued (cfg : MacConfig) (s : EtherMac) : Sim EtherMac :=
  if s.transmittingPreemptableFrame && !s.transmittingExpressFrame &&
      s.transmissionSelection.hasExpressPacketEnqueued s.onHold then do
    if ← s.isPreemptionNowPossible cfg then return s.requestPacket
    else do
      let nextPreemptionPossible ← s.isPreemptionLaterPossible cfg
      if nextPreemptionPossible ≠ 0 then s.scheduleRecheck nextPreemptionPossible else return s
  else .ok s

/-- a hold request preempts the current frame, or lets an idle MAC ask for an express frame -/
def preemptOrRequest (cfg : MacConfig) (s : EtherMac) : Sim EtherMac :=
  if s.transmittingPreemptableFrame then do
    if ← s.isPreemptionNowPossible cfg then s.preemptCurrentFrame cfg
    else do
      let nextPreemptionPossible ← s.isPreemptionLaterPossible cfg
      if nextPreemptionPossible ≠ 0 then do
        let preemptCurrentFrameMsg ← scheduleAt s.time none nextPreemptionPossible
        return { s with preemptCurrentFrameMsg }
      else return s
  else if s.transmitState = .TX_IDLE_STATE then s.getNextFrameFromQueue cfg
  else .ok s

def hold (cfg : MacConfig) (s : EtherMac) (delay : SimTime) : Sim EtherMac :=
  if !cfg.enablePreemptingFrames then .ok s
  else if delay = 0 then { s with onHold := true }.preemptOrRequest cfg
  else do
    let _ ← scheduleAt s.time none (s.time + delay)
    return { s with holdRequests := s.holdRequests ++ [s.time + delay] }

def release (cfg : MacConfig) (s : EtherMac) : Sim EtherMac :=
  if !cfg.enablePreemptingFrames then .ok s
  else
    let s := { s with
      onHold := false
      transmissionSelection := s.transmissionSelection.removePendingRequests }
    if !s.transmittingExpressFrame && s.endIFGMsg.isNone then do
      let s ← s.getNextFrameFromQueue cfg
      s.beginSendFrames cfg
    else .ok s

/-! ## a frame from the upper layer -/

def checkUpperPacket (cfg : MacConfig) (packet : Packet) : Sim Unit := do
  ASSERT (decide (packet.byteLength ≥ MIN_ETHERNET_FRAME_BYTES))
    "packet->getDataLength() >= MIN_ETHERNET_FRAME_BYTES"
  if packet.dest = cfg.address then
    .error (.runtimeError ("logic error: frame " ++ packet.name ++
      " from higher layer has local MAC address as dest (" ++ packet.dest ++ ")"))
  else if packet.byteLength > MAX_ETHERNET_FRAME_BYTES then
    .error (.runtimeError ("packet from higher layer (" ++ toString packet.byteLength ++
      " bytes) exceeds maximum Ethernet frame size (" ++ toString MAX_ETHERNET_FRAME_BYTES ++ ")"))
  else .ok ()

/-- an express frame makes the recheck superfluous -/
def cancelRecheck (s : EtherMac) (packet : Packet) : Sim EtherMac :=
  match packet.express, s.recheckForQueuedExpressFrameMsg with
  | true, .scheduled _ => .ok { s with recheckForQueuedExpressFrameMsg := .deleted }
  | true, .deleted =>
    .error (.undefinedBehaviour "recheckForQueuedExpressFrameMsg->isScheduled()")
  | _, _ => .ok s

/-- where the frame goes, and `nowPreempting` -/
def placeUpperPacket (cfg : MacConfig) (s : EtherMac) (packet : Packet) : Sim (EtherMac × Bool) :=
  if s.transmittingPreemptableFrame && packet.express then do
    let s ← { s with currentExpressFrame := some packet }.preemptCurrentFrame cfg
    return (s, true)
  else if packet.express && s.transmitState = .WAIT_IFG_STATE then
    .ok ({ s with currentExpressFrame := some packet }, false)
  else .ok ({ s with curTxFrame := some packet }, false)

/-- on hold, a preemptable frame is put aside -/
def storeOnHold (s : EtherMac) (packet : Packet) : EtherMac :=
  if s.onHold && !packet.express && s.currentPreemptableFrame.isNone then
    { s with currentPreemptableFrame := s.curTxFrame, curTxFrame := none }
  else s

def takeUpperPacket (cfg : MacConfig) (s : EtherMac) (packet : Packet) : Sim EtherMac := do
  ASSERT (s.transmitState = .TX_IDLE_STATE || s.transmitState = .PAUSE_STATE ||
      (!s.transmittingExpressFrame && packet.express))
    ("transmitState == TX_IDLE_STATE || transmitState == PAUSE_STATE" ++
      " || (!transmittingExpressFrame && isExpressFrame(packet))")
  let (s, nowPreempting) ← s.placeUpperPacket cfg packet
  let s := s.storeOnHold packet
  if s.transmitState = .TX_IDLE_STATE && !nowPreempting then s.startFrameTransmission cfg
  else return s

def handleUpperPacket (cfg : MacConfig) (s : EtherMac) (packet : Packet) : Sim EtherMac := do
  checkUpperPacket cfg packet
  if !cfg.connected || cfg.disabled then s.requestNextFrameFromExtQueue
  else do
    let s ← { s with history := s.history ++ [MacRecord.accepted packet] }.cancelRecheck packet
    s.takeUpperPacket cfg packet

/-! ## events -/

/-- the MAC's own timers -/
inductive MacTimer where
  | endTx
  | endIFG
  | endPause
  | recheckForQueuedExpressFrame
  | preemptCurrentFrame
  | holdRequest
  deriving DecidableEq, Repr

/-- the times for which a timer is scheduled -/
def scheduled (s : EtherMac) : MacTimer → List SimTime
  | .endTx => s.endTxMsg.toList
  | .endIFG => s.endIFGMsg.toList
  | .endPause => s.endPauseMsg.toList
  | .recheckForQueuedExpressFrame =>
    match s.recheckForQueuedExpressFrameMsg with
    | .scheduled t => [t]
    | _ => []
  | .preemptCurrentFrame => s.preemptCurrentFrameMsg.toList
  | .holdRequest => s.holdRequests

/-- `handleSelfMessage`, for a message that has been taken off the schedule -/
def handleSelfMessage (cfg : MacConfig) (s : EtherMac) : MacTimer → Sim EtherMac
  | .endTx => { s with endTxMsg := none }.handleEndTxPeriod cfg
  | .endIFG => { s with endIFGMsg := none }.handleEndIFGPeriod cfg
  | .endPause => { s with endPauseMsg := none }.handleEndPausePeriod cfg
  | .recheckForQueuedExpressFrame => do
    let (s, _) ← { s with recheckForQueuedExpressFrameMsg := .idle }.checkForAndRequestExpressFrame cfg
    return s
  | .preemptCurrentFrame => { s with preemptCurrentFrameMsg := none }.preemptCurrentFrame cfg
  | .holdRequest => { s with holdRequests := s.holdRequests.erase s.time }.hold cfg 0

end EtherMac

inductive MacEvent where
  /-- time goes on, over nothing that is due -/
  | advance (t : SimTime)
  | timer (timer : EtherMac.MacTimer)
  /-- a frame on `upperLayerIn` -/
  | handleUpperPacket (packet : Packet)
  /-- a frame from a gate through `TransmissionSelection` -/
  | handlePacket (gateId : Nat) (packet : Packet)
  | packetEnqueued
  | hold (delay : SimTime)
  | release
  | processPauseCommand (pauseUnits : Int)
  /-- the gates or their queues change -/
  | setGates (tGates : List GateView)
  /-- `TransmissionSelection::packetEnqueued` -/
  | gatePacketEnqueued
  /-- the self-messages of `TransmissionSelection` -/
  | requestPacketMsg
  | packetEnqueuedMsg
  deriving DecidableEq

namespace EtherMac

/-- nothing is due before `t` -/
def CanAdvance (s : EtherMac) (t : SimTime) : Prop :=
  s.time ≤ t ∧ s.transmissionSelection.requestPacketMsg = false ∧
    s.transmissionSelection.packetEnqueuedMsg = false ∧
    ∀ timer ∈ [MacTimer.endTx, .endIFG, .endPause, .recheckForQueuedExpressFrame,
      .preemptCurrentFrame, .holdRequest], ∀ u ∈ s.scheduled timer, t ≤ u

instance (s : EtherMac) (t : SimTime) : Decidable (s.CanAdvance t) :=
  inferInstanceAs (Decidable (_ ∧ _ ∧ _ ∧ _))

def step (cfg : MacConfig) (s : EtherMac) : MacEvent → Sim EtherMac
  | .advance t => if s.CanAdvance t then .ok { s with time := t } else .error (.assertion "an event is due")
  | .timer timer =>
    if s.time ∈ s.scheduled timer then s.handleSelfMessage cfg timer
    else .error (.assertion "the timer is not due")
  | .handleUpperPacket packet => s.handleUpperPacket cfg packet
  | .handlePacket gateId packet => do
    let (packet, ts) ← s.transmissionSelection.handlePacket gateId packet
    { s with transmissionSelection := ts }.handleUpperPacket cfg packet
  | .packetEnqueued => s.packetEnqueued cfg
  | .hold delay => s.hold cfg delay
  | .release => s.release cfg
  | .processPauseCommand pauseUnits => s.processPauseCommand cfg pauseUnits
  | .setGates tGates =>
    .ok { s with transmissionSelection := { s.transmissionSelection with tGates } }
  | .gatePacketEnqueued =>
    .ok { s with transmissionSelection := s.transmissionSelection.packetEnqueued }
  | .requestPacketMsg =>
    if s.transmissionSelection.requestPacketMsg then do
      let (ts, _) ← s.transmissionSelection.handleRequestPacketEvent s.onHold
      return { s with transmissionSelection := ts }
    else .error (.assertion "requestPacketMsg.isScheduled()")
  | .packetEnqueuedMsg =>
    if s.transmissionSelection.packetEnqueuedMsg then
      let r := s.transmissionSelection.handlePacketEnqueuedEvent s.onHold
      let s := { s with transmissionSelection := r.1 }
      if r.2.2 then s.packetEnqueued cfg else .ok s
    else .error (.assertion "packetEnqueuedMsg.isScheduled()")

end EtherMac

end Nesting
