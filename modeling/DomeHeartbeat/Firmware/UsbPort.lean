import Mathlib.Data.List.Basic

/-!
# The CDC interface and its endpoints

`UsbPort` is what `usb.c` and the class driver share with the USB controller:
the device state, the state of `interface` and the single banks of the two data
endpoints. A bank's bytes are listed oldest first. The interrupts of the USB
stack and what the host does on the bus are `UsbEvent`s.
-/

namespace DomeHeartbeat

/-- `USB_Device_States_t` -/
inductive UsbDeviceState where
  | unattached
  | powered
  | default
  | addressed
  | configured
  | suspended
deriving DecidableEq, Repr

/-- The bank of the IN endpoint: the device may fill it, or the host has yet to
take it. -/
inductive InBank where
  | filling (bytes : List UInt8)
  | handed (bytes : List UInt8)
deriving DecidableEq, Repr

/-- The globals and endpoints behind `usb_can_read`, `usb_read` and `usb_write`. -/
structure UsbPort where
  /-- `USB_DeviceState` -/
  deviceState : UsbDeviceState
  /-- `USB_Device_ConfigurationNumber` -/
  configurationNumber : UInt8
  /-- `interface.State.LineEncoding.BaudRateBPS` -/
  baudRateBps : UInt32
  /-- `interface.State.ControlLineStates.HostToDevice` -/
  hostToDevice : UInt16
  /-- The packet in the bank of the OUT endpoint while RXOUTI is set. -/
  outBank : Option (List UInt8)
  inBank : InBank
  /-- PD0 -/
  pluggedLed : Bool
  /-- PD1 -/
  connectedLed : Bool

/-- `CDC_TXRX_EPSIZE` -/
def cdcTxRxEpSize : Nat := 16

/-- `USB_STREAM_TIMEOUT_MS` -/
def usbStreamTimeoutMs : UInt8 := 100

/-- `Endpoint_WaitUntilReady_ErrorCodes_t` -/
inductive ReadyWait where
  | noError
  | endpointStalled
  | deviceDisconnected
  | busSuspended
  | timeout
deriving DecidableEq, Repr

namespace InBank

/-- The bytes in the bank. -/
def bytes : InBank → List UInt8
  | filling bytes | handed bytes => bytes

/-- `Endpoint_IsINReady` -/
def isInReady : InBank → Bool
  | filling _ => true
  | handed _ => false

/-- `Endpoint_IsReadWriteAllowed` -/
def isReadWriteAllowed : InBank → Bool
  | filling bytes => bytes.length < cdcTxRxEpSize
  | handed _ => false

/-- `Endpoint_BytesInEndpoint` -/
def bytesInEndpoint (bank : InBank) : Nat := bank.bytes.length

/-- `Endpoint_Write_8` -/
def write8 (byte : UInt8) : InBank → InBank
  | filling bytes => filling (bytes ++ [byte])
  | handed bytes => handed bytes

/-- `Endpoint_ClearIN` -/
def clearIn : InBank → InBank
  | filling bytes | handed bytes => handed bytes

@[simp] theorem bytes_clearIn (bank : InBank) : bank.clearIn.bytes = bank.bytes := by
  cases bank <;> rfl

@[simp] theorem bytes_filling (bytes : List UInt8) : (filling bytes).bytes = bytes := rfl

@[simp] theorem bytes_handed (bytes : List UInt8) : (handed bytes).bytes = bytes := rfl

/-- A bank that is ready takes the byte after those it has. -/
theorem bytes_write8 {bank : InBank} (ready : bank.isInReady = true) (byte : UInt8) :
    (bank.write8 byte).bytes = bank.bytes ++ [byte] := by
  cases bank with
  | filling bytes => rfl
  | handed bytes => cases ready

theorem isInReady_of_allowed {bank : InBank} (allowed : bank.isReadWriteAllowed = true) :
    bank.isInReady = true := by
  cases bank with
  | filling bytes => rfl
  | handed bytes => cases allowed

end InBank

/-- What a round of `usb_write` reads from the controller besides the bank: the
frame number and whether the endpoint is stalled. -/
structure BusAnswer where
  frameNumber : UInt16
  stalled : Bool
deriving DecidableEq, Repr

/-- Where `usb_write` goes on: its two tests of DTR, `CDC_Device_SendByte` and
`CDC_Device_Flush`, each with the loop of `Endpoint_WaitUntilReady` and its two
local counters. -/
inductive WritePc where
  | testDtr
  | sendByte
  | sendWait (timeoutMsRem : UInt8) (previousFrameNumber : UInt16)
  | testDtrAgain
  | flush
  | flushWait (timeoutMsRem : UInt8) (previousFrameNumber : UInt16)
deriving DecidableEq, Repr

/-- An interrupt of the USB stack or a transaction of the host. -/
inductive UsbEvent where
  | vbus (present : Bool)
  | suspend
  | wakeUp (addressSet : Bool)
  | busReset
  | setAddress (address : UInt8)
  | setConfiguration (number : UInt8) (addressSet : Bool)
  | setLineEncoding (baudRateBps : UInt32)
  | setControlLineState (value : UInt16)
  /-- The host sends a packet. -/
  | outPacket (bytes : List UInt8)
  /-- The host asks for a packet. -/
  | inToken
  /-- The controller discards banks, as it may with a reset of the bus and does when
  the host clears the halt of an endpoint. -/
  | dropBanks (dropOut dropIn : Bool)
deriving DecidableEq, Repr

/-- The event may discard what is in a bank. -/
def UsbEvent.clearsBanks : UsbEvent → Bool
  | setConfiguration number _ => number ≤ 1
  | dropBanks _ _ => true
  | _ => false

namespace UsbPort

/-- The state before the host is plugged in. -/
def reset : UsbPort where
  deviceState := .unattached
  configurationNumber := 0
  baudRateBps := 0
  hostToDevice := 0
  outBank := none
  inBank := .filling []
  pluggedLed := false
  connectedLed := false

/-- The test at the start of every function of the class driver. -/
def isOpen (port : UsbPort) : Bool := port.deviceState == .configured && port.baudRateBps != 0

/-- `HostToDevice & CDC_CONTROL_LINE_OUT_DTR` -/
def dtr (port : UsbPort) : Bool := port.hostToDevice &&& 1 != 0

/-- The bytes the host has sent that are not read yet. -/
def received (port : UsbPort) : List UInt8 := port.outBank.getD []

/-- `CDC_Device_BytesReceived` -/
def cdcDeviceBytesReceived (port : UsbPort) : Nat × UsbPort :=
  if !port.isOpen then (0, port)
  else
    match port.outBank with
    | some bytes => if bytes.length == 0 then (0, { port with outBank := none })
        else (bytes.length, port)
    | none => (0, port)

/-- `CDC_Device_ReceiveByte` -/
def cdcDeviceReceiveByte (port : UsbPort) : Int × UsbPort :=
  if !port.isOpen then (-1, port)
  else
    match port.outBank with
    | some bytes =>
        let receivedByte : Int := bytes.head?.elim (-1) fun byte => byte.toNat
        let left := bytes.tail
        (receivedByte, { port with outBank := if left.length == 0 then none else some left })
    | none => (-1, port)

/-- `usb_can_read` -/
def usbCanRead (port : UsbPort) : Bool × UsbPort :=
  let received := port.cdcDeviceBytesReceived
  (received.1 > 0, received.2)

/-- `usb_read`, as `poll_usb` tells its result apart; the LED is in `Board.usbRead`. -/
def usbRead (port : UsbPort) : Option UInt8 × UsbPort :=
  let ret := port.cdcDeviceReceiveByte
  (if ret.1 < 0 then none else some (UInt8.ofNat ret.1.toNat), ret.2)

/-- A round of `Endpoint_WaitUntilReady`: its result, or the counters of the next round. -/
def waitUntilReady (port : UsbPort) (timeoutMsRem : UInt8) (previousFrameNumber : UInt16)
    (answer : BusAnswer) : ReadyWait ⊕ UInt8 × UInt16 :=
  if port.inBank.isInReady then .inl .noError
  else if port.deviceState == .unattached then .inl .deviceDisconnected
  else if port.deviceState == .suspended then .inl .busSuspended
  else if answer.stalled then .inl .endpointStalled
  else if answer.frameNumber != previousFrameNumber then
    if timeoutMsRem == 0 then .inl .timeout
    else .inr (timeoutMsRem - 1, answer.frameNumber)
  else .inr (timeoutMsRem, previousFrameNumber)

/-- One round of `usb_write`: where it goes on, or nothing when it returns. -/
def usbWrite (port : UsbPort) (byte : UInt8) (pc : WritePc) (answer : BusAnswer) :
    Option WritePc × UsbPort :=
  match pc with
  | .testDtr => (if !port.dtr then none else some .sendByte, port)
  | .sendByte =>
      if !port.isOpen then (none, port)
      else if !port.inBank.isReadWriteAllowed then
        (some (.sendWait usbStreamTimeoutMs answer.frameNumber),
          { port with inBank := port.inBank.clearIn })
      else (some .testDtrAgain, { port with inBank := port.inBank.write8 byte })
  | .sendWait timeoutMsRem previousFrameNumber =>
      match port.waitUntilReady timeoutMsRem previousFrameNumber answer with
      | .inl .noError => (some .testDtrAgain, { port with inBank := port.inBank.write8 byte })
      | .inl _ => (none, port)
      | .inr (timeoutMsRem, previousFrameNumber) =>
          (some (.sendWait timeoutMsRem previousFrameNumber), port)
  | .testDtrAgain => (if !port.dtr then none else some .flush, port)
  | .flush =>
      if !port.isOpen then (none, port)
      else if port.inBank.bytesInEndpoint == 0 then (none, port)
      else
        let bankFull := !port.inBank.isReadWriteAllowed
        let port := { port with inBank := port.inBank.clearIn }
        (if bankFull then some (.flushWait usbStreamTimeoutMs answer.frameNumber) else none, port)
  | .flushWait timeoutMsRem previousFrameNumber =>
      match port.waitUntilReady timeoutMsRem previousFrameNumber answer with
      | .inl .noError => (none, { port with inBank := port.inBank.clearIn })
      | .inl _ => (none, port)
      | .inr (timeoutMsRem, previousFrameNumber) =>
          (some (.flushWait timeoutMsRem previousFrameNumber), port)

/-- `CDC_Device_ConfigureEndpoints` -/
def cdcDeviceConfigureEndpoints (port : UsbPort) : UsbPort :=
  { port with baudRateBps := 0, hostToDevice := 0, outBank := none, inBank := .filling [] }

/-- `EVENT_CDC_Device_ControLineStateChanged` -/
def controLineStateChanged (port : UsbPort) : UsbPort :=
  { port with pluggedLed := !port.dtr, connectedLed := port.dtr }

/-- What an event changes. A packet that finds the OUT bank taken is refused, and
so is a request for a packet while there is none. -/
def onEvent (port : UsbPort) : UsbEvent → UsbPort
  | .vbus true => { port with deviceState := .powered, pluggedLed := true, connectedLed := false }
  | .vbus false =>
      { port with deviceState := .unattached, pluggedLed := false, connectedLed := false }
  | .suspend => { port with deviceState := .suspended }
  | .wakeUp addressSet => { port with
      deviceState := if port.configurationNumber != 0 then .configured
        else if addressSet then .addressed else .powered }
  | .busReset => { port with deviceState := .default, configurationNumber := 0 }
  | .setAddress address => { port with
      deviceState := if address &&& 0x7F != 0 then .addressed else .default }
  | .setConfiguration number addressSet =>
      if number > 1 then port
      else
        cdcDeviceConfigureEndpoints { port with
          configurationNumber := number
          deviceState := if number != 0 then .configured
            else if addressSet then .configured else .powered }
  | .setLineEncoding baudRateBps => { port with baudRateBps := baudRateBps }
  | .setControlLineState value => controLineStateChanged { port with hostToDevice := value }
  | .outPacket bytes =>
      if port.outBank.isNone && bytes.length ≤ cdcTxRxEpSize then
        { port with outBank := some bytes }
      else port
  | .inToken =>
      match port.inBank with
      | .filling _ => port
      | .handed _ => { port with inBank := .filling [] }
  | .dropBanks dropOut dropIn => { port with
      outBank := if dropOut then none else port.outBank
      inBank := if dropIn then .filling [] else port.inBank }

/-- The bytes the host takes from the device. -/
def taken (port : UsbPort) : UsbEvent → List UInt8
  | .inToken =>
      match port.inBank with
      | .filling _ => []
      | .handed bytes => bytes
  | _ => []

/-- The bytes the device accepts from the host. -/
def accepted (port : UsbPort) : UsbEvent → List UInt8
  | .outPacket bytes =>
      if port.outBank.isNone && bytes.length ≤ cdcTxRxEpSize then bytes else []
  | _ => []

/-! ## What the calls do to the banks -/

section Calls

variable (port : UsbPort)

theorem usbCanRead_fst : port.usbCanRead.1 = (port.isOpen && !port.received.isEmpty) := by
  cases opened : port.isOpen with
  | false => simp [usbCanRead, cdcDeviceBytesReceived, opened]
  | true =>
      cases bank : port.outBank with
      | none => simp [usbCanRead, cdcDeviceBytesReceived, received, opened, bank]
      | some bytes =>
          cases bytes <;> simp [usbCanRead, cdcDeviceBytesReceived, received, opened, bank]

/-- An empty packet is cleared and nothing else changes. -/
theorem usbCanRead_snd :
    port.usbCanRead.2 =
      { port with outBank := if port.isOpen && port.outBank == some [] then none
        else port.outBank } := by
  cases opened : port.isOpen with
  | false => simp [usbCanRead, cdcDeviceBytesReceived, opened]
  | true =>
      cases bank : port.outBank with
      | none =>
          cases port
          simp_all [usbCanRead, cdcDeviceBytesReceived]
      | some bytes =>
          cases port
          cases bytes <;> simp_all [usbCanRead, cdcDeviceBytesReceived]

theorem usbRead_fst : port.usbRead.1 = if port.isOpen then port.received.head? else none := by
  cases opened : port.isOpen with
  | false => simp [usbRead, cdcDeviceReceiveByte, opened]
  | true =>
      cases bank : port.outBank with
      | none => simp [usbRead, cdcDeviceReceiveByte, received, opened, bank]
      | some bytes =>
          cases bytes with
          | nil => simp [usbRead, cdcDeviceReceiveByte, received, opened, bank]
          | cons byte rest => simp [usbRead, cdcDeviceReceiveByte, received, opened, bank]

/-- Reading takes the oldest byte; the packet is acknowledged with its last byte. -/
theorem usbRead_snd :
    port.usbRead.2 =
      { port with outBank := if port.isOpen && port.received.length ≤ 1 then none
        else if port.isOpen then some port.received.tail else port.outBank } := by
  cases opened : port.isOpen with
  | false => simp [usbRead, cdcDeviceReceiveByte, opened]
  | true =>
      cases bank : port.outBank with
      | none =>
          cases port
          simp_all [usbRead, cdcDeviceReceiveByte, received]
      | some bytes =>
          cases bytes with
          | nil => simp [usbRead, cdcDeviceReceiveByte, received, opened, bank]
          | cons byte rest => cases rest <;>
              simp [usbRead, cdcDeviceReceiveByte, received, opened, bank]

/-- What is read and what is left are what was received. -/
theorem read_append_received :
    port.usbRead.1.toList ++ port.usbRead.2.received = port.received := by
  rw [usbRead_fst, usbRead_snd]
  cases opened : port.isOpen with
  | false => simp [received]
  | true => rcases bytes : port.received with _ | ⟨byte, _ | ⟨next, rest⟩⟩ <;> simp [received]

@[simp] theorem received_usbCanRead : port.usbCanRead.2.received = port.received := by
  rw [usbCanRead_snd]
  by_cases empty : port.isOpen && port.outBank == some []
  · rw [Bool.and_eq_true, beq_iff_eq] at empty
    simp [received, empty]
  · simp [received, empty]

@[simp] theorem isOpen_usbCanRead : port.usbCanRead.2.isOpen = port.isOpen := by
  rw [usbCanRead_snd]
  rfl

@[simp] theorem inBank_usbCanRead : port.usbCanRead.2.inBank = port.inBank := by
  rw [usbCanRead_snd]

@[simp] theorem isOpen_usbRead : port.usbRead.2.isOpen = port.isOpen := by
  rw [usbRead_snd]
  rfl

@[simp] theorem inBank_usbRead : port.usbRead.2.inBank = port.inBank := by
  rw [usbRead_snd]

/-- `usb_write` changes nothing but the IN bank. -/
theorem usbWrite_snd (byte : UInt8) (pc : WritePc) (answer : BusAnswer) :
    (port.usbWrite byte pc answer).2 =
      { port with inBank := (port.usbWrite byte pc answer).2.inBank } := by
  cases pc with
  | testDtr | testDtrAgain => rfl
  | sendByte | flush =>
      simp only [usbWrite]
      split_ifs <;> rfl
  | sendWait timeoutMsRem previousFrameNumber | flushWait timeoutMsRem previousFrameNumber =>
      simp only [usbWrite]
      split <;> rfl

@[simp] theorem received_usbWrite (byte : UInt8) (pc : WritePc) (answer : BusAnswer) :
    (port.usbWrite byte pc answer).2.received = port.received := by
  rw [usbWrite_snd]
  rfl

@[simp] theorem isOpen_usbWrite (byte : UInt8) (pc : WritePc) (answer : BusAnswer) :
    (port.usbWrite byte pc answer).2.isOpen = port.isOpen := by
  rw [usbWrite_snd]
  rfl

end Calls

section Events

variable {port : UsbPort} {event : UsbEvent}

/-- An event that clears no bank keeps what was received and adds what it accepts. -/
theorem received_onEvent (keeps : event.clearsBanks = false) :
    (port.onEvent event).received = port.received ++ port.accepted event := by
  cases event with
  | vbus present => cases present <;> simp [onEvent, accepted, received]
  | setConfiguration number addressSet =>
      have many : 1 < number := UInt8.not_le.mp (of_decide_eq_false keeps)
      simp [onEvent, accepted, many]
  | outPacket bytes =>
      by_cases room : port.outBank.isNone && bytes.length ≤ cdcTxRxEpSize
      · have empty : port.outBank = none := by
          rw [Bool.and_eq_true] at room
          exact Option.isNone_iff_eq_none.mp room.1
        simp only [onEvent, accepted, room]
        simp [received, empty]
      · simp only [onEvent, accepted, room]
        simp
  | inToken =>
      cases bank : port.inBank <;> simp [onEvent, accepted, received, bank]
  | dropBanks dropOut dropIn => cases keeps
  | setControlLineState value => simp [onEvent, accepted, received, controLineStateChanged]
  | suspend | wakeUp addressSet | busReset | setAddress address | setLineEncoding baudRateBps =>
      simp [onEvent, accepted, received]

/-- What is received after an event was there before or is accepted by it. -/
theorem received_onEvent_sublist (port : UsbPort) (event : UsbEvent) :
    List.Sublist (port.onEvent event).received (port.received ++ port.accepted event) := by
  cases clears : event.clearsBanks with
  | false => rw [received_onEvent clears]
  | true =>
      cases event with
      | setConfiguration number addressSet =>
          have few : ¬ number > 1 := UInt8.not_lt.mpr (of_decide_eq_true clears)
          simp [onEvent, few, cdcDeviceConfigureEndpoints, received]
      | dropBanks dropOut dropIn =>
          cases dropOut with
          | true => exact List.nil_sublist _
          | false => exact List.sublist_append_left _ _
      | _ => cases clears

/-- An event that clears no bank passes on to the host what it takes from the bank. -/
theorem taken_append_onEvent (keeps : event.clearsBanks = false) :
    port.taken event ++ (port.onEvent event).inBank.bytes = port.inBank.bytes := by
  cases event with
  | vbus present => cases present <;> rfl
  | setConfiguration number addressSet =>
      have many : 1 < number := UInt8.not_le.mp (of_decide_eq_false keeps)
      simp [onEvent, taken, many]
  | outPacket bytes =>
      simp only [onEvent, taken]
      split_ifs <;> rfl
  | inToken => cases bank : port.inBank <;> simp [onEvent, taken, bank]
  | dropBanks dropOut dropIn => cases keeps
  | _ => rfl

/-- What the host takes and what is left for it were in the bank. -/
theorem taken_append_onEvent_sublist (port : UsbPort) (event : UsbEvent) :
    List.Sublist (port.taken event ++ (port.onEvent event).inBank.bytes) port.inBank.bytes := by
  cases clears : event.clearsBanks with
  | false => rw [taken_append_onEvent clears]
  | true =>
      cases event with
      | setConfiguration number addressSet =>
          have few : ¬ number > 1 := UInt8.not_lt.mpr (of_decide_eq_true clears)
          simp [onEvent, taken, few, cdcDeviceConfigureEndpoints]
      | dropBanks dropOut dropIn =>
          cases dropIn with
          | true => exact List.nil_sublist _
          | false => exact List.Sublist.refl _
      | _ => cases clears

end Events

end UsbPort

end DomeHeartbeat
