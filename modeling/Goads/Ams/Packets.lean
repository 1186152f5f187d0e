import Goads.Ams.Notification

/-!
# The packets the receive pump recognises

`Client.receive` classifies a frame by its AMS header and decodes it as one of seven packet
types. Three of them, `AddDeviceNotificationResponse`, `DeleteDeviceNotificationResponse`
(`ams` sources) and `DeviceNotificationRequest` (`Goads.Ams.Notification`), are in the sources.
The other four, and the `ReadStateResponse` the pump sends back, live in files of `ams` that
are not; they are modelled from the specification's body-layout table:

* Read response: `result:u32, length:u32, data:length bytes`;
* Write response: `result:u32`;
* ReadWrite response: `result:u32, length:u32, data:length bytes`;
* ReadState request: empty; ReadState response: `result:u32, adsState:u16, deviceState:u16`.

The `serialize` of each packet is its wire image as `WriteStruct` lays it out: the bytes a
server writes for that packet. (The sources' own `Encode` methods of the notification packets
also overwrite header fields first; they are not what the pump reads.)

## Main definitions

* `Goads.Ams.Packet` — the `packet` interface values the pump can decode.
* `Goads.Ams.classify` — the pump's `switch` over the routing predicates.
* `Goads.Ams.Packet.decodeAs` — `pkt.Decode` for the classified type.

## Main results

* `Goads.Ams.Packet.decodeAs_serialize` — a well-formed packet's wire image decodes, as its own
  kind, back to it, whatever bytes follow.
-/

namespace Goads.Ams

/-! ## Response and request bodies -/

/-- `ams.ReadResponse`. -/
structure ReadResponse where
  tcpHeader : TCPHeader
  amsHeader : AMSHeader
  result : UInt32
  length : UInt32
  data : List UInt8
  deriving DecidableEq, Repr

/-- `ams.WriteResponse`. -/
structure WriteResponse where
  tcpHeader : TCPHeader
  amsHeader : AMSHeader
  result : UInt32
  deriving DecidableEq, Repr

/-- `ams.ReadWriteResponse`. -/
structure ReadWriteResponse where
  tcpHeader : TCPHeader
  amsHeader : AMSHeader
  result : UInt32
  length : UInt32
  data : List UInt8
  deriving DecidableEq, Repr

/-- `ams.ReadStateRequest`: the two headers and no body. -/
structure ReadStateRequest where
  tcpHeader : TCPHeader
  amsHeader : AMSHeader
  deriving DecidableEq, Repr

/-- `ams.ReadStateResponse`. -/
structure ReadStateResponse where
  tcpHeader : TCPHeader
  amsHeader : AMSHeader
  result : UInt32
  adsState : UInt16
  deviceState : UInt16
  deriving DecidableEq, Repr

/-- `ams.AddDeviceNotificationResponse`. -/
structure AddDeviceNotificationResponse where
  tcpHeader : TCPHeader
  amsHeader : AMSHeader
  result : UInt32
  notificationHandle : UInt32
  deriving DecidableEq, Repr

/-- `ams.DeleteDeviceNotificationResponse`. -/
structure DeleteDeviceNotificationResponse where
  tcpHeader : TCPHeader
  amsHeader : AMSHeader
  result : UInt32
  deriving DecidableEq, Repr

/-- `ReadResponse.Decode`. -/
def ReadResponse.decode : Decoder ReadResponse := do
  let tcpHeader ← TCPHeader.decode
  let amsHeader ← AMSHeader.decode
  let result ← readUint32
  let length ← readUint32
  let data ← readN length.toNat
  return ⟨tcpHeader, amsHeader, result, length, data⟩

/-- `WriteResponse.Decode`. -/
def WriteResponse.decode : Decoder WriteResponse := do
  let tcpHeader ← TCPHeader.decode
  let amsHeader ← AMSHeader.decode
  let result ← readUint32
  return ⟨tcpHeader, amsHeader, result⟩

/-- `ReadWriteResponse.Decode`. -/
def ReadWriteResponse.decode : Decoder ReadWriteResponse := do
  let tcpHeader ← TCPHeader.decode
  let amsHeader ← AMSHeader.decode
  let result ← readUint32
  let length ← readUint32
  let data ← readN length.toNat
  return ⟨tcpHeader, amsHeader, result, length, data⟩

/-- `ReadStateRequest.Decode`. -/
def ReadStateRequest.decode : Decoder ReadStateRequest := do
  let tcpHeader ← TCPHeader.decode
  let amsHeader ← AMSHeader.decode
  return ⟨tcpHeader, amsHeader⟩

/-- `AddDeviceNotificationResponse.Decode`. -/
def AddDeviceNotificationResponse.decode : Decoder AddDeviceNotificationResponse := do
  let tcpHeader ← TCPHeader.decode
  let amsHeader ← AMSHeader.decode
  let result ← readUint32
  let notificationHandle ← readUint32
  return ⟨tcpHeader, amsHeader, result, notificationHandle⟩

/-- `DeleteDeviceNotificationResponse.Decode`. -/
def DeleteDeviceNotificationResponse.decode : Decoder DeleteDeviceNotificationResponse := do
  let tcpHeader ← TCPHeader.decode
  let amsHeader ← AMSHeader.decode
  let result ← readUint32
  return ⟨tcpHeader, amsHeader, result⟩

/-- `NewReadStateResponse(target, sender, result, adsState, deviceState)`, as
`handleReadStateRequest` builds it, with the request's invoke id copied in by `sendResponse`. -/
def ReadStateResponse.reply (req : ReadStateRequest) (adsState deviceState : UInt16) :
    ReadStateResponse :=
  ⟨⟨0, UInt32.ofNat amsHeaderLen + 8⟩,
    ⟨req.amsHeader.sender, req.amsHeader.target, cmdADSReadState,
      stateADSCommand ||| stateResponse, 8, 0, req.amsHeader.invokeID⟩,
    noError, adsState, deviceState⟩

/-- `ReadStateResponse.Encode`. -/
def ReadStateResponse.encode (r : ReadStateResponse) : List UInt8 :=
  r.tcpHeader.encode ++ r.amsHeader.encode ++ putUint32 r.result ++ putUint16 r.adsState ++
    putUint16 r.deviceState

/-! ## The decodable packets -/

/-- The values of the `packet` interface that `Client.receive` decodes into. -/
inductive Packet
  | readResponse (r : ReadResponse)
  | writeResponse (r : WriteResponse)
  | readWriteResponse (r : ReadWriteResponse)
  | readStateRequest (r : ReadStateRequest)
  | deviceNotificationRequest (r : DeviceNotificationRequest)
  | addDeviceNotificationResponse (r : AddDeviceNotificationResponse)
  | deleteDeviceNotificationResponse (r : DeleteDeviceNotificationResponse)
  deriving DecidableEq, Repr

/-- The branch of the pump's `switch` a frame takes. -/
inductive PacketKind
  | readResponse
  | writeResponse
  | readWriteResponse
  | readStateRequest
  | deviceNotificationRequest
  | addDeviceNotificationResponse
  | deleteDeviceNotificationResponse
  deriving DecidableEq, Repr

/-- The `switch` of `Client.receive`: the first routing predicate that holds, or `none` for an
unknown packet. -/
def classify (h : AMSHeader) : Option PacketKind :=
  if isReadResponse h then some .readResponse
  else if isWriteResponse h then some .writeResponse
  else if isReadWriteResponse h then some .readWriteResponse
  else if isReadStateRequest h then some .readStateRequest
  else if isDeviceNotificationRequest h then some .deviceNotificationRequest
  else if isAddDeviceNotificationResponse h then some .addDeviceNotificationResponse
  else if isDeleteDeviceNotificationResponse h then some .deleteDeviceNotificationResponse
  else none

/-- `pkt.Decode` for the packet type the `switch` chose. -/
def Packet.decodeAs : PacketKind → Decoder Packet
  | .readResponse => .readResponse <$> ReadResponse.decode
  | .writeResponse => .writeResponse <$> WriteResponse.decode
  | .readWriteResponse => .readWriteResponse <$> ReadWriteResponse.decode
  | .readStateRequest => .readStateRequest <$> ReadStateRequest.decode
  | .deviceNotificationRequest => .deviceNotificationRequest <$> DeviceNotificationRequest.decode
  | .addDeviceNotificationResponse =>
    .addDeviceNotificationResponse <$> AddDeviceNotificationResponse.decode
  | .deleteDeviceNotificationResponse =>
    .deleteDeviceNotificationResponse <$> DeleteDeviceNotificationResponse.decode

/-- The packet's type. -/
def Packet.kind : Packet → PacketKind
  | .readResponse _ => .readResponse
  | .writeResponse _ => .writeResponse
  | .readWriteResponse _ => .readWriteResponse
  | .readStateRequest _ => .readStateRequest
  | .deviceNotificationRequest _ => .deviceNotificationRequest
  | .addDeviceNotificationResponse _ => .addDeviceNotificationResponse
  | .deleteDeviceNotificationResponse _ => .deleteDeviceNotificationResponse

/-- The branches of the pump's second `switch` that forward the packet to a waiting `send`: every
recognised type but the two server-initiated requests. -/
def PacketKind.isResponse : PacketKind → Bool
  | .readStateRequest => false
  | .deviceNotificationRequest => false
  | _ => true

/-- `Header()`: the packet's AMS header. -/
def Packet.header : Packet → AMSHeader
  | .readResponse r => r.amsHeader
  | .writeResponse r => r.amsHeader
  | .readWriteResponse r => r.amsHeader
  | .readStateRequest r => r.amsHeader
  | .deviceNotificationRequest r => r.amsHeader
  | .addDeviceNotificationResponse r => r.amsHeader
  | .deleteDeviceNotificationResponse r => r.amsHeader

/-- The packet's TCP header. -/
def Packet.tcpHeader : Packet → TCPHeader
  | .readResponse r => r.tcpHeader
  | .writeResponse r => r.tcpHeader
  | .readWriteResponse r => r.tcpHeader
  | .readStateRequest r => r.tcpHeader
  | .deviceNotificationRequest r => r.tcpHeader
  | .addDeviceNotificationResponse r => r.tcpHeader
  | .deleteDeviceNotificationResponse r => r.tcpHeader

/-- The packet's body after the two headers, as the server writes it. -/
def Packet.body : Packet → List UInt8
  | .readResponse r => putUint32 r.result ++ putUint32 r.length ++ r.data
  | .writeResponse r => putUint32 r.result
  | .readWriteResponse r => putUint32 r.result ++ putUint32 r.length ++ r.data
  | .readStateRequest _ => []
  | .deviceNotificationRequest r =>
    putUint32 r.length ++ putUint32 r.stampCount ++ r.stamps.flatMap NotificationStamp.encode
  | .addDeviceNotificationResponse r => putUint32 r.result ++ putUint32 r.notificationHandle
  | .deleteDeviceNotificationResponse r => putUint32 r.result

/-- The frame the server writes for the packet: TCP header, AMS header, body. -/
def Packet.serialize (p : Packet) : List UInt8 := p.tcpHeader.encode ++ p.header.encode ++ p.body

/-- A well-formed frame: its header routes it to its own type, and its counts agree with its
data (`length` with the data of a Read or ReadWrite response, the stamp and sample counts of a
notification). -/
def Packet.WellFormed (p : Packet) : Prop :=
  classify p.header = some p.kind ∧
    match p with
    | .readResponse r => r.length.toNat = r.data.length
    | .readWriteResponse r => r.length.toNat = r.data.length
    | .deviceNotificationRequest r => r.WellFormed
    | _ => True

instance (p : Packet) : Decidable p.WellFormed :=
  match p with
  | .readResponse r => inferInstanceAs (Decidable (_ ∧ r.length.toNat = r.data.length))
  | .writeResponse _ => inferInstanceAs (Decidable (_ ∧ True))
  | .readWriteResponse r => inferInstanceAs (Decidable (_ ∧ r.length.toNat = r.data.length))
  | .readStateRequest _ => inferInstanceAs (Decidable (_ ∧ True))
  | .deviceNotificationRequest r => inferInstanceAs (Decidable (_ ∧ r.WellFormed))
  | .addDeviceNotificationResponse _ => inferInstanceAs (Decidable (_ ∧ True))
  | .deleteDeviceNotificationResponse _ => inferInstanceAs (Decidable (_ ∧ True))

/-! ## Decoding a frame as its own kind -/

lemma Packet.serialize_deviceNotificationRequest (r : DeviceNotificationRequest) :
    (Packet.deviceNotificationRequest r).serialize = r.encode := by
  simp [Packet.serialize, Packet.body, Packet.header, Packet.tcpHeader,
    DeviceNotificationRequest.encode]

/-- A well-formed frame decodes, as the type its header routes it to, back to its packet; the
bytes after it are left unread. -/
lemma Packet.decodeAs_serialize {p : Packet} (hp : p.WellFormed) (t : List UInt8) :
    (Packet.decodeAs p.kind).run (p.serialize ++ t) = some (p, t) := by
  obtain ⟨-, hbody⟩ := hp
  cases p with
  | readResponse r =>
    simp [Packet.decodeAs, Packet.kind, Packet.serialize, Packet.body, Packet.header,
      Packet.tcpHeader, ReadResponse.decode, readN_run_of_length hbody.symm]
  | readWriteResponse r =>
    simp [Packet.decodeAs, Packet.kind, Packet.serialize, Packet.body, Packet.header,
      Packet.tcpHeader, ReadWriteResponse.decode, readN_run_of_length hbody.symm]
  | deviceNotificationRequest r =>
    rw [Packet.serialize_deviceNotificationRequest]
    simp [Packet.decodeAs, Packet.kind, DeviceNotificationRequest.decode_run_encode_append hbody]
  | _ =>
    simp [Packet.decodeAs, Packet.kind, Packet.serialize, Packet.body, Packet.header,
      Packet.tcpHeader, WriteResponse.decode, ReadStateRequest.decode,
      AddDeviceNotificationResponse.decode, DeleteDeviceNotificationResponse.decode]

/-- The header the pump decodes first from a frame is the frame's own. -/
lemma Packet.header_decode_serialize (p : Packet) (t : List UInt8) :
    Header.decode.run (p.serialize ++ t) = some (⟨p.tcpHeader, p.header⟩, p.body ++ t) := by
  simpa [Packet.serialize, Header.encode] using Header.decode_run_encode ⟨p.tcpHeader, p.header⟩
    (p.body ++ t)

end Goads.Ams
