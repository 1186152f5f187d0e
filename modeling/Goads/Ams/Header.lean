import Goads.Ams.Buffer

/-!
# The TCP and AMS headers

Every frame on the wire is a 6-byte TCP header, a 32-byte AMS header and a body. The header
types, the command ids, the state-flag bits and the routing predicates the receive pump uses
are declared in files of the `ams` package that are not among the sources (the sources use
them: `hdr.Decode`, `ams.IsReadResponse`, `ams.HasState`, `amsHeaderLen`, `StateResponse`).
They are modelled here from the specification's data model: "TCPHeader (6 bytes: 2 reserved +
4 payload length) ‖ AMSHeader (32 bytes)", the AMS header's field list, the closed command set
and "a frame is a response when `Response` is set; otherwise a request".

## Main definitions

* `Goads.Ams.Addr`, `Goads.Ams.TCPHeader`, `Goads.Ams.AMSHeader`, `Goads.Ams.Header` — the
  packed header structs, with their `encode` (`WriteStruct`) and `decode` (`ReadStruct`).
* `Goads.Ams.isReadResponse` … `Goads.Ams.isDeleteDeviceNotificationResponse` — the routing
  predicates of `Client.receive`.

## Main results

* `Goads.Ams.AMSHeader.decode_run_eq_some_iff` (and the same for the other headers) — a header
  decodes to `x` leaving `r` exactly when the buffer is `x.encode ++ r`.
-/

namespace Goads.Ams

/-! ## Constants -/

/-- `CmdADSReadDeviceInfo`. -/
def cmdADSReadDeviceInfo : UInt16 := 1
/-- `CmdADSRead`. -/
def cmdADSRead : UInt16 := 2
/-- `CmdADSWrite`. -/
def cmdADSWrite : UInt16 := 3
/-- `CmdADSReadState`. -/
def cmdADSReadState : UInt16 := 4
/-- `CmdADSAddDeviceNotification`. -/
def cmdADSAddDeviceNotification : UInt16 := 6
/-- `CmdADSDeleteDeviceNotification`. -/
def cmdADSDeleteDeviceNotification : UInt16 := 7
/-- `CmdADSDeviceNotification`. -/
def cmdADSDeviceNotification : UInt16 := 8
/-- `CmdADSReadWrite`. -/
def cmdADSReadWrite : UInt16 := 9

/-- `StateResponse`, the response bit of the state flags. -/
def stateResponse : UInt16 := 0x0001
/-- `StateADSCommand`. -/
def stateADSCommand : UInt16 := 0x0004

/-- `amsHeaderLen`, the size of the packed AMS header. -/
def amsHeaderLen : ℕ := 32

/-- `NoError`. -/
def noError : UInt32 := 0

/-! ## Addresses -/

/-- `ams.Addr`: a six-byte NetId and a port. -/
structure Addr where
  netID : FixedBytes 6
  port : UInt16
  deriving DecidableEq, Repr

/-- `WriteStruct` of an address. -/
def Addr.encode (a : Addr) : List UInt8 := a.netID.toList ++ putUint16 a.port

/-- `ReadStruct` of an address. -/
def Addr.decode : Decoder Addr := do
  let netID ← readFixed 6
  let port ← readUint16
  return ⟨netID, port⟩

@[simp] lemma Addr.length_encode (a : Addr) : a.encode.length = 8 := by
  simp [Addr.encode, a.netID.length_toList]

@[simp] lemma Addr.decode_run_encode (a : Addr) (t : List UInt8) :
    Addr.decode.run (a.encode ++ t) = some (a, t) := by
  simp [Addr.decode, Addr.encode, readFixed_run_append]

lemma Addr.eq_encode_of_decode {s r : List UInt8} {a : Addr}
    (h : Addr.decode.run s = some (a, r)) : s = a.encode ++ r := by
  obtain ⟨netID, s, h1, h⟩ := exists_of_run_bind h
  obtain ⟨port, s', h2, h⟩ := exists_of_run_bind h
  obtain ⟨rfl, rfl⟩ := run_pure_eq_some.mp h
  rw [eq_append_of_readFixed h1, eq_put_of_readUint16 h2]
  simp [Addr.encode]

/-! ## The TCP header -/

/-- `ams.TCPHeader`: two reserved bytes and the length of everything after the header. -/
structure TCPHeader where
  reserved : UInt16
  length : UInt32
  deriving DecidableEq, Repr

/-- `WriteStruct` of the TCP header. -/
def TCPHeader.encode (h : TCPHeader) : List UInt8 := putUint16 h.reserved ++ putUint32 h.length

/-- `ReadStruct` of the TCP header. -/
def TCPHeader.decode : Decoder TCPHeader := do
  let reserved ← readUint16
  let length ← readUint32
  return ⟨reserved, length⟩

@[simp] lemma TCPHeader.length_encode (h : TCPHeader) : h.encode.length = 6 := by
  simp [TCPHeader.encode]

@[simp] lemma TCPHeader.decode_run_encode (h : TCPHeader) (t : List UInt8) :
    TCPHeader.decode.run (h.encode ++ t) = some (h, t) := by
  simp [TCPHeader.decode, TCPHeader.encode]

lemma TCPHeader.eq_encode_of_decode {s r : List UInt8} {h : TCPHeader}
    (hd : TCPHeader.decode.run s = some (h, r)) : s = h.encode ++ r := by
  obtain ⟨reserved, s, h1, hd⟩ := exists_of_run_bind hd
  obtain ⟨length, s', h2, hd⟩ := exists_of_run_bind hd
  obtain ⟨rfl, rfl⟩ := run_pure_eq_some.mp hd
  rw [eq_put_of_readUint16 h1, eq_put_of_readUint32 h2]
  simp [TCPHeader.encode]

/-! ## The AMS header -/

/-- `ams.AMSHeader`. -/
structure AMSHeader where
  target : Addr
  sender : Addr
  cmdID : UInt16
  stateFlags : UInt16
  length : UInt32
  errorCode : UInt32
  invokeID : UInt32
  deriving DecidableEq, Repr

/-- `WriteStruct` of the AMS header. -/
def AMSHeader.encode (h : AMSHeader) : List UInt8 :=
  h.target.encode ++ h.sender.encode ++ putUint16 h.cmdID ++ putUint16 h.stateFlags ++
    putUint32 h.length ++ putUint32 h.errorCode ++ putUint32 h.invokeID

/-- `ReadStruct` of the AMS header. -/
def AMSHeader.decode : Decoder AMSHeader := do
  let target ← Addr.decode
  let sender ← Addr.decode
  let cmdID ← readUint16
  let stateFlags ← readUint16
  let length ← readUint32
  let errorCode ← readUint32
  let invokeID ← readUint32
  return ⟨target, sender, cmdID, stateFlags, length, errorCode, invokeID⟩

@[simp] lemma AMSHeader.length_encode (h : AMSHeader) : h.encode.length = amsHeaderLen := by
  simp [AMSHeader.encode, amsHeaderLen]

@[simp] lemma AMSHeader.decode_run_encode (h : AMSHeader) (t : List UInt8) :
    AMSHeader.decode.run (h.encode ++ t) = some (h, t) := by
  simp [AMSHeader.decode, AMSHeader.encode]

lemma AMSHeader.eq_encode_of_decode {s r : List UInt8} {h : AMSHeader}
    (hd : AMSHeader.decode.run s = some (h, r)) : s = h.encode ++ r := by
  obtain ⟨target, s, h1, hd⟩ := exists_of_run_bind hd
  obtain ⟨sender, s, h2, hd⟩ := exists_of_run_bind hd
  obtain ⟨cmdID, s, h3, hd⟩ := exists_of_run_bind hd
  obtain ⟨stateFlags, s, h4, hd⟩ := exists_of_run_bind hd
  obtain ⟨length, s, h5, hd⟩ := exists_of_run_bind hd
  obtain ⟨errorCode, s, h6, hd⟩ := exists_of_run_bind hd
  obtain ⟨invokeID, s', h7, hd⟩ := exists_of_run_bind hd
  obtain ⟨rfl, rfl⟩ := run_pure_eq_some.mp hd
  rw [Addr.eq_encode_of_decode h1, Addr.eq_encode_of_decode h2, eq_put_of_readUint16 h3,
    eq_put_of_readUint16 h4, eq_put_of_readUint32 h5, eq_put_of_readUint32 h6,
    eq_put_of_readUint32 h7]
  simp [AMSHeader.encode]

/-! ## The frame header -/

/-- `ams.Header`: the TCP header followed by the AMS header, as the receive pump decodes it
before classifying a frame. -/
structure Header where
  tcpHeader : TCPHeader
  amsHeader : AMSHeader
  deriving DecidableEq, Repr

/-- `WriteStruct` of both headers. -/
def Header.encode (h : Header) : List UInt8 := h.tcpHeader.encode ++ h.amsHeader.encode

/-- `Header.Decode`. -/
def Header.decode : Decoder Header := do
  let tcpHeader ← TCPHeader.decode
  let amsHeader ← AMSHeader.decode
  return ⟨tcpHeader, amsHeader⟩

@[simp] lemma Header.decode_run_encode (h : Header) (t : List UInt8) :
    Header.decode.run (h.encode ++ t) = some (h, t) := by
  simp [Header.decode, Header.encode]

/-! ## Routing predicates -/

/-- `HasState`: every bit of `s` is set in the header's state flags. -/
def hasState (h : AMSHeader) (s : UInt16) : Bool := h.stateFlags &&& s == s

/-- `IsReadResponse`. -/
def isReadResponse (h : AMSHeader) : Bool := h.cmdID == cmdADSRead && hasState h stateResponse

/-- `IsWriteResponse`. -/
def isWriteResponse (h : AMSHeader) : Bool := h.cmdID == cmdADSWrite && hasState h stateResponse

/-- `IsReadWriteResponse`. -/
def isReadWriteResponse (h : AMSHeader) : Bool :=
  h.cmdID == cmdADSReadWrite && hasState h stateResponse

/-- `IsReadStateRequest`: a `ReadState` frame without the response bit. -/
def isReadStateRequest (h : AMSHeader) : Bool :=
  h.cmdID == cmdADSReadState && !hasState h stateResponse

/-- `IsDeviceNotificationRequest`: the command id alone; the frame is always server-initiated. -/
def isDeviceNotificationRequest (h : AMSHeader) : Bool := h.cmdID == cmdADSDeviceNotification

/-- `IsAddDeviceNotificationResponse`. -/
def isAddDeviceNotificationResponse (h : AMSHeader) : Bool :=
  h.cmdID == cmdADSAddDeviceNotification && hasState h stateResponse

/-- `IsDeleteDeviceNotificationResponse`. -/
def isDeleteDeviceNotificationResponse (h : AMSHeader) : Bool :=
  h.cmdID == cmdADSDeleteDeviceNotification && hasState h stateResponse

end Goads.Ams
