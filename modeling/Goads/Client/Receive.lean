import Goads.Ams.Packets

/-!
# The receive pump: one frame per read

`Client.receive` loops over `conn.Read` into a pooled 1500-byte buffer. Each iteration decodes
the 38-byte header from the start of the bytes that one read returned, classifies the frame,
decodes the whole packet from the same bytes and hands it on: a `ReadState` request is answered
on the connection, a notification goes to the callback, a response to its waiting caller. A
header that does not decode, a response that does not decode, or a failed reply ends the loop;
an unknown command or an undecodable notification is skipped.

The source says of this: "We assume that a packet fits into a single packet. This is probably
wrong […] would probably have to read the header first, alloc and then read the rest to fix
this". There is no reassembly: bytes after the first frame of a read are never looked at, and a
read that starts inside a frame is decoded from there.

## Main definitions

* `Goads.receiveStep` — one iteration of the loop on the bytes of one read.
* `Goads.receive` — the loop over the successive reads: the packets it handles, in order.

## Main results

* `Goads.receiveStep_serialize_append` — a read that starts with a well-formed frame is handled
  as that frame, whatever follows it in the read.
* `Goads.receive_frame_per_read` — when the `i`-th read starts with the `i`-th frame, the pump
  handles exactly the frames, in order.
* `Goads.receive_not_framing_exact` — a read holding two frames is handled as one.
-/

namespace Goads

open Ams

/-- `packetSize`: the size of the pooled receive buffer, so the most one read returns. -/
def packetSize : ℕ := 1500

/-- What one iteration of the loop does with the bytes of one read. -/
inductive Iteration
  /-- `return err`: the loop ends. -/
  | fail
  /-- `continue` without handling anything. -/
  | skip
  /-- The frame decoded to this packet, which is handed on. -/
  | handle (p : Packet)
  deriving DecidableEq, Repr

/-- One iteration of `Client.receive` on `data = buf[:n]`: decode just the header, classify,
decode the full packet from the same bytes. A decode error is skipped for a notification and
ends the loop otherwise. -/
def receiveStep (data : List UInt8) : Iteration :=
  match Header.decode.run data with
  | none => .fail
  | some (hdr, _) =>
    match classify hdr.amsHeader with
    | none => .skip
    | some k =>
      match (Packet.decodeAs k).run data with
      | some (p, _) => .handle p
      | none => if k = .deviceNotificationRequest then .skip else .fail

/-- Whether handing on the packet ends the loop: only the `ReadState` reply can, when
`conn.Write` of the encoded `ReadStateResponse` fails. -/
def handleEnds (connWrite : List UInt8 → Bool) (adsState deviceState : UInt16) : Packet → Bool
  | .readStateRequest req => !connWrite (ReadStateResponse.reply req adsState deviceState).encode
  | _ => false

/-- `Client.receive` over the successive results of `conn.Read` (the loop ends when the reads
do, as on a read error): the packets it handles, in order. `connWrite` says whether the
connection accepts a write; `adsState` and `deviceState` are the states the pump reports. -/
def receive (connWrite : List UInt8 → Bool) (adsState deviceState : UInt16) :
    List (List UInt8) → List Packet
  | [] => []
  | data :: reads =>
    match receiveStep data with
    | .fail => []
    | .skip => receive connWrite adsState deviceState reads
    | .handle p =>
      p :: if handleEnds connWrite adsState deviceState p then []
        else receive connWrite adsState deviceState reads

/-! ## A read that starts with a frame -/

/-- A read that starts with a well-formed frame is handled as that frame; the bytes after it in
the same read are never looked at. -/
lemma receiveStep_serialize_append {p : Packet} (hp : p.WellFormed) (t : List UInt8) :
    receiveStep (p.serialize ++ t) = .handle p := by
  simp [receiveStep, Packet.header_decode_serialize, hp.1, Packet.decodeAs_serialize hp]

/-- **Framing when each read starts with its frame.** If the `i`-th read returns the `i`-th
well-formed frame followed by any bytes, and the connection accepts the pump's replies, the pump
handles exactly the frames, in order, each decoded from its own bytes. -/
theorem receive_frame_per_read (connWrite : List UInt8 → Bool) (adsState deviceState : UInt16)
    (hw : ∀ b, connWrite b = true) :
    ∀ (frames : List Packet) (rest : List (List UInt8)), (∀ p ∈ frames, p.WellFormed) →
      frames.length = rest.length →
      receive connWrite adsState deviceState (List.zipWith (·.serialize ++ ·) frames rest) =
        frames
  | [], [], _, _ => rfl
  | p :: frames, t :: rest, hwf, hlen => by
    have hends : handleEnds connWrite adsState deviceState p = false := by
      cases p <;> simp [handleEnds, hw]
    simp only [List.zipWith_cons_cons, receive,
      receiveStep_serialize_append (hwf p (List.mem_cons_self p frames)), hends]
    rw [receive_frame_per_read connWrite adsState deviceState hw frames rest
      (fun q hq => hwf q (List.mem_cons_of_mem p hq)) (by simpa using hlen)]
    rfl

/-- A `Write` response read on its own, and then a `ReadState` request read with four stray
bytes after it: both are handled, in order. -/
theorem receive_frame_per_read_scenario :
    let addr : Addr := ⟨⟨[192, 168, 0, 1, 1, 1], rfl⟩, 851⟩
    let frames : List Packet :=
      [.writeResponse
        ⟨⟨0, 36⟩, ⟨addr, addr, cmdADSWrite, stateADSCommand ||| stateResponse, 4, 0, 2⟩, 0⟩,
       .readStateRequest ⟨⟨0, 32⟩, ⟨addr, addr, cmdADSReadState, stateADSCommand, 0, 0, 9⟩⟩]
    (∀ b, (fun _ => true : List UInt8 → Bool) b = true) ∧ (∀ p ∈ frames, p.WellFormed) ∧
      frames.length = [[], [0, 0, 0, 0]].length ∧
      receive (fun _ => true) 5 5
        (List.zipWith (·.serialize ++ ·) frames [[], [0, 0, 0, 0]]) = frames :=
  ⟨fun _ => rfl, by decide, rfl,
    receive_frame_per_read (fun _ => true) 5 5 (fun _ => rfl) _ _ (by decide) rfl⟩

/-! ## Two frames in one read -/

/-- **The pump does not reassemble the stream.** Exact framing for every partition of the stream
into reads fails: two well-formed `Write` responses that arrive in one 84-byte read are handled
as the first alone. -/
theorem receive_not_framing_exact :
    ¬ ∀ (frames : List Packet) (reads : List (List UInt8)), (∀ p ∈ frames, p.WellFormed) →
      reads.flatten = frames.flatMap Packet.serialize →
      (∀ r ∈ reads, 0 < r.length ∧ r.length ≤ packetSize) →
      ∀ (connWrite : List UInt8 → Bool) (adsState deviceState : UInt16),
        (∀ b, connWrite b = true) → receive connWrite adsState deviceState reads = frames := by
  intro h
  let addr : Addr := ⟨⟨[192, 168, 0, 1, 1, 1], rfl⟩, 851⟩
  let w : Packet := .writeResponse
    ⟨⟨0, 36⟩, ⟨addr, addr, cmdADSWrite, stateADSCommand ||| stateResponse, 4, 0, 2⟩, 0⟩
  have hw : receive (fun _ => true) 0 0 [w.serialize ++ w.serialize] = [w] := by decide
  have := h [w, w] [w.serialize ++ w.serialize] (by decide) (by simp) (by decide)
    (fun _ => true) 0 0 (fun _ => rfl)
  rw [hw] at this
  exact absurd this (by decide)

end Goads
