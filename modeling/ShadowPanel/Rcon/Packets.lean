import ShadowPanel.Data.Wire

namespace ShadowPanel.Rcon

open Data

/-! The packets of `pkg/quercon/rcon/source.go`, on a connection that delivers its bytes in
parts. -/

structure Packet where
  id : Int32
  packetType : Int32
  body : Bytes
  deriving DecidableEq

def littleEndian (number : Int32) : Bytes :=
  [1, 256, 65536, 16777216].map fun unit => UInt8.ofNat (number.toUInt32.toNat / unit)

def ofLittleEndian (bytes : Bytes) : Int32 :=
  (UInt32.ofNat (bytes.foldr (fun byte number => byte.toNat + 256 * number) 0)).toInt32

def Packet.data (packet : Packet) : Bytes :=
  littleEndian packet.id ++ (littleEndian packet.packetType ++ (packet.body ++ [0, 0]))

def buildPacket (packet : Packet) : Bytes :=
  littleEndian (.ofNat (4 + 4 + packet.body.length + 2)) ++ packet.data

/-- A read gives what is left of one part at most. -/
def readFull (count : Nat) : List Bytes → Option (Bytes × List Bytes)
  | [] => if count = 0 then some ([], []) else none
  | part :: rest =>
    if part.length < count then
      (readFull (count - part.length) rest).map fun read => (part ++ read.1, read.2)
    else some (part.take count, part.drop count :: rest)

def readBytes (message : String) (count : Nat) (parts : List Bytes) :
    Except String (Bytes × List Bytes) :=
  match readFull count parts with
  | some read => .ok read
  | none => .error (message ++ if parts.flatten.isEmpty then ": EOF" else ": unexpected EOF")

def readPacket (parts : List Bytes) : Except String (Packet × List Bytes) := do
  let (bytes, parts) ← readBytes "unable to read packet size" 4 parts
  let size := ofLittleEndian bytes
  if size < 10 || size > 4096 then throw "invalid packet"
  let (data, parts) ← readBytes "unable to read packet data" size.toNatClampNeg parts
  let (id, buf) ← readBytes "unable to read packet ID" 4 [data]
  let (packetType, buf) ← readBytes "unable to read packet type" 4 buf
  let (body, _) ← readBytes "unable to read packet body" (size - 4 - 4 - 2).toNatClampNeg buf
  return (⟨ofLittleEndian id, ofLittleEndian packetType, body⟩, parts)

def readPackets : Nat → List Bytes → Except String (List Packet × List Bytes)
  | 0, parts => .ok ([], parts)
  | count + 1, parts => do
    let (packet, parts) ← readPacket parts
    let (packets, parts) ← readPackets count parts
    return (packet :: packets, parts)

@[simp] theorem ofLittleEndian_littleEndian (number : Int32) :
    ofLittleEndian (littleEndian number) = number := by
  have bound := number.toUInt32.toNat_lt
  have sum : (littleEndian number).foldr (fun byte number => byte.toNat + 256 * number) 0 =
      number.toUInt32.toNat := by
    simp only [littleEndian, List.map_cons, List.map_nil, List.foldr_cons, List.foldr_nil,
      UInt8.toNat_ofNat']
    omega
  rw [ofLittleEndian, sum, UInt32.ofNat_toNat, Int32.toInt32_toUInt32]

theorem readFull_of_flatten (arrived : parts.flatten = first ++ more) :
    ∃ rest, readFull first.length parts = some (first, rest) ∧ rest.flatten = more := by
  induction parts generalizing first with
  | nil =>
    obtain ⟨rfl, rfl⟩ := List.append_eq_nil_iff.mp arrived.symm
    exact ⟨[], rfl, rfl⟩
  | cons part parts ih =>
    rw [List.flatten_cons] at arrived
    unfold readFull
    split
    next short =>
      have inside : part <+: first :=
        List.prefix_of_prefix_length_le ⟨_, arrived⟩ (List.prefix_append ..) (Nat.le_of_lt short)
      obtain ⟨later, rfl⟩ := inside
      rw [List.append_assoc, List.append_cancel_left_eq] at arrived
      obtain ⟨rest, read, left⟩ := ih arrived
      exact ⟨rest, by simp [read], left⟩
    next long =>
      have inside : first <+: part :=
        List.prefix_of_prefix_length_le ⟨_, arrived.symm⟩ (List.prefix_append ..)
          (Nat.le_of_not_lt long)
      obtain ⟨later, rfl⟩ := inside
      rw [List.append_assoc, List.append_cancel_left_eq] at arrived
      exact ⟨later :: parts, by simp, arrived⟩

theorem readBytes_of_flatten (message : String) (arrived : parts.flatten = first ++ more)
    (size : first.length = count) :
    ∃ rest, readBytes message count parts = .ok (first, rest) ∧ rest.flatten = more := by
  obtain ⟨rest, read, left⟩ := readFull_of_flatten arrived
  exact ⟨rest, by rw [readBytes, ← size, read], left⟩

theorem size_bounds (short : length ≤ 4086) :
    let size := Int32.ofNat (4 + 4 + length + 2)
    (size < 10 || size > 4096) = false ∧ size.toNatClampNeg = 4 + 4 + length + 2 ∧
      (size - 4 - 4 - 2).toNatClampNeg = length := by
  intro size
  have value : size.toInt = 4 + 4 + length + 2 := Int32.toInt_ofNat_of_lt (by omega)
  have body : size - 4 - 4 - 2 = .ofNat length := by
    simp only [size, Int32.ofNat_add]
    grind
  refine ⟨?_, Int32.toNatClampNeg_ofNat_of_lt (by omega), ?_⟩
  · simp [Int32.lt_iff_toInt_lt, value]
    omega
  · rw [body, Int32.toNatClampNeg_ofNat_of_lt (by omega)]

theorem readPacket_buildPacket (short : packet.body.length ≤ 4086)
    (arrived : parts.flatten = buildPacket packet ++ more) :
    ∃ rest, readPacket parts = .ok (packet, rest) ∧ rest.flatten = more := by
  obtain ⟨valid, whole, body⟩ := size_bounds short
  have four (number : Int32) : (littleEndian number).length = 4 := rfl
  have length : packet.data.length = 4 + 4 + packet.body.length + 2 := by
    simp [Packet.data, littleEndian]
    omega
  rw [buildPacket, List.append_assoc] at arrived
  obtain ⟨_, readSize, left⟩ := readBytes_of_flatten "unable to read packet size" arrived (four _)
  obtain ⟨rest, readData, left⟩ :=
    readBytes_of_flatten "unable to read packet data" left (length.trans whole.symm)
  obtain ⟨_, readID, inside⟩ := readBytes_of_flatten "unable to read packet ID"
    (List.flatten_singleton : [packet.data].flatten = _) (four _)
  obtain ⟨_, readType, inside⟩ := readBytes_of_flatten "unable to read packet type" inside (four _)
  obtain ⟨_, readBody, -⟩ :=
    readBytes_of_flatten "unable to read packet body" inside body.symm
  refine ⟨rest, ?_, left⟩
  simp only [readPacket, bind, Except.bind, readSize, ofLittleEndian_littleEndian, valid, readData,
    readID, readType, readBody]
  rfl

theorem packets_read_back (packets : List Packet)
    (short : ∀ packet ∈ packets, packet.body.length ≤ 4086)
    (arrived : parts.flatten = packets.flatMap buildPacket ++ more) :
    ∃ rest, readPackets packets.length parts = .ok (packets, rest) ∧ rest.flatten = more := by
  induction packets generalizing parts with
  | nil => exact ⟨parts, rfl, arrived⟩
  | cons packet packets ih =>
    obtain ⟨first, later⟩ := List.forall_mem_cons.mp short
    rw [List.flatMap_cons, List.append_assoc] at arrived
    obtain ⟨rest, read, left⟩ := readPacket_buildPacket first arrived
    obtain ⟨last, readLater, leftLater⟩ := ih later left
    refine ⟨last, ?_, leftLater⟩
    rw [List.length_cons, readPackets, read]
    simp only [bind, Except.bind, readLater]
    rfl

theorem packets_read_back_zeros : ∃ rest,
    readPackets 2 [[10, 0], [0, 0, 1, 0, 0, 0, 2, 0, 0, 0, 0, 0, 11, 0, 0],
        [0, 255, 255, 255, 255, 0, 0, 0, 0, 0, 0, 0, 7]] =
      .ok ([⟨1, 2, []⟩, ⟨-1, 0, [0]⟩], rest) ∧ rest.flatten = [7] :=
  packets_read_back [⟨1, 2, []⟩, ⟨-1, 0, [0]⟩] (by decide) (by decide)

end ShadowPanel.Rcon
