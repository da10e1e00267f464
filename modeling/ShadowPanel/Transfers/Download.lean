import ShadowPanel.Data.Wire

namespace ShadowPanel.Transfers

open Data List

/-! The chunks that `DownloadFile` of `internal/grpc/filetransfer/service.go` sends. -/

structure DownloadChunk where
  data : Bytes
  offset : Int64
  isFinal : Bool
  checksumSha256 : String

inductive DownloadError where
  | notFound (message : String)
  | invalidArgument (message : String)
  | canceled (message : String)
  | internal (message : String)

inductive ReadErr where
  | nil
  | eof
  | failed
  deriving DecidableEq

/-- What one turn of the loop meets: the end of the context, what the reader returns, and
whether `Send` fails. -/
structure Turn where
  canceled : Bool
  data : Bytes
  readErr : ReadErr
  sendFails : Bool

abbrev Sent := List DownloadChunk × Option (Except DownloadError Unit)

section

variable (sha256 : Bytes → String)

/-- The loop of `DownloadFile`; `hashed` is what the hasher has been given. -/
def sendChunks : List Turn → Int64 → Bytes → Sent
  | [], _, _ => ([], none)
  | turn :: rest, offset, hashed =>
    if turn.canceled then ([], some (.error (.canceled "transfer canceled")))
    else if 0 < turn.data.length then
      let hashed := hashed ++ turn.data
      let isFinal := turn.readErr == .eof
      let chunk : DownloadChunk :=
        ⟨turn.data, offset, isFinal, if isFinal then sha256 hashed else ""⟩
      if turn.sendFails then ([], some (.error (.internal "failed to send chunk")))
      else
        match turn.readErr with
        | .eof => ([chunk], some (.ok ()))
        | .failed => ([chunk], some (.error (.internal "failed to read file")))
        | .nil =>
          let sent := sendChunks rest (offset + Int64.ofNat turn.data.length) hashed
          (chunk :: sent.1, sent.2)
    else
      match turn.readErr with
      | .eof =>
        if turn.sendFails then ([], some (.error (.internal "failed to send final chunk")))
        else ([⟨[], offset, true, sha256 hashed⟩], some (.ok ()))
      | .failed => ([], some (.error (.internal "failed to read file")))
      | .nil => sendChunks rest offset hashed

inductive OpeningCall where
  | readStream
  | prefixReadStream
  | copyN
  | prefixClose

variable (fails : OpeningCall → Bool)

def newDownloadHasher (content : Bytes) (offset : Int64) : Except DownloadError Bytes :=
  if offset ≤ 0 then .ok []
  else if fails .prefixReadStream then
    .error (.internal "failed to open file for checksum prehash")
  else if fails .copyN then .error (.internal "failed to prehash file prefix")
  else if content.length < offset.toNatClampNeg then
    .error (.invalidArgument "offset exceeds file size")
  else if fails .prefixClose then .error (.internal "failed to close prehash stream")
  else .ok (content.take offset.toNatClampNeg)

def downloadFile (stored : Option Bytes) (offset : Int64) (turns : List Turn) : Sent :=
  match stored with
  | none => ([], some (.error (.notFound "transfer file not found")))
  | some content =>
    if fails .readStream then
      ([], some (.error (.internal "failed to open file for reading")))
    else
      match newDownloadHasher fails content offset with
      | .error cause => ([], some (.error cause))
      | .ok hashed => sendChunks sha256 turns offset hashed

end

/-- A reader that returns the bytes in any pieces, also empty ones, and its end with the last
piece or after it. -/
inductive Delivers : Bytes → List Turn → Prop where
  | last (data : Bytes) : Delivers data [⟨false, data, .eof, false⟩]
  | more (data : Bytes) {rest : Bytes} {turns : List Turn} (later : Delivers rest turns) :
      Delivers (data ++ rest) (⟨false, data, .nil, false⟩ :: turns)

def Contiguous : Int64 → List DownloadChunk → Prop
  | _, [] => True
  | offset, chunk :: rest =>
    chunk.offset = offset ∧ Contiguous (offset + Int64.ofNat chunk.data.length) rest

def OnlyLastFinal (checksum : String) : List DownloadChunk → Prop
  | [] => False
  | [last] => last.isFinal = true ∧ last.checksumSha256 = checksum
  | chunk :: rest => chunk.isFinal = false ∧ OnlyLastFinal checksum rest

structure SentWhole (checksum : String) (offset : Int64) (data : Bytes) (sent : Sent) : Prop where
  ends : sent.2 = some (.ok ())
  whole : (sent.1.map DownloadChunk.data).flatten = data
  contiguous : Contiguous offset sent.1
  final : OnlyLastFinal checksum sent.1

theorem OnlyLastFinal.cons (notFinal : chunk.isFinal = false)
    (final : OnlyLastFinal checksum rest) : OnlyLastFinal checksum (chunk :: rest) := by
  cases rest with
  | nil => cases final
  | cons next rest => exact ⟨notFinal, final⟩

theorem sentWhole_sendChunks (sha256 : Bytes → String) (delivers : Delivers data turns)
    (offset : Int64) (hashed : Bytes) :
    SentWhole (sha256 (hashed ++ data)) offset data (sendChunks sha256 turns offset hashed) := by
  induction delivers generalizing offset hashed with
  | last data =>
    cases data with
    | nil =>
      rw [append_nil]
      exact ⟨rfl, rfl, ⟨rfl, trivial⟩, ⟨rfl, rfl⟩⟩
    | cons first data => exact ⟨rfl, append_nil _, ⟨rfl, trivial⟩, ⟨rfl, rfl⟩⟩
  | more data later ih =>
    cases data with
    | nil => exact ih offset hashed
    | cons first data =>
      have sent := ih (offset + Int64.ofNat (first :: data).length) (hashed ++ first :: data)
      rw [append_assoc] at sent
      exact ⟨sent.ends, congrArg (first :: data ++ ·) sent.whole, ⟨rfl, sent.contiguous⟩,
        sent.final.cons rfl⟩

/-- From an offset that is not beyond the content, the chunks are the rest of the content in
order, and the last one is the only final one and has the checksum of the whole content. -/
theorem downloadFile_sends_rest (sha256 : Bytes → String) (content : Bytes) (offset : Int64)
    (turns : List Turn) (within : offset.toNatClampNeg ≤ content.length)
    (delivers : Delivers (content.drop offset.toNatClampNeg) turns) :
    SentWhole (sha256 content) offset (content.drop offset.toNatClampNeg)
      (downloadFile sha256 (fun _ => false) (some content) offset turns) := by
  have prehashed : newDownloadHasher (fun _ => false) content offset =
      .ok (content.take offset.toNatClampNeg) := by
    rw [newDownloadHasher]
    split
    next whole =>
      have zero : offset.toNatClampNeg = 0 :=
        Int.toNat_of_nonpos (Int64.le_iff_toInt_le.mp whole)
      rw [zero, take_zero]
    next => simp [Nat.not_lt.mpr within]
  have sent := sentWhole_sendChunks sha256 delivers offset (content.take offset.toNatClampNeg)
  rw [take_append_drop] at sent
  rw [downloadFile, prehashed]
  exact sent

theorem downloadFile_sends_rest_resumed : SentWhole "checksum" 1 [2, 3]
    (downloadFile (fun _ => "checksum") (fun _ => false) (some [1, 2, 3]) 1
      [⟨false, [2], .nil, false⟩, ⟨false, [], .nil, false⟩, ⟨false, [3], .eof, false⟩]) :=
  downloadFile_sends_rest (fun _ => "checksum") [1, 2, 3] 1 _ (by decide)
    (.more [2] (.more [] (.last [3])))

end ShadowPanel.Transfers
