import ShadowPanel.Daemon.LegacyFiles

namespace ShadowPanel.Daemon

open Data List

/-! `ReadMessage` of `internal/daemon/binnapi/binnapi.go` on a connection whose daemon has sent
messages and closed it. -/

namespace Connection

def ofBytes (bytes : Bytes) : Connection := ⟨bytes.map (Tagged.mk 0)⟩

/-- `ReadEndBytes`, when `arrived` bytes are there to be read. -/
def readEndBytes (conn : Connection) (arrived : Nat) : Connection × Except String Unit :=
  match conn.read 4 arrived .eof with
  | (conn, result) => (conn, endBytesResult result)

def readMessage (binn : Binn) (conn : Connection) (arrived : Nat) :
    Connection × Except String (List BinnValue) :=
  match conn.decode binn conn.unread.length "unexpected EOF" with
  | (conn, .error cause) => (conn, .error (withMessage "failed to decode message" cause))
  | (conn, .ok values) =>
    match conn.readEndBytes arrived with
    | (conn, .error cause) =>
      (conn, .error (withMessage "failed to read end bytes after message" cause))
    | (conn, .ok _) => (conn, .ok values)

def readMessages (binn : Binn) : List Nat → Connection → Except String (List (List BinnValue))
  | [], _ => .ok []
  | arrived :: rest, conn =>
    match conn.readMessage binn arrived with
    | (_, .error cause) => .error cause
    | (conn, .ok values) => (readMessages binn rest conn).map (values :: ·)

end Connection

def written (messages : List (Response binn)) : Bytes :=
  messages.flatMap fun message => message.bytes ++ daemonBinnEndBytes

namespace Connection

variable {conn : Connection} {message : Response binn}

@[simp]
theorem bytes_skip (count : Nat) : (conn.skip count).bytes = conn.bytes.drop count := map_drop

@[simp] theorem take_unread : conn.bytes.take conn.unread.length = conn.bytes :=
  take_of_length_le (Nat.le_of_eq (length_map _))

theorem readEndBytes_of_nil (none : conn.bytes = []) :
    conn.readEndBytes arrived = (conn, .ok ()) := by
  have unread : conn.unread = [] := map_eq_nil_iff.mp none
  simp [readEndBytes, read, none, unread, endBytesResult]

theorem readEndBytes_of_whole (bytes : conn.bytes = daemonBinnEndBytes ++ more)
    (whole : 4 ≤ arrived) : conn.readEndBytes arrived = (conn.skip 4, .ok ()) := by
  simp [readEndBytes, read, bytes, Nat.min_eq_left whole, daemonBinnEndBytes, endBytesResult]

theorem readEndBytes_of_other (some : conn.bytes ≠ [])
    (other : conn.bytes.take (min 4 arrived) ≠ daemonBinnEndBytes) :
    ∃ next cause, conn.readEndBytes arrived = (next, .error cause) := by
  have unread : conn.unread ≠ [] := fun none => some (map_eq_nil_iff.mpr none)
  rw [readEndBytes, read, if_neg (by decide)]
  split
  next next result ends =>
    split at ends
    next =>
      rw [if_pos ⟨rfl, unread⟩] at ends
      cases ends
      exact ⟨_, _, rfl⟩
    next delivered =>
      cases ends
      rw [delivered] at other
      exact ⟨_, _, by rw [endBytesResult, if_neg other]⟩

theorem readMessage_of_value (bytes : conn.bytes = message.bytes ++ more) :
    conn.readMessage binn arrived = match (conn.skip message.bytes.length).readEndBytes arrived with
    | (conn, .error cause) =>
      (conn, .error (withMessage "failed to read end bytes after message" cause))
    | (conn, .ok _) => (conn, .ok message.values) := by
  rw [readMessage, decode, take_unread, bytes, message.decode_append]

theorem bytes_skip_value (bytes : conn.bytes = message.bytes ++ more) :
    (conn.skip message.bytes.length).bytes = more := by
  simp [bytes]

theorem readMessage_of_whole (bytes : conn.bytes = message.bytes ++ (daemonBinnEndBytes ++ more))
    (whole : 4 ≤ arrived) :
    ∃ next, conn.readMessage binn arrived = (next, .ok message.values) ∧ next.bytes = more := by
  have rest := bytes_skip_value bytes
  refine ⟨(conn.skip message.bytes.length).skip 4, ?_, ?_⟩
  · rw [readMessage_of_value bytes, readEndBytes_of_whole rest whole]
  · rw [bytes_skip, rest]
    rfl

theorem readMessage_of_part (arrived : Nat) {part : Bytes}
    (bytes : conn.bytes = message.bytes ++ part) (some : part ≠ [])
    (few : min arrived part.length < 4) :
    ∃ next cause, conn.readMessage binn arrived = (next, .error cause) := by
  rw [← bytes_skip_value bytes] at some few
  have other : (conn.skip message.bytes.length).bytes.take (min 4 arrived) ≠
      daemonBinnEndBytes := by
    intro whole
    have length := congrArg length whole
    rw [length_take, show daemonBinnEndBytes.length = 4 from rfl] at length
    omega
  obtain ⟨next, cause, failed⟩ := readEndBytes_of_other some other
  exact ⟨next, _, by rw [readMessage_of_value bytes, failed]⟩

theorem readMessage_of_truncated {sent : Nat} (short : sent < message.bytes.length + 4)
    (bytes : conn.bytes = (message.bytes ++ daemonBinnEndBytes).take sent) :
    (∃ next cause, conn.readMessage binn arrived = (next, .error cause)) ↔
      sent ≠ message.bytes.length := by
  rcases Nat.lt_trichotomy sent message.bytes.length with before | rfl | after
  · refine iff_of_true ?_ (Nat.ne_of_lt before)
    have undecided : binn.decode conn.bytes = none := by
      rw [Option.eq_none_iff_forall_ne_some]
      rintro ⟨result, used⟩ decoded
      have few := binn.decode_le _ _ _ decoded
      rw [bytes] at decoded few
      rw [(message.decode_take decoded).2, length_take] at few
      omega
    rw [readMessage, decode, take_unread, undecided]
    exact ⟨_, _, rfl⟩
  · rw [take_left, ← append_nil message.bytes] at bytes
    rw [readMessage_of_value bytes, readEndBytes_of_nil (bytes_skip_value bytes)]
    simp
  · refine iff_of_true ?_ (Nat.ne_of_gt after)
    obtain ⟨count, rfl⟩ := Nat.exists_eq_add_of_lt after
    rw [Nat.add_assoc, take_length_add_append] at bytes
    refine readMessage_of_part _ bytes (by simp [daemonBinnEndBytes]) ?_
    rw [length_take]
    omega

theorem readMessages_append {messages : List (Response binn)}
    (same : arrivals.length = messages.length) (bytes : conn.bytes = written messages ++ more)
    (later : List Nat) :
    ((∀ arrived ∈ arrivals, 4 ≤ arrived) → ∃ next : Connection, next.bytes = more ∧
        conn.readMessages binn (arrivals ++ later) =
          (next.readMessages binn later).map (messages.map Response.values ++ ·)) ∧
      ((¬∀ arrived ∈ arrivals, 4 ≤ arrived) →
        ∃ cause, conn.readMessages binn (arrivals ++ later) = .error cause) := by
  induction messages generalizing conn arrivals with
  | nil =>
    cases length_eq_zero_iff.mp same
    refine ⟨fun _ => ⟨conn, bytes, ?_⟩, by simp⟩
    rw [nil_append]
    cases conn.readMessages binn later <;> rfl
  | cons message messages ih =>
    cases arrivals with
    | nil => cases same
    | cons arrived arrivals =>
      rw [written, flatMap_cons, append_assoc, append_assoc] at bytes
      rw [cons_append, readMessages, forall_mem_cons]
      by_cases whole : 4 ≤ arrived
      · obtain ⟨next, read, left⟩ := readMessage_of_whole bytes whole
        obtain ⟨reads, fails⟩ := ih (Nat.succ.inj same) left
        rw [read]
        constructor
        · rintro ⟨_, all⟩
          obtain ⟨last, ends, result⟩ := reads all
          refine ⟨last, ends, ?_⟩
          dsimp only
          rw [result]
          cases last.readMessages binn later <;> rfl
        · intro few
          obtain ⟨cause, failed⟩ := fails fun all => few ⟨whole, all⟩
          exact ⟨cause, congrArg (Except.map _) failed⟩
      · obtain ⟨next, cause, failed⟩ :=
          readMessage_of_part arrived bytes (by simp [daemonBinnEndBytes]) (by omega)
        rw [failed]
        exact ⟨fun all => absurd all.1 whole, fun _ => ⟨cause, rfl⟩⟩

end Connection

structure Framed (messages : List (Response binn)) (arrivals : List Nat) (last : Response binn)
    (sent arrived : Nat) : Prop where
  readBack : (Connection.ofBytes (written messages)).readMessages binn arrivals =
    .ok (messages.map Response.values)
  refused : ∃ cause, (Connection.ofBytes (written messages ++
    (last.bytes ++ daemonBinnEndBytes).take sent)).readMessages binn (arrivals ++ [arrived]) =
      .error cause

/-- Exactly when every read of end bytes gets the four of them, and the stream does not end
right after a value. -/
theorem framed_iff (messages : List (Response binn)) (arrivals : List Nat)
    (same : arrivals.length = messages.length) (last : Response binn) (sent arrived : Nat)
    (short : sent < last.bytes.length + 4) :
    Framed messages arrivals last sent arrived ↔
      (∀ arrived ∈ arrivals, 4 ≤ arrived) ∧ sent ≠ last.bytes.length := by
  have bytes_ofBytes : ∀ bytes, (Connection.ofBytes bytes).bytes = bytes := by
    intro bytes
    rw [Connection.bytes, Connection.ofBytes, map_map]
    exact map_id bytes
  have wholes := Connection.readMessages_append same
    ((bytes_ofBytes (written messages)).trans (append_nil _).symm) []
  rw [append_nil] at wholes
  by_cases all : ∀ arrived ∈ arrivals, 4 ≤ arrived
  · obtain ⟨next, _, read⟩ := wholes.1 all
    obtain ⟨rest, left, result⟩ := (Connection.readMessages_append same
      (bytes_ofBytes (written messages ++ (last.bytes ++ daemonBinnEndBytes).take sent))
      [arrived]).1 all
    rw [and_iff_right all, ← Connection.readMessage_of_truncated short left]
    constructor
    · rintro ⟨_, cause, failed⟩
      rw [result, Connection.readMessages] at failed
      split at failed
      next next cause refused => exact ⟨next, cause, refused⟩
      next => cases failed
    · rintro ⟨next, cause, refused⟩
      refine ⟨read.trans (congrArg Except.ok (append_nil _)), cause, ?_⟩
      rw [result, Connection.readMessages, refused]
      rfl
  · obtain ⟨cause, failed⟩ := wholes.2 all
    refine iff_of_false ?_ fun both => all both.1
    rintro ⟨readBack, _⟩
    rw [failed] at readBack
    cases readBack

def listMessage : Response listBinn := ⟨[0xE0, 5, 1, 0x20, 7], [.unsigned .bits8 7], rfl⟩

theorem framed_iff_listMessage : Framed [listMessage] [4] listMessage 7 4 :=
  (framed_iff [listMessage] [4] rfl listMessage 7 4 (by decide)).mpr ⟨by decide, by decide⟩

theorem not_framed_of_split_or_cut :
    ¬Framed [listMessage] [2] listMessage 7 4 ∧ ¬Framed [listMessage] [4] listMessage 5 4 := by
  constructor
  · rintro ⟨readBack, _⟩
    cases readBack
  · rintro ⟨_, cause, refused⟩
    cases refused

end ShadowPanel.Daemon
