import ShadowPanel.Daemon.LegacyFiles

namespace ShadowPanel.Daemon

open Data Data.Program Returns

/-! Which answers the requests of `FileBINNService` read from the connections of one node. -/

/-- What a request has read, in all and since it wrote its message for the last time, and the
daemon's answer to that message. -/
structure Record where
  consumed : List Tagged
  current : List Tagged
  answer : List Tagged
  handedOver : Bool

namespace Record

def start : Record := ⟨[], [], [], false⟩

def taken (before after : Connection) : List Tagged :=
  before.unread.take (before.unread.length - after.unread.length)

def read (record : Record) (before after : Connection) : Record :=
  { record with
    consumed := record.consumed ++ taken before after
    current := record.current ++ taken before after }

def learn (record : Record) : (op : FileOp) → op.Answer → Record
  | .write conn _ _, (after, .ok _) =>
    { record with current := [], answer := after.unread.drop conn.unread.length }
  | .decode conn, (after, _) => record.read conn after
  | .read conn _, (after, _) => record.read conn after
  | .readFull conn _, (after, _) => record.read conn after
  | .handOver, _ => { record with handedOver := true }
  | _, _ => record

end Record

def Begun (binn : Binn) (bytes : List Tagged) : Prop :=
  ∃ response : Response binn, response.bytes ++ daemonBinnEndBytes <+: bytes.map Tagged.byte

structure Sound (binn : Binn) (id : Nat) (streams : Bool) (record : Record) : Prop where
  consumed : ∀ tagged ∈ record.consumed, tagged.request = id
  answer : ∀ tagged ∈ record.answer, tagged.request = id
  current : record.current <+: record.answer
  begun : record.handedOver = true → streams = true ∧ Begun binn record.current

def Clean : (op : FileOp) → op.Answer → Prop
  | .acquire, .ok conn => conn.unread = []
  | .reacquire, .ok conn => conn.unread = []
  | _, _ => True

def fileRules (binn : Binn) (id : Nat) (streams : Bool) :
    Discipline Record FileOp FileOp.Answer where
  allowed record _ := Sound binn id streams record
  possible op answer := Clean op answer ∧ ∃ input pool, (handleFile binn input pool op).2 = answer
  learn := Record.learn

@[simp] theorem taken_skip (conn : Connection) (count : Nat) :
    Record.taken conn (conn.skip count) = conn.unread.take count := by
  rw [Record.taken, Connection.skip, List.length_drop]
  rcases Nat.le_total count conn.unread.length with fits | short
  · rw [Nat.sub_sub_self fits]
  · rw [Nat.sub_eq_zero_of_le short, Nat.sub_zero, List.take_length, List.take_of_length_le short]

private theorem decode_eq_skip (binn : Binn) (conn : Connection) (arrived : Nat)
    (failure : String) :
    ∃ count, (conn.decode binn arrived failure).1 = conn.skip count := by
  rw [Connection.decode]
  split
  · exact ⟨_, rfl⟩
  · exact ⟨_, rfl⟩

private theorem read_eq_skip (conn : Connection) (size arrived : Nat) (failure : ReadError) :
    ∃ count, (conn.read size arrived failure).1 = conn.skip count := by
  rw [Connection.read]
  split
  · exact ⟨0, rfl⟩
  · split
    · split <;> exact ⟨0, rfl⟩
    · exact ⟨_, rfl⟩

private theorem readFull_eq_skip (conn : Connection) (size arrived : Nat) (failure : String) :
    ∃ count, (conn.readFull size arrived failure).1 = conn.skip count := by
  rw [Connection.readFull]
  split
  · exact ⟨_, rfl⟩
  · exact ⟨_, rfl⟩

section

variable {id : Nat} {conn : Connection}

structure Owns (binn : Binn) (id : Nat) (streams : Bool) (record : Record) (conn : Connection) :
    Prop where
  sound : Sound binn id streams record
  rest : record.answer = record.current ++ conn.unread

theorem Owns.read (owns : Owns binn id streams record conn) (count : Nat) :
    Owns binn id streams (record.read conn (conn.skip count)) (conn.skip count) := by
  have rest : record.answer = (record.current ++ conn.unread.take count) ++
      conn.unread.drop count := by
    rw [List.append_assoc, List.take_append_drop, owns.rest]
  refine ⟨⟨?_, owns.sound.answer, ?_, ?_⟩, ?_⟩
  · intro tagged member
    rw [Record.read, List.mem_append] at member
    rcases member with earlier | now
    · exact owns.sound.consumed tagged earlier
    · apply owns.sound.answer
      rw [owns.rest]
      exact List.mem_append_right _ (List.mem_of_mem_take now)
  · rw [Record.read, taken_skip]
    exact ⟨_, rest.symm⟩
  · intro handed
    obtain ⟨isStream, response, starts⟩ := owns.sound.begun handed
    refine ⟨isStream, response, ?_⟩
    rw [Record.read, List.map_append]
    exact starts.trans (List.prefix_append _ _)
  · rw [Record.read, taken_skip]
    exact rest

structure Idle (binn : Binn) (id : Nat) (streams : Bool) (record : Record) : Prop where
  sound : Sound binn id streams record
  own : record.handedOver = false

private theorem idle_start : Idle binn id streams Record.start :=
  ⟨⟨nofun, nofun, List.prefix_rfl, nofun⟩, rfl⟩

def Outcome {σ τ : Type} (succeeded : σ → τ → Record → Prop) (failed : σ → Record → Prop) :
    σ × Except String τ → Record → Prop
  | (state, .ok value), record => succeeded state value record
  | (state, .error _), record => failed state record

theorem outcome_mapError {σ τ : Type} {succeeded : σ → τ → Record → Prop}
    {failed : σ → Record → Prop} {state : σ} {result : Except String τ} {text : String → String}
    (outcome : Outcome succeeded failed (state, result) record) :
    Outcome succeeded failed (state, result.mapError text) record := by
  cases result with
  | ok value | error cause => exact outcome

private theorem returns_retryFrom {σ : Type} {fn : σ → FileProgram (σ × Except String Unit)}
    {ready : σ → Record → Prop} {succeeded : σ → Unit → Record → Prop}
    (attempt : ∀ state record, ready state record →
      Returns (fileRules binn id streams) (Outcome succeeded ready) (fn state) record)
    (attempts left : Nat) (last : String) {state : σ} (initially : ready state record) :
    Returns (fileRules binn id streams) (Outcome succeeded ready)
      (retryFrom attempts fn left last state) record := by
  induction left generalizing last state record with
  | zero => exact pure initially
  | succ left ih =>
    refine (attempt state record initially).bind ?_
    intro value record outcome
    obtain ⟨state, result⟩ := value
    cases result with
    | ok _ => exact pure outcome
    | error cause => exact ih cause outcome

theorem returns_retry {σ : Type} {fn : σ → FileProgram (σ × Except String Unit)}
    {ready : σ → Record → Prop} {succeeded : σ → Unit → Record → Prop}
    (attempt : ∀ state record, ready state record →
      Returns (fileRules binn id streams) (Outcome succeeded ready) (fn state) record)
    (attempts : Nat) {state : σ} (initially : ready state record) :
    Returns (fileRules binn id streams) (Outcome succeeded ready) (retry attempts fn state)
      record := by
  rw [retry]
  split
  · exact pure initially
  · exact returns_retryFrom attempt attempts attempts "" initially

def Answered (binn : Binn) (id : Nat) (streams : Bool) (message : FileMessage) (pooled : PooledConn)
    (_ : Unit) (record : Record) : Prop :=
  ∃ conn, pooled = some conn ∧ Owns binn id streams record conn ∧ record.handedOver = false ∧
    record.current = [] ∧
    ∃ (response : Response binn) (file : Nat → UInt8),
      conn.unread = (message.answer response file).map (Tagged.mk id)

def Unused (binn : Binn) (id : Nat) (streams : Bool) (pooled : PooledConn) (record : Record) :
    Prop :=
  Idle binn id streams record ∧ ∀ conn, pooled = some conn → conn.unread = []

private theorem answered_of_written (idle : Idle binn id streams record) (unused : conn.unread = [])
    (possible : (fileRules binn id streams).possible (.write conn id message) (after, .ok ())) :
    Answered binn id streams message (some after) ()
      (record.learn (.write conn id message) (after, .ok ())) := by
  obtain ⟨_, input, pool, written⟩ := possible
  change conn.write id message input.written = (after, .ok ()) at written
  cases daemon : input.written with
  | error cause =>
    rw [daemon] at written
    cases written
  | ok answer =>
    rw [daemon, Connection.write, unused] at written
    cases written
    refine ⟨_, rfl, ⟨⟨idle.sound.consumed, ?_, List.nil_prefix, ?_⟩, ?_⟩, idle.own, rfl,
      answer.1, answer.2, rfl⟩
    · intro tagged member
      rw [Record.learn, unused] at member
      obtain ⟨_, _, rfl⟩ := List.mem_map.mp member
      rfl
    · intro handed
      rw [Record.learn, idle.own] at handed
      cases handed
    · rw [Record.learn, unused]
      rfl

private theorem returns_writeAttempt (message : FileMessage) (pooled : PooledConn)
    (unused : Unused binn id streams pooled record) :
    Returns (fileRules binn id streams)
      (Outcome (Answered binn id streams message) (Unused binn id streams))
      (PooledConn.writeAttempt id message pooled) record := by
  obtain ⟨idle, empty⟩ := unused
  cases pooled with
  | none => exact pure ⟨idle, nofun⟩
  | some conn =>
    refine ⟨idle.sound, ?_⟩
    intro answer possible
    obtain ⟨after, written⟩ := answer
    cases written with
    | ok _ => exact pure (answered_of_written idle (empty conn rfl) possible)
    | error cause =>
      refine ⟨idle.sound, ?_⟩
      intro _ _
      refine ⟨idle.sound, ?_⟩
      intro found possible
      cases found with
      | error failed => exact pure ⟨idle, nofun⟩
      | ok other =>
        refine pure ⟨idle, ?_⟩
        intro conn same
        cases same
        exact possible.1

private theorem returns_writeMessage (message : FileMessage) (idle : Idle binn id streams record)
    (unused : conn.unread = []) :
    Returns (fileRules binn id streams)
      (Outcome (Answered binn id streams message) (Unused binn id streams))
      (writeMessage id message (some conn)) record := by
  have ready : Unused binn id streams (some conn) record := by
    refine ⟨idle, ?_⟩
    intro other same
    cases same
    exact unused
  refine (returns_retry (fun pooled _ => returns_writeAttempt message pooled)
    retryAttempts ready).bind ?_
  intro value record outcome
  exact pure (outcome_mapError outcome)

private theorem bytes_eq_of_unread (unread : conn.unread = bytes.map (Tagged.mk id)) :
    conn.bytes = bytes := by
  rw [Connection.bytes, unread, List.map_map]
  exact List.map_id bytes

private theorem unread_skip {front more : Bytes}
    (unread : conn.unread = (front ++ more).map (Tagged.mk id)) :
    (conn.skip front.length).unread = more.map (Tagged.mk id) := by
  rw [Connection.skip, unread, ← List.map_drop, List.drop_left]

def Took {τ : Type} (record : Record) (conn : Connection) (spec : Nat → τ → Prop) :
    PooledConn × τ → Record → Prop
  | (pooled, result), after =>
    ∃ count, pooled = some (conn.skip count) ∧ after = record.read conn (conn.skip count) ∧
      spec count result

private theorem decode_response {response : Response binn} {failure : String}
    (bytes : conn.bytes = response.bytes ++ more)
    (decoded : conn.decode binn arrived failure = (conn.skip count, .ok values)) :
    conn.skip count = conn.skip response.bytes.length ∧ values = response.values := by
  rw [Connection.decode] at decoded
  split at decoded
  next result used found =>
    rw [bytes] at found
    obtain ⟨same, whole⟩ := response.decode_take found
    rw [same, whole] at decoded
    exact ⟨(congrArg Prod.fst decoded).symm, (Except.ok.inj (congrArg Prod.snd decoded)).symm⟩
  next => cases congrArg Prod.snd decoded

private theorem returns_decode {response : Response binn} (sound : Sound binn id streams record)
    (bytes : conn.bytes = response.bytes ++ more) :
    Returns (fileRules binn id streams)
      (Took record conn fun count result => ∀ values, result = .ok values →
        conn.skip count = conn.skip response.bytes.length ∧ values = response.values)
      (PooledConn.decode (some conn)) record := by
  refine ⟨sound, ?_⟩
  intro answer possible
  obtain ⟨after, result⟩ := answer
  obtain ⟨_, input, pool, reads⟩ := possible
  change conn.decode binn input.arrived input.failure.text = (after, result) at reads
  obtain ⟨count, skipped⟩ := decode_eq_skip binn conn input.arrived input.failure.text
  rw [reads] at skipped
  cases skipped
  refine pure ⟨count, rfl, rfl, ?_⟩
  rintro values rfl
  exact decode_response bytes reads

private theorem read_endBytes {more : Bytes} (arrived : Nat) (failure : ReadError)
    (bytes : conn.bytes = daemonBinnEndBytes ++ more)
    (ended : endBytesResult (conn.read 4 arrived failure).2 = .ok ()) :
    (conn.read 4 arrived failure).1 = conn.skip 4 := by
  rw [Connection.read, if_neg (by decide)] at ended ⊢
  split at ended
  next nothing =>
    split at ended
    next => cases ended
    next notEnd =>
      cases failure with
      | failed cause => cases ended
      | eof =>
        have empty : conn.unread = [] := Classical.byContradiction fun more => notEnd ⟨rfl, more⟩
        rw [Connection.bytes, empty] at bytes
        cases bytes
  next first rest delivered =>
    rw [endBytesResult] at ended
    split at ended
    next same =>
      have length : (conn.bytes.take (min 4 arrived)).length = 4 := by
        rw [delivered, same]
        rfl
      rw [List.length_take] at length
      have all : min 4 arrived = 4 := by omega
      rw [all]
    next => cases ended

theorem returns_read (sound : Sound binn id streams record) (size : Nat) :
    Returns (fileRules binn id streams)
      (Took record conn fun count result => ∃ arrived failure,
        conn.read size arrived failure = (conn.skip count, result))
      (PooledConn.read size (some conn)) record := by
  refine ⟨sound, ?_⟩
  intro answer possible
  obtain ⟨after, result⟩ := answer
  obtain ⟨_, input, pool, reads⟩ := possible
  change conn.read size input.arrived input.failure = (after, result) at reads
  obtain ⟨count, skipped⟩ := read_eq_skip conn size input.arrived input.failure
  rw [reads] at skipped
  cases skipped
  exact pure ⟨count, rfl, rfl, input.arrived, input.failure, reads⟩

private theorem returns_readEndBytes (sound : Sound binn id streams record)
    (bytes : conn.bytes = daemonBinnEndBytes ++ more) :
    Returns (fileRules binn id streams)
      (Took record conn fun count result => result = .ok () → conn.skip count = conn.skip 4)
      (readEndBytes (some conn)) record := by
  refine (returns_read sound 4).bind ?_
  rintro ⟨pooled, result⟩ after ⟨count, rfl, rfl, arrived, failure, reads⟩
  refine pure ⟨count, rfl, rfl, ?_⟩
  intro ended
  have four := read_endBytes arrived failure bytes
  rw [reads] at four
  exact four ended

def Received (binn : Binn) (id : Nat) (streams : Bool) (message : FileMessage)
    (received : PooledConn × BaseResponseMessage) (_ : Unit) (record : Record) : Prop :=
  ∃ conn, received.1 = some conn ∧ Owns binn id streams record conn ∧
    record.handedOver = false ∧ Begun binn record.current ∧
    ∃ (previous : BaseResponseMessage) (response : Response binn) (file : Nat → UInt8),
      previous.fillFromSlice response.values = .ok received.2 ∧
      conn.unread = (message.content response file).map (Tagged.mk id)

theorem Owns.begun {response : Response binn} (owns : Owns binn id streams record conn)
    (answer : record.answer =
      (response.bytes ++ (daemonBinnEndBytes ++ content)).map (Tagged.mk id))
    (unread : conn.unread = content.map (Tagged.mk id)) : Begun binn record.current := by
  have split := owns.rest
  rw [answer, unread, ← List.append_assoc, List.map_append] at split
  refine ⟨response, ?_⟩
  rw [← List.append_cancel_right split, List.map_map]
  exact ⟨[], by rw [List.append_nil]; exact (List.map_id _).symm⟩

private theorem returns_readMessage (answered : Answered binn id streams message pooled () record)
    (previous : BaseResponseMessage) :
    Returns (fileRules binn id streams)
      (Outcome (Received binn id streams message) fun _ => Idle binn id streams)
      (readMessage pooled previous) record := by
  obtain ⟨conn, rfl, owns, own, fresh, response, file, unread⟩ := answered
  have answer : record.answer = (message.answer response file).map (Tagged.mk id) := by
    rw [owns.rest, fresh, unread, List.nil_append]
  refine (returns_decode owns.sound (bytes_eq_of_unread unread)).bind ?_
  rintro ⟨_, decoded⟩ _ ⟨count, rfl, rfl, whole⟩
  have afterDecode := owns.read count
  cases decoded with
  | error cause => exact pure ⟨afterDecode.sound, own⟩
  | ok values =>
    obtain ⟨sameConn, rfl⟩ := whole values rfl
    have left := unread_skip unread
    rw [← sameConn] at left
    cases filled : previous.fillFromSlice response.values with
    | error cause =>
      simp only [Except.bind, filled]
      exact pure ⟨afterDecode.sound, own⟩
    | ok current =>
      simp only [Except.bind, filled]
      refine (returns_readEndBytes afterDecode.sound (bytes_eq_of_unread left)).bind ?_
      rintro ⟨_, ended⟩ _ ⟨last, rfl, rfl, four⟩
      have afterEnd := afterDecode.read last
      refine pure (outcome_mapError ?_)
      cases ended with
      | error cause => exact ⟨afterEnd.sound, own⟩
      | ok _ =>
        have content : ((conn.skip count).skip last).unread =
            (message.content response file).map (Tagged.mk id) := by
          rw [four rfl]
          exact unread_skip left
        exact ⟨_, rfl, afterEnd, own, afterEnd.begun answer content, previous, response,
          file, filled, content⟩

theorem returns_exchange (message : FileMessage) (name : String)
    (idle : Idle binn id streams record) (previous : BaseResponseMessage) :
    Returns (fileRules binn id streams)
      (Outcome (Received binn id streams message) fun _ => Idle binn id streams)
      (exchange id message name previous) record := by
  refine ⟨idle.sound, ?_⟩
  intro found possible
  cases found with
  | error cause => exact pure idle
  | ok conn =>
    refine (returns_writeMessage message idle possible.1).bind ?_
    rintro ⟨pooled, written⟩ record outcome
    cases written with
    | error cause => exact pure outcome.1
    | ok _ =>
      refine (returns_readMessage outcome previous).bind ?_
      rintro ⟨received, result⟩ record outcome
      exact pure (outcome_mapError outcome)

theorem returns_close (sound : Sound binn id streams record) (pooled : PooledConn) :
    Returns (fileRules binn id streams) (fun _ after => after = record) pooled.close record := by
  cases pooled with
  | none => exact pure rfl
  | some conn =>
    refine ⟨sound, ?_⟩
    intro answer _
    exact ⟨answer, rfl, rfl⟩

theorem returns_close_pure {α : Type} {post : α → Record → Prop} {value : α}
    (sound : Sound binn id streams record) (pooled : PooledConn) (holds : post value record) :
    Returns (fileRules binn id streams) post
      (do
        let _ ← pooled.close
        pure value) record := by
  refine (returns_close sound pooled).bind ?_
  intro _ after same
  rw [same]
  exact pure holds

def Finished (binn : Binn) (id : Nat) (streams : Bool) (record : Record) : Prop :=
  Idle binn id streams record ∧ record.current = record.answer

theorem Owns.finished (owns : Owns binn id streams record conn) (own : record.handedOver = false)
    (empty : conn.unread = []) : Finished binn id streams record := by
  refine ⟨⟨owns.sound, own⟩, ?_⟩
  rw [owns.rest, empty, List.append_nil]

def FileMessage.Plain (message : FileMessage) : Prop :=
  ∀ (binn : Binn) (response : Response binn) (file : Nat → UInt8),
    message.content response file = []

private theorem returns_responseAttempt {message : FileMessage} (plain : message.Plain)
    (name : String) (idle : Idle binn id streams record) (previous : BaseResponseMessage) :
    Returns (fileRules binn id streams)
      (Outcome (fun _ _ => Finished binn id streams) fun _ => Idle binn id streams)
      (responseAttempt id message name previous) record := by
  refine (returns_exchange message name idle previous).bind ?_
  rintro ⟨⟨pooled, response⟩, result⟩ record outcome
  cases result with
  | error cause =>
    have idle : Idle binn id streams record := outcome
    exact returns_close_pure idle.sound pooled idle
  | ok _ =>
    obtain ⟨conn, _, owns, own, _, _, response, file, _, unread⟩ := outcome
    rw [plain binn response file] at unread
    exact returns_close_pure owns.sound pooled (owns.finished own unread)

def Announced (binn : Binn) (id : Nat) (streams : Bool)
    (received : PooledConn × BaseResponseMessage) (size : Nat) (record : Record) : Prop :=
  ∃ conn, received.1 = some conn ∧ Owns binn id streams record conn ∧
    record.handedOver = false ∧ Begun binn record.current ∧ conn.unread.length ≤ size

theorem Announced.sound (announced : Announced binn id streams received size record) :
    Sound binn id streams record := by
  obtain ⟨_, _, owns, _⟩ := announced
  exact owns.sound

private theorem createFileSize_of_sizeOf (sized : sizeOf response = .ok size) :
    createFileSize response.data = .ok size := by
  rw [sizeOf] at sized
  split at sized
  next =>
    cases created : createFileSize response.data with
    | ok found =>
      rw [created] at sized
      exact sized
    | error cause =>
      rw [created] at sized
      cases sized
  next => cases sized

theorem returns_openDownload (filePath : String) (idle : Idle binn id streams record)
    (previous : BaseResponseMessage) :
    Returns (fileRules binn id streams)
      (Outcome (Announced binn id streams) fun _ => Idle binn id streams)
      (openDownload id filePath previous) record := by
  refine (returns_exchange (.download filePath) "download" idle previous).bind ?_
  rintro ⟨received, result⟩ record outcome
  refine pure ?_
  cases result with
  | error cause => exact outcome
  | ok _ =>
    obtain ⟨conn, same, owns, own, begun, _, response, file, filled, unread⟩ := outcome
    cases sized : sizeOf received.2 with
    | error cause => exact ⟨owns.sound, own⟩
    | ok size =>
      refine ⟨conn, same, owns, own, begun, ?_⟩
      rw [unread, List.length_map, FileMessage.content, List.length_map, List.length_range]
      exact BaseResponseMessage.announcedSize_le filled (createFileSize_of_sizeOf sized)

private theorem returns_readFull (sound : Sound binn id streams record) (size : Nat) :
    Returns (fileRules binn id streams)
      (Took record conn fun count result => ∀ file, result = .ok file →
        conn.skip count = conn.skip size)
      (PooledConn.readFull size (some conn)) record := by
  refine ⟨sound, ?_⟩
  intro answer possible
  obtain ⟨after, result⟩ := answer
  obtain ⟨_, input, pool, reads⟩ := possible
  change conn.readFull size input.arrived input.failure.text = (after, result) at reads
  obtain ⟨count, skipped⟩ := readFull_eq_skip conn size input.arrived input.failure.text
  rw [reads] at skipped
  cases skipped
  refine pure ⟨count, rfl, rfl, ?_⟩
  rintro file rfl
  rw [Connection.readFull] at reads
  split at reads
  next => exact (congrArg Prod.fst reads).symm
  next => cases congrArg Prod.snd reads

private theorem unread_skip_eq_nil (short : conn.unread.length ≤ size) :
    (conn.skip size).unread = [] :=
  List.drop_eq_nil_of_le short

private theorem returns_downloadAttempt (filePath : String) (idle : Idle binn id streams record)
    (downloaded : Downloaded) :
    Returns (fileRules binn id streams)
      (Outcome (fun _ _ => Finished binn id streams) fun _ => Idle binn id streams)
      (downloadAttempt id filePath downloaded) record := by
  refine (returns_openDownload filePath idle downloaded.response).bind ?_
  rintro ⟨⟨pooled, response⟩, size⟩ record outcome
  cases size with
  | error cause =>
    have idle : Idle binn id streams record := outcome
    exact returns_close_pure idle.sound pooled idle
  | ok size =>
    obtain ⟨conn, rfl, owns, own, _, short⟩ := outcome
    cases size with
    | zero =>
      have empty : conn.unread = [] := List.eq_nil_of_length_eq_zero (Nat.le_zero.mp short)
      exact returns_close_pure owns.sound (some conn) (owns.finished own empty)
    | succ size =>
      refine (returns_readFull owns.sound (size + 1)).bind ?_
      rintro ⟨_, content⟩ _ ⟨count, rfl, rfl, whole⟩
      have later := owns.read count
      refine (returns_close later.sound _).bind ?_
      rintro _ _ rfl
      cases content with
      | error cause => exact pure ⟨later.sound, own⟩
      | ok file =>
        refine pure (later.finished own ?_)
        rw [whole file rfl]
        exact unread_skip_eq_nil short

private theorem returns_streamAttempt (filePath : String) (idle : Idle binn id streams record)
    (opened : Opened) :
    Returns (fileRules binn id streams)
      (Outcome (fun opened _ => Announced binn id streams (opened.conn, opened.response)
        opened.fileSize) fun _ => Idle binn id streams)
      (streamAttempt id filePath opened) record := by
  refine (returns_openDownload filePath idle opened.response).bind ?_
  rintro ⟨⟨pooled, response⟩, size⟩ record outcome
  cases size with
  | error cause =>
    have idle : Idle binn id streams record := outcome
    exact returns_close_pure idle.sound pooled idle
  | ok size => exact pure outcome

def Completes (binn : Binn) (id : Nat) (streams : Bool) {α : Type} : Except String α → Record → Prop
  | .ok _, record =>
    Sound binn id streams record ∧ (streams = false → record.current = record.answer) ∧
      (streams = true → record.handedOver = true)
  | .error _, record => Sound binn id streams record

end

section

variable {id : Nat}

theorem Finished.completes {α : Type} {value : α} (finished : Finished binn id false record) :
    Completes binn id false (.ok value : Except String α) record :=
  ⟨finished.1.sound, fun _ => finished.2, nofun⟩

theorem obeys_requestResponse {message : FileMessage} (plain : message.Plain) (name action : String)
    (idle : Idle binn id false record) :
    (requestResponse id message name action).Obeys (fileRules binn id false)
      (Completes binn id false) record := by
  refine (returns_retry (fun previous _ idle => returns_responseAttempt plain name idle previous)
    filesRetryCount idle).obeys_bind ?_
  rintro ⟨response, result⟩ record outcome
  cases result with
  | error cause =>
    have idle : Idle binn id false record := outcome
    exact idle.sound
  | ok _ =>
    have finished : Finished binn id false record := outcome
    dsimp only
    split
    · exact finished.completes
    · exact finished.1.sound

theorem obeys_andReturn {α β : Type} {program : FileProgram α} {rest : α → FileProgram β}
    (obeys : program.Obeys (fileRules binn id false) (Completes binn id false) record)
    (ends : ∀ value, ∃ result, rest value = .done result) :
    (program >>= rest).Obeys (fileRules binn id false) (Completes binn id false) record := by
  refine obeys.bind ?_ fun _ _ sound => sound
  intro value record completes
  obtain ⟨result, same⟩ := ends value
  rw [same]
  cases result with
  | ok _ => exact completes
  | error _ => exact completes.1

private theorem obeys_acknowledged {message : FileMessage} (plain : message.Plain)
    (name action : String) (idle : Idle binn id false record) :
    ((requestResponse id message name action >>= fun _ => pure ()) >>=
        fun _ => pure FileAnswer.done).Obeys (fileRules binn id false)
      (Completes binn id false) record := by
  have obeys := obeys_requestResponse plain name action idle
  exact obeys_andReturn (obeys_andReturn obeys fun _ => ⟨_, rfl⟩) fun _ => ⟨_, rfl⟩

private theorem orThrowText_done {α : Type} (result : Except String α) :
    ∃ ended, orThrowText result = .done ended := by
  cases result with
  | ok value | error cause => exact ⟨_, rfl⟩

private theorem obeys_download (filePath : String) (idle : Idle binn id false record) :
    (download id filePath).Obeys (fileRules binn id false) (Completes binn id false) record := by
  refine (returns_retry (fun downloaded _ idle => returns_downloadAttempt filePath idle downloaded)
    filesRetryCount idle).obeys_bind ?_
  rintro ⟨downloaded, result⟩ record outcome
  cases result with
  | error cause =>
    have idle : Idle binn id false record := outcome
    exact idle.sound
  | ok _ =>
    have finished : Finished binn id false record := outcome
    exact finished.completes

end

section

variable {id : Nat}

structure Streaming (binn : Binn) (id : Nat) (pooled : PooledConn) (record : Record) : Prop where
  sound : Sound binn id true record
  handed : record.handedOver = true
  owns : ∀ conn, pooled = some conn → Owns binn id true record conn

private theorem returns_readStream (buffers : List Nat) (left : Nat)
    (streaming : Streaming binn id pooled record) :
    Returns (fileRules binn id true) (Streaming binn id) (readStream buffers left pooled)
      record := by
  induction buffers generalizing left pooled record with
  | nil => exact pure streaming
  | cons size buffers ih =>
    cases left with
    | zero => exact ih 0 streaming
    | succ left =>
      cases pooled with
      | none => exact ih _ streaming
      | some conn =>
        refine (returns_read streaming.sound _).bind ?_
        rintro ⟨_, result⟩ _ ⟨count, rfl, rfl, _⟩
        have later := (streaming.owns conn rfl).read count
        apply ih
        refine ⟨later.sound, streaming.handed, ?_⟩
        rintro _ ⟨⟩
        exact later

private theorem streaming_of_announced (announced : Announced binn id true received size record) :
    Streaming binn id received.1 { record with handedOver := true } := by
  obtain ⟨conn, same, owns, _, begun, _⟩ := announced
  have sound : Sound binn id true { record with handedOver := true } :=
    ⟨owns.sound.consumed, owns.sound.answer, owns.sound.current, fun _ => ⟨rfl, begun⟩⟩
  refine ⟨sound, rfl, ?_⟩
  intro other found
  rw [same] at found
  cases found
  exact ⟨sound, owns.rest⟩

private theorem obeys_downloadStream (filePath : String) (idle : Idle binn id true record) :
    (downloadStream id filePath).Obeys (fileRules binn id true)
      (fun result record =>
        Sound binn id true record ∧ ∀ value, result = .ok value → Streaming binn id value.1 record)
      record := by
  refine (returns_retry (fun opened _ idle => returns_streamAttempt filePath idle opened)
    filesRetryCount idle).obeys_bind ?_
  rintro ⟨opened, result⟩ record outcome
  cases result with
  | error cause =>
    have idle : Idle binn id true record := outcome
    exact ⟨idle.sound, nofun⟩
  | ok _ =>
    have announced : Announced binn id true (opened.conn, opened.response) opened.fileSize
      record := outcome
    have sound : Sound binn id true record := announced.sound
    dsimp only
    split
    · refine (returns_close sound opened.conn).obeys_bind ?_
      rintro _ _ rfl
      exact ⟨sound, nofun⟩
    · have streaming := streaming_of_announced announced
      refine ⟨sound, ?_⟩
      intro _ _
      refine ⟨streaming.sound, ?_⟩
      rintro value ⟨⟩
      exact streaming

private theorem obeys_stream (filePath : String) (buffers : List Nat)
    (idle : Idle binn id true record) :
    ((FileRequest.downloadStream filePath buffers).program id).Obeys (fileRules binn id true)
      (Completes binn id true) record := by
  refine (obeys_downloadStream filePath idle).bind ?_ fun _ _ holds => holds.1
  rintro ⟨pooled, size⟩ record holds
  refine (returns_readStream buffers size (holds.2 _ rfl)).obeys_bind ?_
  intro pooled record streaming
  refine (returns_close streaming.sound pooled).obeys_bind ?_
  rintro _ _ rfl
  exact ⟨streaming.sound, nofun, fun _ => streaming.handed⟩

end

theorem obeys_program {binn : Binn} {id : Nat} (request : FileRequest) {record : Record}
    (idle : Idle binn id request.streams record) :
    (request.program id).Obeys (fileRules binn id request.streams)
      (Completes binn id request.streams) record := by
  cases request with
  | readDir directory | getFileInfo path =>
    refine obeys_andReturn (obeys_andReturn ?_ fun _ => orThrowText_done _) fun _ => ⟨_, rfl⟩
    exact obeys_requestResponse (fun _ _ _ => rfl) _ _ idle
  | download filePath => exact obeys_andReturn (obeys_download filePath idle) fun _ => ⟨_, rfl⟩
  | downloadStream filePath buffers => exact obeys_stream filePath buffers idle
  | _ =>
    exact obeys_acknowledged (fun _ _ _ => rfl) _ _ idle

structure FileCall where
  id : Nat
  request : FileRequest
  thread : Thread Record FileOp FileOp.Answer String FileAnswer

namespace FileCall

def start (id : Nat) (request : FileRequest) : FileCall :=
  ⟨id, request, Record.start, request.program id⟩

def Succeeded (call : FileCall) : Prop :=
  call.thread.known.handedOver = true ∨ ∃ answer, call.thread.rest = .done (.ok answer)

/-- A request that has returned success has read the answer to its own message, and no byte
of the answer to another request.  Of the answer to a stream the caller has read as much as
it wanted. -/
def ReadsOwnAnswer (binn : Binn) (call : FileCall) : Prop :=
  call.Succeeded →
    (∀ tagged ∈ call.thread.known.consumed, tagged.request = call.id) ∧
      if call.request.streams then
        Begun binn call.thread.known.current ∧
          call.thread.known.current <+: call.thread.known.answer
      else call.thread.known.current = call.thread.known.answer

def act (binn : Binn) (input : FileInput binn) (pool : ConnectionPool) (call : FileCall) :
    ConnectionPool × FileCall :=
  let next := call.thread.act (fileRules binn call.id call.request.streams) (handleFile binn)
    input pool
  (next.1, { call with thread := next.2 })

def HandedClean (binn : Binn) (input : FileInput binn) (pool : ConnectionPool) (_ : List FileCall)
    (call : FileCall) : Prop :=
  match call.thread.rest with
  | .done _ => True
  | .call op _ => Clean op (handleFile binn input pool op).2

def Obedient (binn : Binn) (call : FileCall) : Prop :=
  call.thread.rest.Obeys (fileRules binn call.id call.request.streams)
    (Completes binn call.id call.request.streams) call.thread.known

variable {call : FileCall}

private theorem obedient_start (id : Nat) (request : FileRequest) :
    Obedient binn (start id request) :=
  obeys_program request idle_start

theorem Obedient.act (clean : HandedClean binn input pool others call)
    (obedient : Obedient binn call) :
    Obedient binn (call.act binn input pool).2 := by
  refine Thread.obeys_act_of_possible ?_ obedient
  intro op next turn
  rw [HandedClean, turn] at clean
  exact ⟨clean, input, pool, rfl⟩

theorem Obedient.sound (obedient : Obedient binn call) :
    Sound binn call.id call.request.streams call.thread.known := by
  rw [Obedient] at obedient
  cases turn : call.thread.rest with
  | call op next =>
    rw [turn] at obedient
    exact obedient.1
  | done result =>
    rw [turn] at obedient
    cases result with
    | ok answer => exact obedient.1
    | error cause => exact obedient

private theorem Obedient.readsOwnAnswer (obedient : Obedient binn call) :
    ReadsOwnAnswer binn call := by
  have sound := obedient.sound
  rintro (handed | ⟨answer, returned⟩)
  · obtain ⟨isStream, begun⟩ := sound.begun handed
    rw [if_pos isStream]
    exact ⟨sound.consumed, begun, sound.current⟩
  · rw [Obedient, returned] at obedient
    obtain ⟨_, whole, handed⟩ := obedient
    refine ⟨sound.consumed, ?_⟩
    split
    next isStream => exact ⟨(sound.begun (handed isStream)).2, sound.current⟩
    next notStream => exact whole (Bool.eq_false_iff.mpr notStream)

end FileCall

instance (op : FileOp) (answer : op.Answer) : Decidable (Clean op answer) :=
  match op, answer with
  | .acquire, .ok conn => instDecidableEqList conn.unread []
  | .acquire, .error _ => .isTrue trivial
  | .reacquire, .ok conn => instDecidableEqList conn.unread []
  | .reacquire, .error _ => .isTrue trivial
  | .write _ _ _, _ | .destroy _, _ | .release _, _ | .decode _, _ | .read _ _, _
  | .readFull _ _, _ | .handOver, _ => .isTrue trivial

instance (binn : Binn) (input : FileInput binn) (pool : ConnectionPool) (others : List FileCall)
    (call : FileCall) : Decidable (FileCall.HandedClean binn input pool others call) := by
  unfold FileCall.HandedClean
  split <;> infer_instance

def filePool (requests : List FileRequest) : Pool ConnectionPool FileCall :=
  ⟨.empty, requests.mapIdx FileCall.start⟩

def AllReadOwnAnswers (binn : Binn) (pool : Pool ConnectionPool FileCall) : Prop :=
  ∀ call ∈ pool.calls, call.ReadsOwnAnswer binn

/-- In every interleaving in which the pool only hands out connections with nothing left on
them, each request that has returned success has read its own answer. -/
theorem readsOwnAnswer_of_handedClean (binn : Binn) (requests : List FileRequest)
    (first rest : List (Nat × FileInput binn))
    (along : Along (Pool.step (FileCall.act binn)) (Pool.Admits (FileCall.HandedClean binn))
      (filePool requests) (first ++ rest)) :
    AllReadOwnAnswers binn (run (Pool.step (FileCall.act binn)) (filePool requests) first) := by
  have obedient := Pool.invariant
    (fun pool => ∀ call ∈ pool.calls, call.Obedient binn) (along_append.mp along).1 ?_ ?_
  · intro call member
    exact (obedient call member).readsOwnAnswer
  · intro input shared before call after clean all
    obtain ⟨others, own⟩ := Pool.forall_calls.mp all
    exact Pool.forall_calls.mpr ⟨others, own.act clean⟩
  · intro call member
    obtain ⟨index, _, rfl⟩ := List.mem_mapIdx.mp member
    exact FileCall.obedient_start _ _

def listResponse (code data : UInt8) : Response listBinn :=
  ⟨[0xE0, 10, 3, 0x20, code, 0xA0, 0, 0, 0x20, data],
    [.unsigned .bits8 code.toNat, .text "", .unsigned .bits8 data.toNat], rfl⟩

def responseLikeFile (index : Nat) : UInt8 :=
  ((listResponse 100 0).bytes ++ daemonBinnEndBytes).getD index 0

def streamInput : FileInput listBinn :=
  ⟨[.constructed (.ok ()) 0], .ok (listResponse 101 14, responseLikeFile), 64, .eof⟩

def mkDirInput : FileInput listBinn :=
  ⟨[.idle 0 0], .ok (listResponse 100 0, responseLikeFile), 64, .eof⟩

def streamThenMkDir (buffers : List Nat) : List FileRequest :=
  [.downloadStream "server.log" buffers, .mkDir "backup"]

theorem readsOwnAnswer_of_handedClean_readToEnd :
    AllReadOwnAnswers listBinn
      (run (Pool.step (FileCall.act listBinn)) (filePool (streamThenMkDir [16]))
        (List.replicate 7 (0, streamInput) ++ List.replicate 5 (1, mkDirInput))) :=
  readsOwnAnswer_of_handedClean listBinn (streamThenMkDir [16])
    (List.replicate 7 (0, streamInput) ++ List.replicate 5 (1, mkDirInput)) [] (by decide)

def closedEarly : Pool ConnectionPool FileCall :=
  run (Pool.step (FileCall.act listBinn)) (filePool (streamThenMkDir []))
    (List.replicate 6 (0, streamInput) ++ List.replicate 5 (1, mkDirInput))

theorem closedEarly_not_readsOwnAnswer : ¬AllReadOwnAnswers listBinn closedEarly := by
  intro all
  have ⟨own, _⟩ := all (closedEarly.calls.get ⟨1, by decide⟩) (List.get_mem _ _)
    (Or.inr ⟨.done, rfl⟩)
  have foreign : (0 : Nat) = 1 := own ⟨0, 100⟩ (by decide)
  cases foreign

end ShadowPanel.Daemon
