import ShadowPanel.Daemon.Binn
import ShadowPanel.Data.Programs

namespace ShadowPanel.Daemon

open Data

/-! The requests of `internal/daemon/file_legacy.go` over the connections of
`internal/daemon/pool.go` to one node.  A connection in use belongs to the request that has
acquired it, which hands it from call to call. -/

/-- A byte with the request that it is an answer to, which no code looks at. -/
structure Tagged where
  request : Nat
  byte : UInt8
  deriving DecidableEq

/-- A connection to the daemon after the login, with what it has sent and nobody has read. -/
structure Connection where
  unread : List Tagged

inductive FileMessage where
  | readDir (directory : String) (detailsMode : Bool)
  | mkDir (directory : String)
  | move (source destination : String) (copy : Bool)
  | download (filePath : String)
  | remove (path : String) (recursive : Bool)
  | fileInfo (path : String)
  | chmod (path : String) (perm : Nat)

namespace FileMessage

def content (response : Response binn) (file : Nat → UInt8) : FileMessage → Bytes
  | .download _ => (List.range (BaseResponseMessage.announcedSize response.values)).map file
  | _ => []

def answer (message : FileMessage) (response : Response binn) (file : Nat → UInt8) : Bytes :=
  response.bytes ++ (daemonBinnEndBytes ++ message.content response file)

end FileMessage

inductive ReadError where
  | eof
  | failed (cause : String)
  deriving DecidableEq

namespace Connection

def bytes (conn : Connection) : Bytes := conn.unread.map Tagged.byte

def skip (conn : Connection) (count : Nat) : Connection := ⟨conn.unread.drop count⟩

def write {binn : Binn} (conn : Connection) (id : Nat) (message : FileMessage) :
    Except String (Response binn × (Nat → UInt8)) → Connection × Except String Unit
  | .error cause => (conn, .error (withMessage "socket write failed" cause))
  | .ok (response, file) =>
    (⟨conn.unread ++ (message.answer response file).map (Tagged.mk id)⟩, .ok ())

def read (conn : Connection) (size arrived : Nat) (failure : ReadError) :
    Connection × Except ReadError Bytes :=
  if size = 0 then (conn, .ok [])
  else
    match conn.bytes.take (min size arrived) with
    | [] =>
      if failure = .eof ∧ conn.unread ≠ [] then (conn, .error (.failed "i/o timeout"))
      else (conn, .error failure)
    | first :: rest => (conn.skip (min size arrived), .ok (first :: rest))

/-- `io.ReadFull`; the bytes that have arrived are gone when the connection fails. -/
def readFull (conn : Connection) (size arrived : Nat) (failure : String) :
    Connection × Except String Bytes :=
  if size ≤ (conn.bytes.take arrived).length then (conn.skip size, .ok (conn.bytes.take size))
  else (conn.skip arrived, .error failure)

def decode (binn : Binn) (conn : Connection) (arrived : Nat) (failure : String) :
    Connection × Except String (List BinnValue) :=
  match binn.decode (conn.bytes.take arrived) with
  | some (result, used) => (conn.skip used, result)
  | none => (conn.skip arrived, .error failure)

end Connection

def defaultPoolMaxSize : Nat := 3

def defaultTimeout : Nat := 10000000000

structure ConnectionPool where
  idle : List Connection
  size : Nat

/-- What an `Acquire` of the pool library comes to; which connection it takes is open. -/
inductive Found where
  | cancelled (cause : String)
  | idle (index idleDuration : Nat)
  | constructed (result : Except String Unit) (idleDuration : Nat)

namespace ConnectionPool

def empty : ConnectionPool := ⟨[], 0⟩

def destroy (pool : ConnectionPool) : ConnectionPool := { pool with size := pool.size - 1 }

def release (pool : ConnectionPool) (conn : Connection) : ConnectionPool :=
  { pool with idle := conn :: pool.idle }

def take (pool : ConnectionPool) : Found → ConnectionPool × Except String (Connection × Nat)
  | .cancelled cause => (pool, .error cause)
  | .idle index idleDuration =>
    match pool.idle[index]? with
    | some conn => ({ pool with idle := pool.idle.eraseIdx index }, .ok (conn, idleDuration))
    | none => (pool, .error "context canceled")
  | .constructed result idleDuration =>
    if pool.size < defaultPoolMaxSize then
      match result with
      | .ok _ => ({ pool with size := pool.size + 1 }, .ok (⟨[]⟩, idleDuration))
      | .error cause => (pool, .error cause)
    else (pool, .error "context canceled")

def acquire : List Found → ConnectionPool → ConnectionPool × Except String Connection
  | [], pool => (pool, .error "context canceled")
  | found :: rest, pool =>
    match pool.take found with
    | (pool, .error cause) => (pool, .error cause)
    | (pool, .ok (conn, idleDuration)) =>
      if idleDuration < defaultTimeout then (pool, .ok conn) else acquire rest pool.destroy

/-- The pool library's own `Acquire`, which does not look at the idle time. -/
def reacquire : List Found → ConnectionPool → ConnectionPool × Except String Connection
  | [], pool => (pool, .error "context canceled")
  | found :: _, pool =>
    match pool.take found with
    | (pool, .error cause) => (pool, .error cause)
    | (pool, .ok (conn, _)) => (pool, .ok conn)

end ConnectionPool

inductive FileOp where
  | acquire
  | reacquire
  | write (conn : Connection) (id : Nat) (message : FileMessage)
  | destroy (conn : Connection)
  | release (conn : Connection)
  | decode (conn : Connection)
  | read (conn : Connection) (size : Nat)
  | readFull (conn : Connection) (size : Nat)
  /-- The caller of `DownloadStream` has the stream. -/
  | handOver

abbrev FileOp.Answer : FileOp → Type
  | .acquire | .reacquire => Except String Connection
  | .write _ _ _ => Connection × Except String Unit
  | .destroy _ | .release _ | .handOver => Unit
  | .decode _ => Connection × Except String (List BinnValue)
  | .read _ _ => Connection × Except ReadError Bytes
  | .readFull _ _ => Connection × Except String Bytes

/-- What a call meets: the connections that the pool finds, the daemon's answer to what is
written, how many bytes arrive before a read fails, and how it fails. -/
structure FileInput (binn : Binn) where
  found : List Found
  written : Except String (Response binn × (Nat → UInt8))
  arrived : Nat
  failure : ReadError

def ReadError.text : ReadError → String
  | .eof => "EOF"
  | .failed cause => cause

def handleFile (binn : Binn) (input : FileInput binn) (pool : ConnectionPool) :
    (op : FileOp) → ConnectionPool × op.Answer
  | .acquire => pool.acquire input.found
  | .reacquire => pool.reacquire input.found
  | .write conn id message => (pool, conn.write id message input.written)
  | .destroy _ => (pool.destroy, ())
  | .release conn => (pool.release conn, ())
  | .decode conn => (pool, conn.decode binn input.arrived input.failure.text)
  | .read conn size => (pool, conn.read size input.arrived input.failure)
  | .readFull conn size => (pool, conn.readFull size input.arrived input.failure.text)
  | .handOver => (pool, ())

abbrev FileProgram := Program FileOp FileOp.Answer String

def onPool (op : FileOp) : FileProgram op.Answer := Program.perform op

section

variable {σ : Type} (attempts : Nat) (fn : σ → FileProgram (σ × Except String Unit))

def retryFrom : Nat → String → σ → FileProgram (σ × Except String Unit)
  | 0, last, state =>
    pure (state, .error ("after " ++ toString attempts ++ " attempts, last error: " ++ last))
  | left + 1, _, state => do
      let (state, result) ← fn state
      match result with
      | .ok _ => pure (state, .ok ())
      | .error cause => retryFrom left cause state

def retry (state : σ) : FileProgram (σ × Except String Unit) :=
  if attempts < 1 then pure (state, .error "attempts must be at least 1")
  else retryFrom attempts fn attempts "" state

end

def retryAttempts : Nat := 3

def filesRetryCount : Nat := 2

/-- `PooledConn`: nothing after `Close`, or when no other connection could be had. -/
abbrev PooledConn := Option Connection

namespace PooledConn

def writeAttempt (id : Nat) (message : FileMessage) :
    PooledConn → FileProgram (PooledConn × Except String Unit)
  | none => pure (none, .error "connection not established")
  | some conn => do
      let (conn, written) ← onPool (.write conn id message)
      match written with
      | .ok _ => pure (some conn, .ok ())
      | .error cause =>
        let _ ← onPool (.destroy conn)
        match ← onPool .reacquire with
        | .ok other => pure (some other, .error cause)
        | .error failed =>
          pure (none, .error (cause ++ "; could not acquire connection from pool: " ++ failed))

def write (id : Nat) (message : FileMessage) (pooled : PooledConn) :
    FileProgram (PooledConn × Except String Unit) :=
  match pooled with
  | none => pure (none, .error "connection not established")
  | some conn => retry retryAttempts (writeAttempt id message) (some conn)

def read (size : Nat) : PooledConn → FileProgram (PooledConn × Except ReadError Bytes)
  | none => pure (none, .error (.failed "connection not established"))
  | some conn => do
      let (conn, result) ← onPool (.read conn size)
      pure (some conn, result)

def readFull (size : Nat) : PooledConn → FileProgram (PooledConn × Except String Bytes)
  | none => pure (none, .error "connection not established")
  | some conn => do
      let (conn, result) ← onPool (.readFull conn size)
      pure (some conn, result)

def decode : PooledConn → FileProgram (PooledConn × Except String (List BinnValue))
  | none => pure (none, .error "connection not established")
  | some conn => do
      let (conn, result) ← onPool (.decode conn)
      pure (some conn, result)

def close : PooledConn → FileProgram Unit
  | none => pure ()
  | some conn => onPool (.release conn)

end PooledConn

def writeMessage (id : Nat) (message : FileMessage) (pooled : PooledConn) :
    FileProgram (PooledConn × Except String Unit) := do
  let (pooled, written) ← pooled.write id message
  pure (pooled, written.mapError (withMessage "failed to write response"))

def endBytesResult : Except ReadError Bytes → Except String Unit
  | .error .eof => .ok ()
  | .error (.failed cause) => .error cause
  | .ok bytes => if bytes = daemonBinnEndBytes then .ok () else .error "invalid message end bytes"

def readEndBytes (pooled : PooledConn) : FileProgram (PooledConn × Except String Unit) := do
  let (pooled, result) ← pooled.read 4
  pure (pooled, endBytesResult result)

/-- A message that does not decode leaves the response as it was. -/
def readMessage (pooled : PooledConn) (response : BaseResponseMessage) :
    FileProgram ((PooledConn × BaseResponseMessage) × Except String Unit) := do
  let (pooled, decoded) ← pooled.decode
  match decoded.bind response.fillFromSlice with
  | .error cause => pure ((pooled, response), .error (withMessage "failed to decode message" cause))
  | .ok response =>
    let (pooled, ended) ← readEndBytes pooled
    pure ((pooled, response), ended.mapError (withMessage "failed to read end bytes after message"))

def exchange (id : Nat) (message : FileMessage) (name : String) (response : BaseResponseMessage) :
    FileProgram ((PooledConn × BaseResponseMessage) × Except String Unit) := do
  match ← onPool .acquire with
  | .error cause =>
    pure ((none, response), .error (withMessage "failed to acquire connection from pool" cause))
  | .ok conn =>
    let (pooled, written) ← writeMessage id message (some conn)
    match written with
    | .error cause =>
      pure ((pooled, response),
        .error (withMessage ("failed to write " ++ name ++ " request") cause))
    | .ok _ =>
      let (received, result) ← readMessage pooled response
      pure (received, result.mapError (withMessage ("failed to read " ++ name ++ " response")))

def statusError (name : String) (response : BaseResponseMessage) : String :=
  name ++ " failed with status code " ++ toString response.code ++ ": " ++ response.info

def afterAttempts (action cause : String) : String :=
  withMessage (action ++ " after " ++ toString filesRetryCount ++ " attempts") cause

def responseAttempt (id : Nat) (message : FileMessage) (name : String)
    (response : BaseResponseMessage) : FileProgram (BaseResponseMessage × Except String Unit) := do
  let ((pooled, response), result) ← exchange id message name response
  let _ ← pooled.close
  pure (response, result)

def requestResponse (id : Nat) (message : FileMessage) (name action : String) :
    FileProgram BaseResponseMessage := do
  let (response, result) ←
    retry filesRetryCount (responseAttempt id message name) BaseResponseMessage.zero
  match result with
  | .error cause => throw (afterAttempts action cause)
  | .ok _ =>
    if response.code = statusCodeOK then pure response else throw (statusError name response)

def orThrowText {α : Type} : Except String α → FileProgram α
  | .ok value => pure value
  | .error cause => throw cause

def entriesOf : BinnValue → Except String (List FileInfo)
  | .list items => items.mapM fileInfoOf
  | _ => .error "invalid response data format"

def readDir (id : Nat) (directory : String) : FileProgram (List FileInfo) := do
  let response ← requestResponse id (.readDir directory false) "read dir" "failed to read directory"
  orThrowText (entriesOf response.data)

def mkDir (id : Nat) (directory : String) : FileProgram Unit := do
  let _ ← requestResponse id (.mkDir directory) "mkdir" "failed to create directory"
  pure ()

def move (id : Nat) (source destination : String) (copy : Bool) : FileProgram Unit := do
  let _ ← requestResponse id (.move source destination copy) "move" "failed to move/copy file"
  pure ()

def remove (id : Nat) (path : String) (recursive : Bool) : FileProgram Unit := do
  let _ ← requestResponse id (.remove path recursive) "remove" "failed to remove file"
  pure ()

def getFileInfo (id : Nat) (path : String) : FileProgram FileDetails := do
  let response ← requestResponse id (.fileInfo path) "file info" "failed to get file info"
  orThrowText
    ((createFileDetailsResponseMessage response.data).mapError
      (withMessage "failed to parse file details"))

def chmod (id : Nat) (path : String) (perm : Nat) : FileProgram Unit := do
  let _ ← requestResponse id (.chmod path perm) "chmod" "failed to change file permissions"
  pure ()

def sizeOf (response : BaseResponseMessage) : Except String Nat :=
  if response.code = statusCodeReadyToTransfer then
    (createFileSize response.data).mapError (withMessage "failed to get file size")
  else .error (statusError "download" response)

def openDownload (id : Nat) (filePath : String) (response : BaseResponseMessage) :
    FileProgram ((PooledConn × BaseResponseMessage) × Except String Nat) := do
  let (received, result) ← exchange id (.download filePath) "download" response
  pure (received, result.bind fun _ => sizeOf received.2)

structure Downloaded where
  response : BaseResponseMessage
  file : Bytes

def downloadAttempt (id : Nat) (filePath : String) (downloaded : Downloaded) :
    FileProgram (Downloaded × Except String Unit) := do
  let ((pooled, response), size) ← openDownload id filePath downloaded.response
  match size with
  | .error cause =>
    let _ ← pooled.close
    pure (⟨response, downloaded.file⟩, .error cause)
  | .ok 0 =>
    let _ ← pooled.close
    pure (⟨response, []⟩, .ok ())
  | .ok size =>
    let (pooled, content) ← pooled.readFull size
    let _ ← pooled.close
    match content with
    | .ok file => pure (⟨response, file⟩, .ok ())
    | .error cause =>
      pure (⟨response, downloaded.file⟩, .error (withMessage "failed to read file content" cause))

def download (id : Nat) (filePath : String) : FileProgram Bytes := do
  let (downloaded, result) ← retry filesRetryCount (downloadAttempt id filePath) ⟨.zero, []⟩
  match result with
  | .error cause => throw (afterAttempts "failed to download file" cause)
  | .ok _ => pure downloaded.file

structure Opened where
  response : BaseResponseMessage
  fileSize : Nat
  conn : PooledConn

def streamAttempt (id : Nat) (filePath : String) (opened : Opened) :
    FileProgram (Opened × Except String Unit) := do
  let ((pooled, response), size) ← openDownload id filePath opened.response
  match size with
  | .error cause =>
    let _ ← pooled.close
    pure (⟨response, opened.fileSize, none⟩, .error cause)
  | .ok size => pure (⟨response, size, pooled⟩, .ok ())

def maxInt64 : Nat := 9223372036854775807

def downloadStream (id : Nat) (filePath : String) : FileProgram (PooledConn × Nat) := do
  let (opened, result) ← retry filesRetryCount (streamAttempt id filePath) ⟨.zero, 0, none⟩
  match result with
  | .error cause => throw (afterAttempts "failed to initialize download stream" cause)
  | .ok _ =>
    if maxInt64 < opened.fileSize then
      let _ ← opened.conn.close
      throw "file size exceeds maximum supported size"
    else
      let _ ← onPool .handOver
      pure (opened.conn, opened.fileSize)

def readCount : Except ReadError Bytes → Nat
  | .ok bytes => bytes.length
  | .error _ => 0

def readStream : List Nat → Nat → PooledConn → FileProgram PooledConn
  | [], _, pooled => pure pooled
  | _ :: sizes, 0, pooled => readStream sizes 0 pooled
  | size :: sizes, left + 1, pooled => do
      let (pooled, result) ← pooled.read (min size (left + 1))
      readStream sizes (left + 1 - readCount result) pooled

inductive FileRequest where
  | readDir (directory : String)
  | mkDir (directory : String)
  | move (source destination : String) (copy : Bool)
  | download (filePath : String)
  /-- The caller reads with these buffers and closes the stream, wherever it is then. -/
  | downloadStream (filePath : String) (buffers : List Nat)
  | remove (path : String) (recursive : Bool)
  | getFileInfo (path : String)
  | chmod (path : String) (perm : Nat)

inductive FileAnswer where
  | done
  | entries (files : List FileInfo)
  | content (file : Bytes)
  | closed
  | details (file : FileDetails)

namespace FileRequest

def streams : FileRequest → Bool
  | .downloadStream _ _ => true
  | _ => false

def program (id : Nat) : FileRequest → FileProgram FileAnswer
  | .readDir directory => do return .entries (← Daemon.readDir id directory)
  | .mkDir directory => do
      let _ ← Daemon.mkDir id directory
      return .done
  | .move source destination copy => do
      let _ ← Daemon.move id source destination copy
      return .done
  | .download filePath => do return .content (← Daemon.download id filePath)
  | .downloadStream filePath buffers => do
      let (pooled, size) ← Daemon.downloadStream id filePath
      let pooled ← readStream buffers size pooled
      let _ ← pooled.close
      return .closed
  | .remove path recursive => do
      let _ ← Daemon.remove id path recursive
      return .done
  | .getFileInfo path => do return .details (← Daemon.getFileInfo id path)
  | .chmod path perm => do
      let _ ← Daemon.chmod id path perm
      return .done

end FileRequest

end ShadowPanel.Daemon
