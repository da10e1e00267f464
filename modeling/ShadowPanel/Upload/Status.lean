import ShadowPanel.Data.Runs
import ShadowPanel.Upload.Storage

namespace ShadowPanel.Upload

open Data Files List

/-! The sessions and chunks that any calls leave in the storage in memory. -/

theorem totalChunksFor_divides (some : totalSize ≠ 0) :
    0 < (totalChunksFor totalSize chunkSize).toNat ∧
      chunkSize.toNat * ((totalChunksFor totalSize chunkSize).toNat - 1) ≤ totalSize.toNat := by
  have positive : 0 < totalSize.toNat := by
    rw [Nat.pos_iff_ne_zero]
    intro zero
    exact some (UInt64.toNat_inj.mp zero)
  simp only [totalChunksFor]
  split
  next => exact ⟨by decide, by simp⟩
  next nonzero =>
    have rounded : (totalSize + chunkSize - 1).toNat ≤ totalSize.toNat + chunkSize.toNat - 1 := by
      rw [UInt64.toNat_sub, UInt64.toNat_add, show (1 : UInt64).toNat = 1 from rfl]
      omega
    have product := Nat.mul_div_le (totalSize + chunkSize - 1).toNat chunkSize.toNat
    have count : 0 < (totalSize + chunkSize - 1).toNat / chunkSize.toNat := by
      rw [Nat.pos_iff_ne_zero]
      intro zero
      exact nonzero (UInt64.toNat_inj.mp (by rw [UInt64.toNat_div]; exact zero))
    rw [UInt64.toNat_div, Nat.mul_sub_one]
    omega

structure Made (cfg : Config) (uploadID : Name) (params : CreateParams) (session : Session) :
    Prop where
  some : params.totalSize ≠ 0
  given : cfg.chunkSize ≠ 0
  few : ¬(0 < cfg.maxChunks ∧ cfg.maxChunks < session.totalChunks)
  uploadID_eq : session.uploadID = uploadID
  totalSize_eq : session.totalSize = params.totalSize
  chunkSize_eq : session.chunkSize = cfg.chunkSize
  totalChunks_eq : session.totalChunks = totalChunksFor params.totalSize cfg.chunkSize

theorem Made.of_newSession (made : newSession cfg now uploadID params = .ok session) :
    Made cfg uploadID params session := by
  unfold newSession at made
  split at made
  · cases made
  next some =>
    split at made
    · cases made
    · split at made
      · cases made
      next given =>
        split at made
        · cases made
        next few =>
          cases made
          exact ⟨some, given, few, rfl, rfl, rfl, rfl⟩

theorem Made.divided (made : Made cfg uploadID params session) : session.Divided := by
  obtain ⟨positive, fits⟩ := totalChunksFor_divides made.some
  rw [← made.totalChunks_eq, ← made.totalSize_eq, ← made.chunkSize_eq] at *
  exact ⟨positive, fits⟩

def ServiceState.initial : ServiceState (InMemoryFileManager Object) := ⟨.empty, 0, []⟩

def Setup.afterCalls (setup : Setup) (calls : List Call) :
    ServiceState (InMemoryFileManager Object) :=
  run (fun state call => (setup.respond inMemory state call).1) .initial calls

/-- Whatever is stored belongs to a session that was created, and a stored chunk is
one of its session's, with the size that its index asks for. -/
structure Sound (setup : Setup) (state : ServiceState (InMemoryFileManager Object)) : Prop where
  only : OnlySessions state.storage
  issued : ∀ uploadID file, (stored state.storage uploadID file).isSome = true →
    ∃ number, number < state.issued ∧ uploadID = setup.ids.new number
  sessions : ∀ uploadID object, stored state.storage uploadID .metadata = some object →
    ∃ session, object = .session session ∧ session.Divided ∧ session.uploadID = uploadID
  chunks : ∀ uploadID index object, stored state.storage uploadID (.chunk index) = some object →
    ∃ session bytes, stored state.storage uploadID .metadata = some (.session session) ∧
      index < session.totalChunks.toNat ∧ object = .bytes bytes ∧
      bytes.length = (session.chunkSizeFor index).toNat

namespace Sound

theorem initial (setup : Setup) : Sound setup .initial where
  only := fun _ there => nomatch there
  issued := fun _ _ there => nomatch there
  sessions := fun _ _ found => nomatch found
  chunks := fun _ _ _ found => nomatch found

section

variable (sound : Sound setup state)

include sound

theorem created (divided : session.Divided) (named : session.uploadID = setup.ids.new state.issued)
    (updated : Updated (setup.ids.new state.issued) .metadata (some (.session session))
      state.storage storage) : Sound setup { state with storage, issued := state.issued + 1 } where
  only := updated.only sound.only
  issued := by
    intro otherID other there
    rw [updated.stored_eq] at there
    split at there
    next same => exact ⟨state.issued, Nat.lt_succ_self _, same.1⟩
    next =>
      obtain ⟨number, less, same⟩ := sound.issued otherID other there
      exact ⟨number, Nat.lt_succ_of_lt less, same⟩
  sessions := by
    intro otherID object found
    rw [updated.stored_eq] at found
    split at found
    next same =>
      cases found
      exact ⟨session, rfl, divided, named.trans same.1.symm⟩
    next => exact sound.sessions otherID object found
  chunks := by
    intro otherID index object found
    rw [updated.stored_eq, if_neg (by simp)] at found
    obtain ⟨owner, bytes, metadata, rest⟩ := sound.chunks otherID index object found
    refine ⟨owner, bytes, ?_, rest⟩
    obtain ⟨number, less, rfl⟩ := sound.issued otherID .metadata (by rw [metadata]; rfl)
    rw [updated.stored_eq, if_neg]
    · exact metadata
    · rintro ⟨same, -⟩
      exact absurd (setup.ids.unique same) (Nat.ne_of_lt less)

theorem updated (updated : Updated uploadID file value state.storage storage)
    (metadata : stored state.storage uploadID .metadata = some (.session session))
    (other : file ≠ .metadata)
    (fits : ∀ index, file = .chunk index →
      ∀ object ∈ value, ∃ bytes, index < session.totalChunks.toNat ∧ object = .bytes bytes ∧
      bytes.length = (session.chunkSizeFor index).toNat) : Sound setup { state with storage } where
  only := updated.only sound.only
  issued := by
    intro otherID otherFile there
    rw [updated.stored_eq] at there
    split at there
    next same =>
      rw [same.1]
      exact sound.issued uploadID .metadata (by rw [metadata]; rfl)
    next => exact sound.issued otherID otherFile there
  sessions := by
    intro otherID object found
    rw [updated.stored_eq, if_neg (fun same => other same.2.symm)] at found
    exact sound.sessions otherID object found
  chunks := by
    intro otherID index object found
    rw [updated.stored_eq otherID .metadata, if_neg (fun same => other same.2.symm)]
    rw [updated.stored_eq] at found
    split at found
    next same =>
      obtain ⟨rfl, isChunk⟩ := same
      obtain ⟨bytes, rest⟩ := fits index isChunk.symm object found
      exact ⟨session, bytes, metadata, rest⟩
    next => exact sound.chunks otherID index object found

theorem deletedRoot (uploadID : Name) : Sound setup { state with
    storage := state.storage.deleteByPrefix (dirText (transferRoot uploadID)) } where
  only := sound.only.deleteByPrefix _
  issued := by
    intro otherID file there
    rw [stored_deleteRoot] at there
    split at there
    · cases there
    · exact sound.issued otherID file there
  sessions := by
    intro otherID object found
    rw [stored_deleteRoot] at found
    split at found
    · cases found
    · exact sound.sessions otherID object found
  chunks := by
    intro otherID index object found
    rw [stored_deleteRoot] at found ⊢
    split at found
    · cases found
    next different =>
      rw [if_neg different]
      exact sound.chunks otherID index object found

theorem deletedChunks (uploadID : Name) : Sound setup { state with
    storage := state.storage.deleteByPrefix (dirText (chunksDir uploadID)) } where
  only := sound.only.deleteByPrefix _
  issued := by
    intro otherID file there
    apply sound.issued otherID file
    unfold stored at there ⊢
    rw [InMemoryFileManager.read_deleteByPrefix] at there
    split at there
    · cases there
    · exact there
  sessions := by
    intro otherID object found
    rw [stored_deleteChunks_of_ne _ _ _ _ (by simp)] at found
    exact sound.sessions otherID object found
  chunks := by
    intro otherID index object found
    rw [stored_deleteChunks_of_ne _ _ _ .metadata (by simp)]
    rw [stored_deleteChunks_chunk] at found
    split at found
    · cases found
    · exact sound.chunks otherID index object found

theorem deletedData (uploadID : Name) : Sound setup { state with
    storage := state.storage.delete (pathText (dataPath uploadID)) } := by
  have updated : Updated uploadID .data none state.storage
      (state.storage.delete (pathText (dataPath uploadID))) := (updated_delete _)
  refine ⟨updated.only sound.only, ?_, ?_, ?_⟩
  · intro otherID file there
    rw [updated.stored_eq] at there
    split at there
    · cases there
    · exact sound.issued otherID file there
  · intro otherID object found
    rw [updated.stored_eq, if_neg (by simp)] at found
    exact sound.sessions otherID object found
  · intro otherID index object found
    rw [updated.stored_eq, if_neg (by simp)] at found ⊢
    exact sound.chunks otherID index object found

theorem ignoring_cleanups (cleanups : List Name) : Sound setup { state with cleanups } :=
  ⟨sound.only, sound.issued, sound.sessions, sound.chunks⟩

theorem completed (now : Int) (uploadID : Name) (userID : Nat) (node : Option Nat)
    (dispatched : Bool) :
    Sound setup { state with
      storage := (complete inMemory setup.sha256 now uploadID userID node dispatched
        state.storage).storage } := by
  cases complete_effect setup.sha256 node dispatched with
  | inl unchanged =>
    rw [unchanged]
    exact sound
  | inr assembles =>
    obtain ⟨session, metadata, after⟩ := assembles
    obtain ⟨value, middle, change, rest⟩ :=
      assemble_effect setup.sha256 session dispatched
    have assembled := sound.updated change metadata (by simp) (by simp)
    rw [after]
    cases rest with
    | inl same =>
      rw [same]
      exact assembled
    | inr finished =>
      obtain ⟨object, written⟩ := finished
      have still : stored middle uploadID .metadata = some (.session session) :=
        (change.stored_eq uploadID .metadata).trans (by simpa using metadata)
      exact assembled.updated written still (by simp) (by simp)

theorem respond (call : Call) : Sound setup (setup.respond inMemory state call).1 := by
  cases call with
  | create now params =>
    simp only [Setup.respond, create]
    cases made : newSession setup.cfg now (setup.ids.new state.issued) params with
    | error error =>
      refine ⟨sound.only, ?_, sound.sessions, sound.chunks⟩
      intro otherID file there
      obtain ⟨number, less, same⟩ := sound.issued otherID file there
      exact ⟨number, Nat.lt_succ_of_lt less, same⟩
    | ok session =>
      have divided := (Made.of_newSession made).divided
      have named := (Made.of_newSession made).uploadID_eq
      exact sound.created divided named (updated_write _ _)
  | writeChunk now uploadID userID index body =>
    simp only [Setup.respond]
    cases writeChunk_effect index body with
    | inl unchanged =>
      rw [unchanged]
      exact sound
    | inr stores =>
      obtain ⟨session, metadata, within, after⟩ := stores
      obtain ⟨value, change, sized⟩ :=
        storeChunk_effect session index body
      rw [after]
      refine sound.updated change metadata (by simp) ?_
      rintro other same object inside
      cases same
      obtain ⟨bytes, shape, size⟩ := sized object inside
      exact ⟨bytes, within, shape, size⟩
  | status now uploadID userID => exact sound
  | complete now uploadID userID node dispatched =>
    exact (sound.completed now uploadID userID node dispatched).ignoring_cleanups _
  | abort now uploadID userID =>
    simp only [Setup.respond]
    cases abort_effect with
    | inl unchanged =>
      rw [unchanged]
      exact sound
    | inr removed =>
      rw [removed]
      exact sound.deletedRoot uploadID
  | cleanup uploadID =>
    simp only [Setup.respond]
    split
    · exact ((sound.deletedChunks uploadID).deletedData uploadID).ignoring_cleanups _
    · exact sound

end

theorem afterCalls (setup : Setup) (calls : List Call) : Sound setup (setup.afterCalls calls) := by
  unfold Setup.afterCalls
  induction calls using reverseRecOn with
  | nil => exact initial setup
  | append_singleton calls call ih =>
    rw [Data.run_append]
    exact ih.respond call

end Sound

def byteChunks : Setup where
  cfg := ⟨1, 3600, 0⟩
  ids := ⟨chunkName, chunkName_injective⟩
  sha256 := fun _ => []

def byteParams (totalSize : UInt64) : CreateParams where
  serverID := 1
  nodeID := 1
  userID := 1
  fullPath := "server.jar"
  suUser := ""
  totalSize
  expectedChecksum := replicate 64 '0'

def byteSession (totalSize : UInt64) : Session where
  uploadID := chunkName 0
  serverID := 1
  nodeID := 1
  userID := 1
  fullPath := "server.jar"
  suUser := ""
  totalSize
  chunkSize := 1
  totalChunks := totalSize
  expectedChecksum := replicate 64 '0'
  createdAt := 1
  expiresAt := 3601

def threeBytes : List Call :=
  [.create 1 (byteParams 3), .writeChunk 1 (chunkName 0) 1 2 ⟨[7], false⟩]

/-- A stored chunk has a stored session, and the size that the session asks for. -/
theorem chunk_of_stored_session (setup : Setup) (calls : List Call) {uploadID : Name} {index : Nat}
    {object : Object}
    (found : stored (setup.afterCalls calls).storage uploadID (.chunk index) = some object) :
    ∃ session bytes,
      stored (setup.afterCalls calls).storage uploadID .metadata = some (.session session) ∧
        index < session.totalChunks.toNat ∧ object = .bytes bytes ∧
        bytes.length = (session.chunkSizeFor index).toNat :=
  (Sound.afterCalls setup calls).chunks uploadID index object found

theorem chunk_of_stored_session_threeBytes :
    ∃ session bytes,
      stored (byteChunks.afterCalls threeBytes).storage (chunkName 0) .metadata =
          some (.session session) ∧
        2 < session.totalChunks.toNat ∧ (.bytes [7] : Object) = .bytes bytes ∧
        bytes.length = (session.chunkSizeFor 2).toNat :=
  chunk_of_stored_session byteChunks threeBytes (by decide)

end ShadowPanel.Upload
