import Mathlib.Algebra.BigOperators.Group.List.Basic
import Mathlib.Algebra.GroupWithZero.Nat
import ShadowPanel.Data.Paths
import ShadowPanel.Data.Wire

namespace ShadowPanel.Upload

open Data

/-- A moment counts from the zero time of the source. -/
structure Session where
  uploadID : Name
  serverID : Nat
  nodeID : Nat
  userID : Nat
  fullPath : String
  suUser : String
  totalSize : UInt64
  chunkSize : UInt64
  totalChunks : UInt64
  expectedChecksum : List Char
  createdAt : Int
  expiresAt : Int
  deriving DecidableEq

structure DoneInfo where
  success : Bool
  checksum : List Char
  deriving DecidableEq

namespace Session

def chunkSizeFor (session : Session) (index : Nat) : UInt64 :=
  if index + 1 = session.totalChunks.toNat then
    session.totalSize - session.chunkSize * (session.totalChunks - 1)
  else session.chunkSize

structure Divided (session : Session) : Prop where
  positive : 0 < session.totalChunks.toNat
  fits : session.chunkSize.toNat * (session.totalChunks.toNat - 1) ≤ session.totalSize.toNat

theorem Divided.toNat_lastSize {session : Session} (divided : session.Divided) :
    (session.totalSize - session.chunkSize * (session.totalChunks - 1)).toNat =
      session.totalSize.toNat - session.chunkSize.toNat * (session.totalChunks.toNat - 1) := by
  have one : (1 : UInt64).toNat ≤ session.totalChunks.toNat := divided.positive
  have small : session.chunkSize.toNat * (session.totalChunks.toNat - 1) < 2 ^ 64 :=
    Nat.lt_of_le_of_lt divided.fits session.totalSize.toNat_lt
  have product : (session.chunkSize * (session.totalChunks - 1)).toNat =
      session.chunkSize.toNat * (session.totalChunks.toNat - 1) := by
    rw [UInt64.toNat_mul, UInt64.toNat_sub_of_le _ _ one, Nat.mod_eq_of_lt]
    · rfl
    · exact small
  rw [UInt64.toNat_sub_of_le, product]
  rw [UInt64.le_iff_toNat_le, product]
  exact divided.fits

theorem sum_chunkSizeFor_of_lt {session : Session} (before : count < session.totalChunks.toNat) :
    ((List.range count).map fun index => (session.chunkSizeFor index).toNat).sum =
      session.chunkSize.toNat * count := by
  induction count with
  | zero => rfl
  | succ count ih =>
    rw [List.range_succ, List.map_append, List.sum_append, ih (by omega)]
    have inner : session.chunkSizeFor count = session.chunkSize := if_neg (by omega)
    simp [inner, Nat.mul_succ]

theorem Divided.sum_chunkSizeFor {session : Session} (divided : session.Divided) :
    ((List.range session.totalChunks.toNat).map fun index =>
      (session.chunkSizeFor index).toNat).sum = session.totalSize.toNat := by
  obtain ⟨count, whole⟩ := Nat.exists_eq_succ_of_ne_zero (Nat.pos_iff_ne_zero.mp divided.positive)
  have last : session.chunkSizeFor count =
      session.totalSize - session.chunkSize * (session.totalChunks - 1) := if_pos whole.symm
  have fits := divided.fits
  have size := divided.toNat_lastSize
  rw [whole, Nat.succ_sub_one] at fits size
  rw [whole, List.range_succ, List.map_append, List.sum_append,
    sum_chunkSizeFor_of_lt (by omega), List.map_singleton, List.sum_singleton, last]
  omega

end Session

def transfers : Name := ⟨"transfers".toList, by decide⟩
def metadataFileName : Name := ⟨"upload.json".toList, by decide⟩
def dataFileName : Name := ⟨"data".toList, by decide⟩
def doneFileName : Name := ⟨"done".toList, by decide⟩
def chunksDirName : Name := ⟨"chunks".toList, by decide⟩

section

variable (uploadID : Name)

/-- The directory whose text, with its last slash, is `transferRoot` of the source. -/
def transferRoot : Path := [uploadID, transfers]

def metadataPath : Path := metadataFileName :: transferRoot uploadID
def dataPath (uploadID : Name) : Path := dataFileName :: transferRoot uploadID
def donePath (uploadID : Name) : Path := doneFileName :: transferRoot uploadID

/-- The directory whose text is `chunksPrefix` of the source. -/
def chunksDir : Path := chunksDirName :: transferRoot uploadID

def chunkIndexWidth : Nat := 6

def chunkName (index : Nat) : Name where
  text := zeroPadded chunkIndexWidth index
  isName := by
    have digits (char : Char) (other : char.isDigit = false) :
        char ∉ zeroPadded chunkIndexWidth index :=
      fun member => absurd (other.symm.trans (isDigit_of_mem_zeroPadded member)) Bool.false_ne_true
    have noDot := digits '.' rfl
    refine ⟨zeroPadded_ne_nil _ _, digits '/' rfl, ?_, ?_⟩
    · intro dot
      simp [dot] at noDot
    · intro dots
      simp [dots] at noDot

def chunkPath (index : Nat) : Path := chunkName index :: chunksDir uploadID

def indexFromChunkPath (path : List Char) : Option Nat :=
  let tail := trimSlash (trimPrefix (dirText (chunksDir uploadID)) path)
  if tail.isEmpty || tail.contains '/' then none else scanNumber chunkIndexWidth tail

theorem chunkName_injective : Function.Injective chunkName := by
  intro left right same
  exact zeroPadded_injective _ (congrArg Name.text same)

def readBack (index : Nat) : Option Nat := scanNumber chunkIndexWidth (chunkName index).text

theorem readBack_eq_self (short : index < 1000000) : readBack index = some index :=
  scanNumber_zeroPadded_of_lt (by decide) short

theorem readBack_lt (read : readBack index = some scanned) : scanned < 1000000 :=
  lt_of_scanNumber_zeroPadded (by decide) read

/-- A name in the listings of the storages: with the directory of the chunks before it or
alone, and perhaps with a slash behind it. -/
def listed (tail : List Char) : List (List Char) :=
  [dirText (chunksDir uploadID) ++ tail, dirText (chunksDir uploadID) ++ tail ++ ['/'],
    tail, tail ++ ['/']]

end

theorem trim_of_mem_listed (free : '/' ∉ tail) (form : path ∈ listed uploadID tail) :
    trimSlash (trimPrefix (dirText (chunksDir uploadID)) path) = tail := by
  have slashed : '/' ∈ pathText (chunksDir uploadID) := by
    simp [chunksDir, transferRoot, pathText, dirText]
  have last : dirText (chunksDir uploadID) = pathText (chunksDir uploadID) ++ ['/'] :=
    dirText_cons _ _
  have notAlone : ¬dirText (chunksDir uploadID) <+: tail := by
    intro starts
    rw [last] at starts
    exact free (starts.subset (List.mem_append_left _ slashed))
  have notSlashed : ¬dirText (chunksDir uploadID) <+: tail ++ ['/'] := by
    rw [List.prefix_concat_iff]
    intro starts
    cases starts with
    | inl same => exact free (List.append_cancel_right (last.symm.trans same) ▸ slashed)
    | inr starts => exact notAlone starts
  simp only [listed, List.mem_cons, List.not_mem_nil, or_false] at form
  rcases form with rfl | rfl | rfl | rfl
  · simp [trimSlash_of_not_mem free]
  · rw [List.append_assoc, trimPrefix_append, trimSlash_append]
  · rw [trimPrefix_of_not notAlone, trimSlash_of_not_mem free]
  · rw [trimPrefix_of_not notSlashed, trimSlash_append]

theorem mem_listed_trim (path : List Char) :
    path ∈ listed uploadID (trimSlash (trimPrefix (dirText (chunksDir uploadID)) path)) := by
  simp only [listed, List.mem_cons, List.not_mem_nil, or_false]
  have slash := trimSlash_cases (trimPrefix (dirText (chunksDir uploadID)) path)
  rcases trimPrefix_cases (dirText (chunksDir uploadID)) path with alone | behind
  · rw [← alone] at slash ⊢
    exact .inr (.inr slash)
  · cases slash with
    | inl same => exact .inl (by rw [← same]; exact behind)
    | inr same => exact .inr (.inl (by rw [List.append_assoc, ← same]; exact behind))

theorem indexFromChunkPath_of_listed (free : '/' ∉ tail) (nonempty : tail ≠ [])
    (form : path ∈ listed uploadID tail) :
    indexFromChunkPath uploadID path = scanNumber chunkIndexWidth tail := by
  unfold indexFromChunkPath
  rw [trim_of_mem_listed free form]
  apply if_neg
  simp [free, nonempty]

theorem indexFromChunkPath_of_name (form : path ∈ listed uploadID (chunkName index).text) :
    indexFromChunkPath uploadID path = readBack index :=
  indexFromChunkPath_of_listed (chunkName index).slash_free (chunkName index).isName.1 form

theorem indexFromChunkPath_pathText (uploadID : Name) (index : Nat) :
    indexFromChunkPath uploadID (pathText (chunkPath uploadID index)) = readBack index :=
  indexFromChunkPath_of_name List.mem_cons_self

theorem indexFromChunkPath_name (uploadID : Name) (index : Nat) :
    indexFromChunkPath uploadID (chunkName index).text = readBack index :=
  indexFromChunkPath_of_name (by simp [listed])

end ShadowPanel.Upload
