import ShadowPanel.Upload.Status

namespace ShadowPanel.Upload

open Data Files List

universe u

/-! The chunks of a session: how a size is cut into them, and their names in the listing of
a storage. -/

structure EvenlyCut (cfg : Config) (session : Session) : Prop where
  rounded : session.totalChunks.toNat =
    (session.totalSize.toNat + cfg.chunkSize.toNat - 1) / cfg.chunkSize.toNat
  limited : session.totalChunks ≤ cfg.maxChunks
  sized : ∀ index < session.totalChunks.toNat, 0 < (session.chunkSizeFor index).toNat ∧
    (session.chunkSizeFor index).toNat ≤ cfg.chunkSize.toNat
  whole : ((range session.totalChunks.toNat).map fun index =>
    (session.chunkSizeFor index).toNat).sum = session.totalSize.toNat

theorem toNat_totalChunksFor (some : 0 < totalSize.toNat) (given : 0 < chunkSize.toNat) :
    (totalChunksFor totalSize chunkSize).toNat =
      if totalSize.toNat + chunkSize.toNat ≤ 0x10000000000000000 then
        (totalSize.toNat + chunkSize.toNat - 1) / chunkSize.toNat else 1 := by
  have small := totalSize.toNat_lt
  have chunkSmall := chunkSize.toNat_lt
  have sum : (totalSize + chunkSize - 1).toNat =
      if totalSize.toNat + chunkSize.toNat ≤ 0x10000000000000000 then
        totalSize.toNat + chunkSize.toNat - 1
      else totalSize.toNat + chunkSize.toNat - 1 - 0x10000000000000000 := by
    rw [UInt64.toNat_sub, UInt64.toNat_add, show (1 : UInt64).toNat = 1 from rfl]
    split <;> omega
  have divided : ((totalSize + chunkSize - 1) / chunkSize).toNat =
      (totalSize + chunkSize - 1).toNat / chunkSize.toNat := UInt64.toNat_div _ _
  rw [sum] at divided
  simp only [totalChunksFor]
  split at divided
  next within =>
    have positive : 0 < (totalSize.toNat + chunkSize.toNat - 1) / chunkSize.toNat :=
      Nat.div_pos (by omega) given
    rw [if_pos within, if_neg, divided]
    intro zero
    rw [← divided, zero] at positive
    exact absurd positive (by decide)
  next beyond =>
    rw [Nat.div_eq_of_lt (by omega)] at divided
    rw [if_neg beyond, if_pos (UInt64.toNat_inj.mp divided)]
    rfl

theorem rounded_iff {total : Nat} (some : 0 < total) (given : 0 < chunk) :
    (if total + chunk ≤ 0x10000000000000000 then (total + chunk - 1) / chunk else 1) =
        (total + chunk - 1) / chunk ↔
      total + chunk ≤ 0x10000000000000000 ∨ total ≤ chunk := by
  split
  next within => simp [within]
  next beyond =>
    have one : (total + chunk - 1) / chunk = 1 ↔ total ≤ chunk := by
      rw [Nat.div_eq_iff given]
      omega
    rw [eq_comm, one, or_iff_right beyond]

theorem chunkSizeFor_bounds {session : Session} (divided : session.Divided)
    (given : 0 < session.chunkSize.toNat)
    (before : session.chunkSize.toNat * (session.totalChunks.toNat - 1) < session.totalSize.toNat)
    (within : session.totalSize.toNat ≤ session.chunkSize.toNat * session.totalChunks.toNat)
    (index : Nat) :
    0 < (session.chunkSizeFor index).toNat ∧
      (session.chunkSizeFor index).toNat ≤ session.chunkSize.toNat := by
  unfold Session.chunkSizeFor
  split
  next last =>
    have count : session.totalChunks.toNat = session.totalChunks.toNat - 1 + 1 := by omega
    rw [count, Nat.mul_succ] at within
    rw [divided.toNat_lastSize]
    omega
  next => exact ⟨given, Nat.le_refl _⟩

section

variable {σ : Type u} {fm : StreamFileManager σ Object} {cfg : Config} {now : Int}
variable {uploadID : Name} {params : CreateParams} {storage : σ} {session : Session}

theorem newSession_of_create (made : (create fm cfg now uploadID params storage).2 = .ok session) :
    newSession cfg now uploadID params = .ok session := by
  unfold create at made
  cases built : newSession cfg now uploadID params with
  | error error =>
    rw [built] at made
    cases made
  | ok session =>
    rw [built] at made
    simp only at made
    split at made
    · cases made
    · exact made

theorem evenlyCut_iff (made : (create fm cfg now uploadID params storage).2 = .ok session) :
    EvenlyCut cfg session ↔
      0 < cfg.maxChunks ∧
        (params.totalSize.toNat + cfg.chunkSize.toNat ≤ 0x10000000000000000 ∨
          params.totalSize ≤ cfg.chunkSize) := by
  have built := Made.of_newSession (newSession_of_create made)
  have some : 0 < params.totalSize.toNat := UInt64.pos_iff_ne_zero.mpr built.some
  have given : 0 < cfg.chunkSize.toNat := UInt64.pos_iff_ne_zero.mpr built.given
  have rounded := rounded_iff some given
  rw [← toNat_totalChunksFor some given, ← built.totalChunks_eq] at rounded
  rw [UInt64.le_iff_toNat_le, ← rounded]
  rw [← built.totalSize_eq] at some ⊢
  constructor
  · intro cut
    exact ⟨UInt64.lt_of_lt_of_le built.divided.positive cut.limited, cut.rounded⟩
  · intro ⟨limit, equal⟩
    refine ⟨equal, UInt64.not_lt.mp fun more => built.few ⟨limit, more⟩, ?_,
      built.divided.sum_chunkSizeFor⟩
    intro index _
    have below := Nat.div_mul_le_self (session.totalSize.toNat + cfg.chunkSize.toNat - 1)
      cfg.chunkSize.toNat
    have above := Nat.lt_div_mul_add (a := session.totalSize.toNat + cfg.chunkSize.toNat - 1) given
    rw [← equal, Nat.mul_comm] at below above
    rw [← built.chunkSize_eq] at given below above ⊢
    refine chunkSizeFor_bounds built.divided given ?_ ?_ index
    · rw [Nat.mul_sub_one]
      omega
    · omega

end

def defaultConfig : Config := ⟨8388608, 86400, 100000⟩

theorem evenlyCut_three_bytes :
    ∃ session, (create inMemory defaultConfig 1 (chunkName 0) (byteParams 3) .empty).2 =
        .ok session ∧ EvenlyCut defaultConfig session :=
  have made : (create inMemory defaultConfig 1 (chunkName 0) (byteParams 3) .empty).2 = .ok _ := rfl
  ⟨_, made, (evenlyCut_iff made).mpr (by decide)⟩

theorem not_evenlyCut_of_wrapped : ∃ session, (create inMemory defaultConfig 1 (chunkName 0)
      (byteParams 0xFFFFFFFFFFFFFFFF) .empty).2 = .ok session ∧
    session.totalChunks = 1 ∧ session.chunkSizeFor 0 = 0xFFFFFFFFFFFFFFFF ∧
    ¬EvenlyCut defaultConfig session :=
  ⟨_, rfl, rfl, rfl, fun cut => absurd (cut.sized 0 (by decide)).2 (by decide)⟩

def BeginsWithNumber (tail : List Char) : Prop :=
  '/' ∉ tail ∧ ∃ digit rest, tail.dropWhile isBlank = digit :: rest ∧ digit.isDigit = true

theorem isSome_indexFromChunkPath_iff :
    (indexFromChunkPath uploadID path).isSome = true ↔
      ∃ tail, path ∈ listed uploadID tail ∧ BeginsWithNumber tail := by
  have scanned {tail : List Char} := isSome_scanNumber_iff chunkIndexWidth (by decide) tail
  constructor
  · intro read
    unfold indexFromChunkPath at read
    simp only at read
    split at read
    · cases read
    next named =>
      rw [Bool.or_eq_true, not_or] at named
      refine ⟨_, ?_, fun slash => named.2 (contains_iff_mem.mpr slash), scanned.mp read⟩
      exact mem_listed_trim path
  · intro ⟨tail, form, free, number⟩
    have nonempty : tail ≠ [] := by
      rintro rfl
      simp at number
    rw [indexFromChunkPath_of_listed free nonempty form]
    exact scanned.mpr number

theorem indexFromChunkPath_exact_iff (uploadID : Name) :
    (∀ index, (∀ path ∈ listed uploadID (chunkName index).text,
        indexFromChunkPath uploadID path = some index) ↔ index < 1000000) ∧
      ∀ path, (∀ index, path ∉ listed uploadID (chunkName index).text) →
        (indexFromChunkPath uploadID path = none ↔
          ¬∃ tail, path ∈ listed uploadID tail ∧ BeginsWithNumber tail) := by
  constructor
  · intro index
    constructor
    · intro exact
      have read := exact _ mem_cons_self
      rw [indexFromChunkPath_of_name mem_cons_self] at read
      exact readBack_lt read
    · intro short path form
      rw [indexFromChunkPath_of_name form]
      exact readBack_eq_self short
  · intro path _
    rw [← isSome_indexFromChunkPath_iff, Option.not_isSome_iff_eq_none]

def temporaryName : List Char := "000001.tmp".toList

theorem foreign_name_read_as_chunk :
    (∀ index, temporaryName ∉ listed (chunkName 0) (chunkName index).text) ∧
      indexFromChunkPath (chunkName 0) temporaryName = some 1 ∧
      indexFromChunkPath (chunkName 0) (pathText (chunkPath (chunkName 0) 1000000)) =
        some 100000 := by
  refine ⟨?_, by decide, by decide⟩
  intro index form
  have trimmed : trimSlash (trimPrefix (dirText (chunksDir (chunkName 0))) temporaryName) =
      temporaryName := by decide
  have same := trimmed.symm.trans (trim_of_mem_listed (chunkName index).slash_free form)
  have dot : '.' ∈ (chunkName index).text := same ▸ (by decide)
  exact absurd (isDigit_of_mem_zeroPadded dot) (by decide)

end ShadowPanel.Upload
