import ShadowPanel.Upload.OnDisk
import ShadowPanel.Upload.Status

namespace ShadowPanel.Upload

open Data Files LocalFileManager List

universe u

/-! The sweep of `internal/upload/janitor.go` over the stored sessions. -/

def uploadIDFromPath (path : List Char) : Option (List Char) :=
  if (dirText [transfers]).isPrefixOf path then
    match cut '/' (path.drop (dirText [transfers]).length) with
    | some (uploadID, _) => if uploadID.isEmpty then none else some uploadID
    | none => none
  else
    let rest := trimSlash path
    if rest.isEmpty || rest.contains '/' then none else some rest

section

variable {σ : Type u} (fm : StreamFileManager σ Object) (now : Int)

def removeExpired (uploadID : Name) (storage : σ) : σ :=
  match fm.read storage (metadataPath uploadID) with
  | some (.session session) =>
    if session.expiresAt = 0 ∨ now < session.expiresAt then storage
    else (fm.deleteByPrefix storage (dirText (transferRoot uploadID))).getD storage
  | _ => storage

def maybeRemove (storage : σ) (uploadID : List Char) : σ :=
  if named : IsName uploadID then removeExpired fm now ⟨uploadID, named⟩ storage else storage

def sweep (storage : σ) : σ :=
  match fm.list storage [transfers] with
  | none => storage
  | some paths => (paths.filterMap uploadIDFromPath).eraseDups.foldl (maybeRemove fm now) storage

/-- The sweep deletes the sessions that the service rejects as expired, and no others. -/
structure SweepsExpired (storage : σ) : Prop where
  only : ∀ uploadID session, fm.read storage (metadataPath uploadID) = some (.session session) →
    fm.read (sweep fm now storage) (metadataPath uploadID) = none →
      verifyAccess now session.userID session = .error .sessionExpired
  every : ∀ uploadID session, fm.read storage (metadataPath uploadID) = some (.session session) →
    verifyAccess now session.userID session = .error .sessionExpired →
      fm.read (sweep fm now storage) (metadataPath uploadID) = none

/-- What a sweep needs of a storage: sessions are listed, and a deletion removes the metadata of
the session, if it can, and of no other. -/
structure Sweepable (removable : Name → Bool) : Prop where
  lists : ∀ storage uploadID, (fm.read storage (metadataPath uploadID)).isSome = true →
    ∃ paths, fm.list storage [transfers] = some paths ∧
      uploadID.text ∈ paths.filterMap uploadIDFromPath
  removes : ∀ storage uploadID, (fm.read storage (metadataPath uploadID)).isSome = true →
    ∃ left, fm.deleteByPrefix storage (dirText (transferRoot uploadID)) = some left ∧
      ∀ other, fm.read left (metadataPath other) =
        if other = uploadID ∧ removable other = true then none
        else fm.read storage (metadataPath other)

def isDue : Option Object → Bool
  | some (.session session) => session.expiresAt ≠ 0 && session.expiresAt ≤ now
  | _ => false

def remaining (removable : Bool) (object : Option Object) : Option Object :=
  if removable && isDue now object then none else object

variable {fm now} {removable : Name → Bool}

private theorem isDue_iff : isDue now object = true ↔ ∃ session, object = some (.session session) ∧
    session.expiresAt ≠ 0 ∧ session.expiresAt ≤ now := by
  unfold isDue
  split
  next session => simp
  next others =>
    exact iff_of_false Bool.false_ne_true fun ⟨session, same, _⟩ => others session same

theorem remaining_of_not_due {removable : Bool} (kept : isDue now object = false) :
    remaining now removable object = object := by
  simp [remaining, kept]

@[simp] theorem remaining_remaining (removable : Bool) (object : Option Object) :
    remaining now removable (remaining now removable object) = remaining now removable object := by
  unfold remaining
  split <;> simp_all [isDue]

namespace Sweepable

variable (sweepable : Sweepable fm removable)
include sweepable

private theorem read_removeExpired (uploadID : Name) :
    fm.read (removeExpired fm now uploadID storage) (metadataPath other) = if other = uploadID then
        remaining now (removable other) (fm.read storage (metadataPath other))
      else fm.read storage (metadataPath other) := by
  have unchanged (kept : isDue now (fm.read storage (metadataPath uploadID)) = false) :
      fm.read storage (metadataPath other) =
        if other = uploadID then
          remaining now (removable other) (fm.read storage (metadataPath other))
        else fm.read storage (metadataPath other) := by
    split
    next own => rw [own, remaining_of_not_due kept]
    next => rfl
  unfold removeExpired
  split
  next session found =>
    split
    next early =>
      apply unchanged
      rw [← Bool.not_eq_true, isDue_iff]
      rintro ⟨_, same, given, late⟩
      cases found.symm.trans same
      omega
    next late =>
      have due : isDue now (fm.read storage (metadataPath uploadID)) = true :=
        isDue_iff.mpr ⟨session, found, by omega, by omega⟩
      obtain ⟨left, deleted, read⟩ := sweepable.removes storage uploadID (by rw [found]; rfl)
      rw [deleted, Option.getD_some, read]
      by_cases own : other = uploadID
      · rw [own, if_pos rfl, remaining, due, Bool.and_true]
        exact if_congr (and_iff_right rfl) rfl rfl
      · simp [own]
  next others =>
    apply unchanged
    rw [← Bool.not_eq_true, isDue_iff]
    rintro ⟨session, same, -⟩
    exact others session same

private theorem read_maybeRemove (uploadID : List Char) :
    fm.read (maybeRemove fm now storage uploadID) (metadataPath other) =
      if other.text = uploadID then
        remaining now (removable other) (fm.read storage (metadataPath other))
      else fm.read storage (metadataPath other) := by
  unfold maybeRemove
  split
  next named =>
    rw [sweepable.read_removeExpired]
    exact if_congr Name.ext_iff rfl rfl
  next unnamed =>
    refine (if_neg ?_).symm
    rintro rfl
    exact unnamed other.isName

private theorem read_foldl (ids : List (List Char)) :
    fm.read (ids.foldl (maybeRemove fm now) storage) (metadataPath other) = if other.text ∈ ids then
        remaining now (removable other) (fm.read storage (metadataPath other))
      else fm.read storage (metadataPath other) := by
  induction ids generalizing storage with
  | nil => rfl
  | cons first rest ih =>
    rw [foldl_cons, ih, sweepable.read_maybeRemove]
    by_cases own : other.text = first
    · simp [own]
    · simp [own]

private theorem read_sweep : fm.read (sweep fm now storage) (metadataPath other) =
    remaining now (removable other) (fm.read storage (metadataPath other)) := by
  unfold sweep
  cases found : fm.read storage (metadataPath other) with
  | none =>
    have nothing : remaining now (removable other) none = none := remaining_of_not_due rfl
    split
    · rw [found, nothing]
    · rw [sweepable.read_foldl, found, nothing, ite_self]
  | some object =>
    obtain ⟨paths, listed, member⟩ := sweepable.lists storage other (by rw [found]; rfl)
    simp only [listed]
    rw [sweepable.read_foldl, if_pos (mem_eraseDups.mpr member), found]

theorem sweepsExpired_iff : SweepsExpired fm now storage ↔
    ∀ uploadID session, fm.read storage (metadataPath uploadID) = some (.session session) →
      session.expiresAt ≠ 0 → (session.expiresAt = now → removable uploadID = false) ∧
          (session.expiresAt < now → removable uploadID = true) := by
  have rejected (session : Session) :
      verifyAccess now session.userID session = .error .sessionExpired ↔
        session.expiresAt ≠ 0 ∧ session.expiresAt < now := by
    simp [verifyAccess]
  have deleted {uploadID : Name} {session : Session}
      (found : fm.read storage (metadataPath uploadID) = some (.session session)) :
      fm.read (sweep fm now storage) (metadataPath uploadID) = none ↔
        removable uploadID = true ∧ session.expiresAt ≠ 0 ∧ session.expiresAt ≤ now := by
    rw [sweepable.read_sweep, found]
    simp [remaining, isDue]
  constructor
  · intro swept uploadID session found given
    constructor
    · intro same
      rw [← Bool.not_eq_true]
      intro removed
      have gone := (deleted found).mpr ⟨removed, given, same.le⟩
      have late := ((rejected session).mp (swept.only uploadID session found gone)).2
      omega
    · intro late
      exact ((deleted found).mp (swept.every uploadID session found
        ((rejected session).mpr ⟨given, late⟩))).1
  · intro agree
    refine ⟨fun uploadID session found gone => ?_, fun uploadID session found expired => ?_⟩
    · obtain ⟨removed, given, due⟩ := (deleted found).mp gone
      have other : session.expiresAt ≠ now := by
        intro same
        rw [(agree uploadID session found given).1 same] at removed
        cases removed
      exact (rejected session).mpr ⟨given, by omega⟩
    · obtain ⟨given, late⟩ := (rejected session).mp expired
      exact (deleted found).mpr ⟨(agree uploadID session found given).2 late, given, late.le⟩

end Sweepable

end

private theorem uploadIDFromPath_pathText (uploadID : Name) :
    uploadIDFromPath (pathText (metadataPath uploadID)) = some uploadID.text := by
  have spelled : pathText (metadataPath uploadID) =
      dirText [transfers] ++ (uploadID.text ++ '/' :: metadataFileName.text) := by
    simp [metadataPath, transferRoot, pathText, dirText]
  have nonempty : uploadID.text.isEmpty = false := isEmpty_eq_false_iff.mpr uploadID.isName.1
  have starts := isPrefixOf_iff_prefix.mpr (prefix_append (dirText [transfers])
    (uploadID.text ++ '/' :: metadataFileName.text))
  unfold uploadIDFromPath
  rw [spelled, if_pos starts, drop_left, cut_append uploadID.slash_free]
  simp only [nonempty, Bool.false_eq_true, if_false]

private theorem uploadIDFromPath_name (uploadID : Name) :
    uploadIDFromPath uploadID.text = some uploadID.text := by
  have alone : ¬dirText [transfers] <+: uploadID.text := by
    intro starts
    exact uploadID.slash_free (starts.subset (by decide))
  unfold uploadIDFromPath
  rw [if_neg (alone ∘ isPrefixOf_iff_prefix.mp),
    trimSlash_of_not_mem uploadID.slash_free]
  exact if_neg (by simp [uploadID.isName.1, uploadID.slash_free])

theorem sweepable_inMemory : Sweepable inMemory fun _ => true where
  lists := by
    intro memory uploadID there
    refine ⟨_, rfl, mem_filterMap.mpr
      ⟨pathText (metadataPath uploadID), ?_, uploadIDFromPath_pathText uploadID⟩⟩
    refine InMemoryFileManager.mem_list.mpr ⟨there, ?_⟩
    simp [metadataPath, transferRoot, pathText, dirText]
  removes := by
    intro memory uploadID _
    refine ⟨_, rfl, fun other => ?_⟩
    refine (stored_deleteRoot memory uploadID other .metadata).trans ?_
    exact if_congr (and_iff_left rfl).symm rfl rfl

theorem sweepable_onDisk :
    Sweepable onDisk fun uploadID => uploadID.text.isPrefixOf metadataFileName.text where
  lists := by
    intro disk uploadID there
    obtain ⟨member, directory⟩ := isDirectory_of_mem [metadataFileName] (mem_of_file there)
    obtain ⟨node, found⟩ := Option.isSome_iff_exists.mp (AList.lookup_isSome.mpr member)
    refine ⟨_, if_pos directory, mem_filterMap.mpr
      ⟨uploadID.text, mem_map.mpr ⟨⟨uploadID, node.isDir⟩, ?_, rfl⟩,
        uploadIDFromPath_name uploadID⟩⟩
    exact mem_entriesOf.mpr ⟨node, found, rfl⟩
  removes := by
    intro disk uploadID there
    have opened := Lexical.within_dir (transferRoot uploadID) not_mem_nil
    rw [append_nil] at opened
    obtain ⟨left, removed, nodes⟩ := deleteByPrefix_eq opened (disk.rooted _ _ (mem_of_file there))
    refine ⟨left, removed, fun other => ?_⟩
    refine (file_of_keep nodes (metadataPath other)).trans ?_
    rw [show base (dirText (transferRoot uploadID)) = uploadID.text from base_dirText_cons _ _]
    have below : Below (transferRoot uploadID) uploadID.text (metadataPath other) ↔
        other = uploadID ∧ other.text.isPrefixOf metadataFileName.text = true := by
      refine Iff.trans ?_ (and_congr_right' isPrefixOf_iff_prefix.symm)
      constructor
      · intro below
        simp only [Below, metadataPath, transferRoot, cons.injEq, and_true,
          reduceCtorEq, false_and, and_false, or_false] at below
        obtain ⟨rfl, starts⟩ := below
        exact ⟨rfl, starts⟩
      · rintro ⟨rfl, starts⟩
        exact .inl ⟨rfl, starts⟩
    by_cases gone : other = uploadID ∧ other.text.isPrefixOf metadataFileName.text = true
    · rw [if_pos gone, decide_eq_true (below.mpr gone)]
      rfl
    · rw [if_neg gone, decide_eq_false (mt below.mp gone)]
      rfl

theorem sweepsExpired_storages_iff (memory : InMemoryFileManager Object)
    (disk : LocalFileManager Object) (now : Int) :
    (SweepsExpired inMemory now memory ↔
        ∀ uploadID session, stored memory uploadID .metadata = some (.session session) →
          session.expiresAt ≠ 0 → session.expiresAt ≠ now) ∧
      (SweepsExpired onDisk now disk ↔
        ∀ uploadID session, keptAt disk uploadID .metadata = some (.session session) →
          session.expiresAt ≠ 0 →
            (session.expiresAt = now → ¬uploadID.text <+: metadataFileName.text) ∧
              (session.expiresAt < now → uploadID.text <+: metadataFileName.text)) := by
  constructor
  · rw [sweepable_inMemory.sweepsExpired_iff]
    refine forall₄_congr fun uploadID session _ _ => ?_
    simp
  · rw [sweepable_onDisk.sweepsExpired_iff]
    refine forall₄_congr fun uploadID session _ _ => ?_
    simp only [← Bool.not_eq_true, isPrefixOf_iff_prefix]

def sessionInMemory : InMemoryFileManager Object :=
  InMemoryFileManager.empty.write (pathText (metadataPath (chunkName 0))) (.session (byteSession 3))

theorem not_sweepsExpired_at_expiry_or_on_disk :
    verifyAccess 3601 1 (byteSession 3) = .ok () ∧ ¬SweepsExpired inMemory 3601 sessionInMemory ∧
      ∃ disk, onDisk.write .empty (metadataPath (chunkName 0)) (.session (byteSession 3)) =
          some disk ∧ ¬SweepsExpired onDisk 3602 disk := by
  refine ⟨rfl, ?_, ?_⟩
  · rw [sweepable_inMemory.sweepsExpired_iff]
    intro agree
    exact absurd ((agree (chunkName 0) (byteSession 3) (by decide) (by decide)).1 rfl) (by decide)
  · refine ⟨_, rfl, ?_⟩
    rw [sweepable_onDisk.sweepsExpired_iff]
    intro agree
    exact absurd ((agree (chunkName 0) (byteSession 3) (by decide) (by decide)).2 (by decide))
      (by decide)

end ShadowPanel.Upload
