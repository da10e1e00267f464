import ShadowPanel.Daemon.WorkPaths

namespace ShadowPanel.Daemon

open ShadowPanel.Data ShadowPanel.Upload ShadowPanel.Validation Lexical List

/-! Which paths of files reach the daemon as the paths below the work path that they are. -/

/-- What the daemon gets is the cleaned path below the directory of the node, with forward
slashes, and lies inside. -/
structure Stripped (workPath dir path name : List Char) : Prop where
  cleaned : stripWorkPath workPath (targetPath workPath dir path name) =
    slashes (joinPaths [dir, path, name])
  relative : (stripWorkPath workPath (targetPath workPath dir path name)).head? ≠ some '/'
  driveless : hasDrive (stripWorkPath workPath (targetPath workPath dir path name)) = false
  inside : ['.', '.'] ∉ (stripWorkPath workPath (targetPath workPath dir path name)).splitOn '/'

structure Accepted (dir path name : List Char) : Prop where
  dir : isRelativeServerPath (String.ofList dir) = true
  path : validatePath path = .ok ()
  name : validateFilename name = .ok ()

def entryText (dir path name : List Char) : List Char := ['/'].intercalate [dir, path, name]

def entryPath (dir path name : List Char) : Path :=
  Lexical.namesOf ((entryText dir path name).splitOn '/')

/-- The work path is clean but for a slash after it, or cleaned it is nothing but a drive and
slashes and is no start of the joined path. -/
def Aligned (workPath : List Char) (entry : Path) : Prop :=
  if entry = [] then
    slashes workPath = slashes (Lexical.clean workPath).text ∨
      (dropDrive (slashes (Lexical.clean workPath).text)).dropWhile (· = '/') ∈ [[], ['.']]
  else
    slashes workPath ++ ['/'] = slashes (Lexical.clean workPath).lead ∨
      slashes workPath = slashes (Lexical.clean workPath).lead ∨
      (dropDrive (slashes (Lexical.clean workPath).lead)).all (· = '/') = true ∧
        ¬slashes workPath <+: slashes ((Lexical.clean workPath).lead ++ pathText entry)

def Plain (entry : Path) : Prop :=
  (slashes (pathText entry)).head? ≠ some '/' ∧ hasDrive (slashes (pathText entry)) = false

@[simp] theorem hasDrive_slash (text : List Char) : hasDrive ('/' :: text) = false := by
  cases text with
  | nil => rfl
  | cons second rest =>
    unfold hasDrive
    split
    next letter rest same =>
      cases same
      rfl
    · rfl

private theorem dropDrive_append (slash : front = [] ∨ ∃ init, front = init ++ ['/'])
    (driveless : hasDrive back = false) : dropDrive (front ++ back) = dropDrive front ++ back := by
  obtain rfl | ⟨init, rfl⟩ := slash
  · rw [nil_append, dropDrive, driveless]
    rfl
  · cases init with
    | nil =>
      unfold dropDrive
      rw [nil_append, singleton_append, hasDrive_slash]
      rfl
    | cons first rest =>
      -- both questions are about the first two letters, which are in front
      obtain ⟨second, later, same⟩ : ∃ second later, rest ++ ['/'] = second :: later :=
        exists_cons_of_ne_nil (by simp)
      rw [cons_append, same]
      have question : hasDrive (first :: second :: later ++ back) =
          hasDrive (first :: second :: later) := by
        unfold hasDrive
        split
        next same =>
          cases same
          rfl
        next other =>
          split
          next same =>
            cases same
            exact absurd rfl (other _ _)
          · rfl
      unfold dropDrive
      rw [question]
      split
      · rfl
      · rfl

private theorem dropWhile_slash_eq_self {text : List Char} (relative : text.head? ≠ some '/') :
    text.dropWhile (· = '/') = text := by
  cases text with
  | nil => rfl
  | cons first rest =>
    apply dropWhile_cons_of_neg
    simpa using relative

section

variable (nonempty : entry ≠ []) (relative : entry.head? ≠ some '/')
variable (driveless : hasDrive entry = false)

include nonempty relative driveless in
private theorem withoutDrive_append (slash : front = [] ∨ ∃ init, front = init ++ ['/']) :
    withoutDrive (front ++ entry) = (dropDrive front).dropWhile (· = '/') ++ entry := by
  have kept : (dropDrive front ++ entry).dropWhile (· = '/') =
      (dropDrive front).dropWhile (· = '/') ++ entry := by
    rw [dropWhile_append]
    split
    next gone =>
      rw [isEmpty_iff.mp gone, dropWhile_slash_eq_self relative]
      rfl
    · rfl
  unfold withoutDrive
  rw [dropDrive_append slash driveless]
  rw [kept, if_neg (by simp [nonempty])]

private theorem length_le_of_withoutDrive (named : entry ≠ ['.'])
    (same : withoutDrive rel = entry) :
    entry.length ≤ rel.length := by
  unfold withoutDrive at same
  dsimp only at same
  split at same
  · exact absurd same.symm named
  · have trimmed := (dropWhile_suffix (l := dropDrive rel) (· = '/')).length_le
    have dropped : (dropDrive rel).length ≤ rel.length := by
      unfold dropDrive
      split
      · rw [length_drop]
        omega
      · exact Nat.le_refl _
    rw [← same]
    omega

include nonempty relative driveless in
/-- The entry is what is left exactly when the work path ends where the entry starts or at the
slash before it, or when it is no start and only a drive and slashes are before the entry. -/
private theorem withoutDrive_trimPrefix_eq_iff (slash : front = [] ∨ ∃ init, front = init ++ ['/'])
    (short : front.length ≤ work.length + 1) (named : entry ≠ ['.']) :
    withoutDrive (trimPrefix work (front ++ entry)) = entry ↔
      work ++ ['/'] = front ∨ work = front ∨
        (dropDrive front).all (· = '/') = true ∧ ¬work <+: front ++ entry := by
  have whole (front : List Char) (slash : front = [] ∨ ∃ init, front = init ++ ['/']) :
      withoutDrive (front ++ entry) = entry ↔ (dropDrive front).all (· = '/') = true := by
    rw [withoutDrive_append nonempty relative driveless slash, append_left_eq_self,
      dropWhile_eq_nil_iff, all_eq_true]
  by_cases starts : work <+: front ++ entry
  · obtain ⟨rel, split⟩ := starts
    have trimmed : trimPrefix work (front ++ entry) = rel := by simp [← split]
    have started : work <+: front ++ entry := ⟨rel, split⟩
    rw [trimmed]
    cases append_eq_append_iff.mp split with
    | inl shorter =>
      obtain ⟨gap, rfl, rfl⟩ := shorter
      rw [length_append] at short
      cases gap with
      | nil => exact iff_of_true ((whole [] (.inl rfl)).mpr rfl) (.inr (.inl (by simp)))
      | cons last rest =>
        rw [length_cons] at short
        have single : rest = [] := length_eq_zero_iff.mp (by omega)
        subst single
        obtain ⟨init, same⟩ := slash.resolve_left (by simp)
        obtain ⟨_, ends⟩ := append_inj' same rfl
        rw [ends]
        exact iff_of_true ((whole ['/'] (.inr ⟨[], rfl⟩)).mpr rfl) (.inl rfl)
    | inr longer =>
      obtain ⟨cut, rfl, rfl⟩ := longer
      by_cases none : cut = []
      · subst none
        exact iff_of_true ((whole [] (.inl rfl)).mpr rfl) (.inr (.inl (by simp)))
      · have some : 0 < cut.length := length_pos_of_ne_nil none
        apply iff_of_false
        · intro same
          have bound := length_le_of_withoutDrive named same
          rw [length_append] at bound
          omega
        · intro aligned
          obtain same | same | blank := aligned
          · have length := congrArg length same
            simp only [length_append] at length
            omega
          · have length := congrArg length same
            rw [length_append] at length
            omega
          · exact blank.2 started
  · rw [trimPrefix_of_not starts, whole front slash]
    constructor
    · exact fun blank => .inr (.inr ⟨blank, starts⟩)
    · intro aligned
      obtain rfl | rfl | blank := aligned
      · exact absurd ⟨['/'] ++ entry, by simp⟩ starts
      · exact absurd (prefix_append work entry) starts
      · exact blank.1

end

theorem isRelativeServerPath_cases {dir : List Char}
    (accepted : isRelativeServerPath (String.ofList dir) = true) :
    dir ≠ [] ∧ dir.head? ≠ some '/' ∧ ['.', '.'] ∉ segments dir := by
  unfold isRelativeServerPath at accepted
  rw [String.toList_ofList] at accepted
  dsimp only at accepted
  split at accepted
  · cases accepted
  · cases accepted
  · cases accepted
  next first rest slash _ =>
    split at accepted
    · cases accepted
    · refine ⟨cons_ne_nil _ _, ?_, ?_⟩
      · intro same
        cases Option.some.inj same
        exact slash rfl
      · intro outside
        rw [Bool.not_eq_true', contains_eq_mem, decide_eq_false_iff_not] at accepted
        exact accepted outside

private theorem not_mem_segments_of_validatePath (accepted : validatePath path = .ok ()) :
    ['.', '.'] ∉ segments path := by
  unfold validatePath at accepted
  split at accepted
  next nothing =>
    subst nothing
    decide
  split at accepted
  · cases accepted
  split at accepted
  · cases accepted
  next free =>
    have rel : ['.', '.'] ∉ (trimPrefix ['/'] path).splitOn '/' := by
      dsimp only at accepted
      split at accepted
      next nothing =>
        rw [nothing]
        decide
      · split at accepted
        · cases accepted
        next inside => exact inside
    rw [segments, slashes_eq_self free]
    by_cases rooted : ['/'] <+: path
    · obtain ⟨rest, rfl⟩ := rooted
      rw [show ['/'] ++ rest = [] ++ '/' :: rest from rfl, splitOn_append_cons_self,
        mem_append, not_or]
      exact ⟨by decide, rel⟩
    · rw [trimPrefix_of_not rooted] at rel
      exact rel

private theorem not_mem_segments_of_validateFilename (accepted : validateFilename name = .ok ()) :
    ['.', '.'] ∉ segments name := by
  unfold validateFilename at accepted
  split at accepted
  · cases accepted
  split at accepted
  · cases accepted
  next traversal =>
    split at accepted
    · cases accepted
    next separators =>
      rw [not_or] at separators
      have single : name.splitOn '/' = [name] := by
        apply splitOnP_eq_singleton
        intro char inside
        refine beq_eq_false_iff_ne.mpr fun slash => separators.1 ?_
        exact slash ▸ inside
      rw [segments, slashes_eq_self separators.2, single, mem_singleton]
      intro same
      subst same
      exact traversal (by decide)

section

variable {dir path name : List Char}

theorem Accepted.inside (accepted : Accepted dir path name) :
    ['.', '.'] ∉ segments (entryText dir path name) := by
  unfold entryText
  rw [segments_intercalate (cons_ne_nil _ _)]
  simp only [flatMap_cons, flatMap_nil, append_nil, mem_append, not_or]
  exact ⟨(isRelativeServerPath_cases accepted.dir).2.2,
    not_mem_segments_of_validatePath accepted.path,
    not_mem_segments_of_validateFilename accepted.name⟩

theorem Accepted.joinPaths_eq (accepted : Accepted dir path name) :
    joinPaths [dir, path, name] = ((Lexical.clean []).below (entryPath dir path name)).text := by
  obtain ⟨nonempty, relative, _⟩ := isRelativeServerPath_cases accepted.dir
  have inside := not_mem_splitOn_of_segments accepted.inside
  have kept : [dir, path, name].dropWhile isEmpty = [dir, path, name] := by
    simpa using nonempty
  have head : (entryText dir path name).head? = dir.head? := by
    exact head?_append_of_ne_nil _ nonempty
  have start : ((entryText dir path name).head? == some '/') = false := by
    rw [head]
    exact beq_eq_false_iff_ne.mpr relative
  unfold joinPaths
  rw [kept]
  change (clean (entryText dir path name)).text = _
  rw [clean, start, foldl_push_of_inside inside]
  rfl

theorem Accepted.targetPath_eq (accepted : Accepted dir path name) (workPath : List Char) :
    targetPath workPath dir path name =
      ((Lexical.clean workPath).below (entryPath dir path name)).text := by
  by_cases nothing : workPath = []
  · subst nothing
    exact accepted.joinPaths_eq
  · exact joinPaths_cons nothing (cons_ne_nil _ _) rfl
      (not_mem_splitOn_of_segments accepted.inside)

private theorem slashes_pathText_ne (nonempty : entry ≠ []) :
    slashes (pathText entry) ≠ [] ∧ slashes (pathText entry) ≠ ['.'] := by
  obtain ⟨last, parent, rfl⟩ := exists_cons_of_ne_nil nonempty
  constructor
  · simp [slashes, pathText, last.isName.1]
  · intro dot
    have text : pathText (last :: parent) = ['.'] := by
      obtain ⟨char, same, isDot⟩ := map_eq_singleton_iff.mp dot
      rw [same]
      split at isDot
      · cases isDot
      · rw [isDot]
    have split := splitOn_pathText nonempty
    rw [text] at split
    have named : last.text ∈ [['.']] := by
      rw [show [['.']] = ['.'].splitOn '/' from rfl, split]
      simp
    exact last.isName.2.2.1 (mem_singleton.mp named)

private theorem slashes_lead (form : Lexical) :
    slashes form.lead = [] ∨ ∃ init, slashes form.lead = init ++ ['/'] := by
  obtain nothing | ⟨front, same⟩ := form.lead_eq_nil_or_concat
  · exact .inl (by rw [nothing]; rfl)
  · exact .inr ⟨slashes front, by rw [same, slashes_append]; rfl⟩

private theorem withoutDrive_eq_dot_iff (rel : List Char) :
    withoutDrive rel = ['.'] ↔ (dropDrive rel).dropWhile (· = '/') ∈ [[], ['.']] := by
  unfold withoutDrive
  dsimp only
  split
  next nothing => simp [nothing]
  next something => simp [something]

private theorem Accepted.stripped_iff_of_root (accepted : Accepted dir path name)
    (workPath : List Char) (root : entryPath dir path name = []) :
    Stripped workPath dir path name ↔
      slashes workPath = slashes (Lexical.clean workPath).text ∨
        (dropDrive (slashes (Lexical.clean workPath).text)).dropWhile (· = '/') ∈ [[], ['.']] := by
  have target : targetPath workPath dir path name = (clean workPath).text := by
    rw [accepted.targetPath_eq, root]
    rfl
  have below : slashes (joinPaths [dir, path, name]) = ['.'] := by
    rw [accepted.joinPaths_eq, root]
    rfl
  have only : Stripped workPath dir path name ↔
      stripWorkPath workPath (clean workPath).text = ['.'] := by
    constructor
    · intro stripped
      rw [← target, ← below]
      exact stripped.cleaned
    · intro dot
      rw [← target] at dot
      refine ⟨dot.trans below.symm, ?_, ?_, ?_⟩
      · rw [dot]
        decide
      · rw [dot]
        rfl
      · rw [dot]
        decide
  rw [only, stripWorkPath]
  by_cases starts : slashes workPath <+: slashes (clean workPath).text
  · by_cases nothing : workPath = []
    · subst nothing
      exact iff_of_true rfl (.inr (by decide))
    · -- cleaning makes no text longer, so that the start is the whole
      have short := length_text_clean_le nothing
      have whole : slashes workPath = slashes (clean workPath).text := by
        apply starts.eq_of_length_le
        simpa [slashes] using short
      rw [← whole]
      refine iff_of_true ?_ (.inl rfl)
      have trimmed := trimPrefix_append (slashes workPath) []
      rw [append_nil] at trimmed
      rw [trimmed]
      rfl
  · rw [trimPrefix_of_not starts, withoutDrive_eq_dot_iff]
    refine (or_iff_right ?_).symm
    intro same
    exact starts (same ▸ prefix_refl _)

private theorem Accepted.stripped_iff_of_entry (accepted : Accepted dir path name)
    (workPath : List Char) (nonempty : entryPath dir path name ≠ []) :
    Stripped workPath dir path name ↔
      Plain (entryPath dir path name) ∧
        (slashes workPath ++ ['/'] = slashes (Lexical.clean workPath).lead ∨
          slashes workPath = slashes (Lexical.clean workPath).lead ∨
          (dropDrive (slashes (Lexical.clean workPath).lead)).all (· = '/') = true ∧
            ¬slashes workPath <+:
              slashes ((Lexical.clean workPath).lead ++ pathText (entryPath dir path name))) := by
  have target : stripWorkPath workPath (targetPath workPath dir path name) =
      withoutDrive (trimPrefix (slashes workPath)
        (slashes (clean workPath).lead ++ slashes (pathText (entryPath dir path name)))) := by
    rw [stripWorkPath, accepted.targetPath_eq, text_below _ nonempty, slashes_append]
  have below : slashes (joinPaths [dir, path, name]) =
      slashes (pathText (entryPath dir path name)) := by
    rw [accepted.joinPaths_eq, text_below _ nonempty]
    rfl
  have short : (slashes (clean workPath).lead).length ≤ (slashes workPath).length + 1 := by
    have bound := length_lead_clean_le workPath
    simpa [slashes] using bound
  obtain ⟨some, named⟩ := slashes_pathText_ne nonempty
  have alone (plain : Plain (entryPath dir path name)) :=
    withoutDrive_trimPrefix_eq_iff some plain.1 plain.2 (slashes_lead _) short named
  rw [slashes_append]
  constructor
  · intro stripped
    have same := stripped.cleaned.trans below
    have plain : Plain (entryPath dir path name) :=
      ⟨same ▸ stripped.relative, same ▸ stripped.driveless⟩
    exact ⟨plain, (alone plain).mp (target.symm.trans same)⟩
  · intro ⟨plain, aligned⟩
    have same := target.trans ((alone plain).mpr aligned)
    refine ⟨same.trans below.symm, ?_, ?_, ?_⟩
    · rw [same]
      exact plain.1
    · rw [same]
      exact plain.2
    · rw [same]
      intro outside
      exact accepted.inside (segments_pathText_subset nonempty
        (fun _ member => mem_of_mem_namesOf member) outside)

end

end ShadowPanel.Daemon
