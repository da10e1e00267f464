import ShadowPanel.Data.Paths

namespace ShadowPanel.Data

open List

/-! The texts that cleaning and joining give, and slashes in place of backslashes. -/

namespace Lexical

def lead (form : Lexical) : List Char :=
  (if form.rooted then ['/'] else []) ++ (replicate form.ups ['.', '.', '/']).flatten ++
    dirText form.names

def text (form : Lexical) : List Char :=
  if form.lead = [] then ['.'] else if form.lead = ['/'] then ['/'] else form.lead.dropLast

def below (form : Lexical) (path : Path) : Lexical := { form with names := path ++ form.names }

end Lexical

/-- `filepath.Join`. -/
def joinPaths (elements : List (List Char)) : List Char :=
  match elements.dropWhile isEmpty with
  | [] => []
  | first :: rest => (Lexical.clean (['/'].intercalate (first :: rest))).text

@[simp] theorem dirText_append (first second : Path) :
    dirText (first ++ second) = dirText second ++ dirText first := by
  induction first with
  | nil => simp [dirText]
  | cons name parent ih => simp [dirText, ih]

@[simp]
theorem trimPrefix_pathText (path : Path) : trimPrefix ['/'] (pathText path) = pathText path := by
  apply trimPrefix_of_not
  intro starts
  cases path with
  | nil => simp [pathText] at starts
  | cons name parent =>
    have first : name.text.head? ≠ some '/' :=
      fun slash => name.slash_free (mem_of_head? slash)
    apply head?_dirText_append parent _ first
    obtain ⟨rest, spelled⟩ := starts
    rw [← pathText, ← spelled]
    rfl

theorem pathText_ne_nil (nonempty : path ≠ []) : pathText path ≠ [] := by
  obtain ⟨name, parent, rfl⟩ := exists_cons_of_ne_nil nonempty
  simp [pathText, name.isName.1]

theorem dirText_eq (nonempty : path ≠ []) : dirText path = pathText path ++ ['/'] := by
  obtain ⟨name, parent, rfl⟩ := exists_cons_of_ne_nil nonempty
  exact dirText_cons name parent

theorem pathText_append (nonempty : path ≠ []) (dir : Path) :
    pathText (path ++ dir) = dirText dir ++ pathText path := by
  obtain ⟨name, parent, rfl⟩ := exists_cons_of_ne_nil nonempty
  simp [pathText]

theorem pathText_ne_dirText (nonempty : path ≠ []) (other : Path) :
    pathText path ≠ dirText other := by
  obtain ⟨name, parent, rfl⟩ := exists_cons_of_ne_nil nonempty
  intro same
  rw [← append_nil (dirText other)] at same
  exact name.isName.1 (dirText_append_injective name.slash_free not_mem_nil same).2

theorem dropLast_dirText (nonempty : path ≠ []) : (dirText path).dropLast = pathText path := by
  rw [dirText_eq nonempty, dropLast_concat]

theorem splitOn_pathText (nonempty : path ≠ []) :
    (pathText path).splitOn '/' = path.reverse.map Name.text := by
  obtain ⟨name, parent, rfl⟩ := exists_cons_of_ne_nil nonempty
  have single : name.text.splitOn '/' = [name.text] := by
    apply splitOnP_eq_singleton
    intro char inside
    refine beq_eq_false_iff_ne.mpr fun slash => name.slash_free ?_
    exact slash ▸ inside
  rw [pathText, splitOn_dirText, single, reverse_cons, map_append]
  rfl

theorem two_le_length_dirText (nonempty : path ≠ []) : 2 ≤ (dirText path).length := by
  obtain ⟨name, parent, rfl⟩ := exists_cons_of_ne_nil nonempty
  have named : 0 < name.text.length := length_pos_of_ne_nil name.isName.1
  rw [dirText, length_append, length_append, length_singleton]
  omega

namespace Lexical

variable (form : Lexical)

@[simp] theorem lead_below (path : Path) : (form.below path).lead = form.lead ++ dirText path := by
  unfold lead below
  rw [dirText_append, append_assoc _ _ (dirText path)]

theorem text_below (nonempty : path ≠ []) :
    (form.below path).text = form.lead ++ pathText path := by
  have long := two_le_length_dirText nonempty
  have some : dirText path ≠ [] := ne_nil_of_length_pos (by omega)
  unfold text
  rw [lead_below, if_neg (by simp [some]), if_neg]
  · rw [dropLast_append_of_ne_nil some, dropLast_dirText nonempty]
  · intro single
    have length := congrArg length single
    rw [length_append, length_singleton] at length
    omega

theorem lead_eq_nil_or_concat : form.lead = [] ∨ ∃ front, form.lead = front ++ ['/'] := by
  obtain ⟨rooted, ups, names⟩ := form
  unfold lead
  cases names with
  | cons name parent =>
    refine .inr ⟨(if rooted then ['/'] else []) ++
      ((replicate ups ['.', '.', '/']).flatten ++ (dirText parent ++ name.text)), ?_⟩
    simp [dirText]
  | nil =>
    rw [dirText]
    cases ups with
    | succ ups =>
      refine .inr ⟨(if rooted then ['/'] else []) ++
        ((replicate ups ['.', '.', '/']).flatten ++ ['.', '.']), ?_⟩
      simp [replicate_succ']
    | zero =>
      cases rooted with
      | false => exact .inl rfl
      | true => exact .inr ⟨[], rfl⟩

theorem lead_cases : form.lead = [] ∧ form.text = ['.'] ∨ form.lead = ['/'] ∧ form.text = ['/'] ∨
    form.lead = form.text ++ ['/'] := by
  unfold text
  split
  next nothing => exact .inl ⟨nothing, rfl⟩
  next something =>
    split
    next root => exact .inr (.inl ⟨root, rfl⟩)
    · obtain ⟨front, same⟩ := form.lead_eq_nil_or_concat.resolve_left something
      refine .inr (.inr ?_)
      rw [same, dropLast_concat]

theorem clean_append_cons (nonempty : front ≠ []) (back : List Char) :
    clean (front ++ '/' :: back) = (back.splitOn '/').foldl push (clean front) := by
  have head : (front ++ '/' :: back).head? = front.head? := head?_append_of_ne_nil _ nonempty
  rw [clean, clean, splitOn_append_cons_self, foldl_append, head]

def namesOf (segments : List (List Char)) : Path :=
  (segments.filterMap fun segment =>
    if isName : IsName segment then some ⟨segment, isName⟩ else none).reverse

theorem foldl_push_of_inside (inside : ['.', '.'] ∉ segments) (form : Lexical) :
    segments.foldl push form = form.below (namesOf segments) := by
  induction segments generalizing form with
  | nil => rfl
  | cons segment rest ih =>
    rw [mem_cons, not_or] at inside
    rw [foldl_cons, ih inside.2]
    unfold push namesOf
    split
    next isName => simp [below, isName]
    next other => simp [other, Ne.symm inside.1]

theorem mem_of_mem_namesOf (member : name ∈ namesOf segments) : name.text ∈ segments := by
  obtain ⟨segment, inside, picked⟩ := mem_filterMap.mp (mem_reverse.mp member)
  split at picked
  · cases picked
    exact inside
  · cases picked

theorem length_lead_push_le (segment : List Char) :
    (form.push segment).lead.length ≤ form.lead.length + segment.length + 1 := by
  unfold push
  split
  next isName =>
    have longer := form.lead_below [⟨segment, isName⟩]
    have bound : (form.below [⟨segment, isName⟩]).lead.length =
        form.lead.length + segment.length + 1 := by
      rw [longer]
      simp [dirText]
      omega
    exact Nat.le_of_eq bound
  · split
    next up =>
      split
      next name parent names =>
        have longer :
            form.lead = ({ form with names := parent } : Lexical).lead ++ dirText [name] := by
          rw [← lead_below, below, singleton_append, ← names]
        rw [longer, length_append]
        omega
      next names =>
        split
        · omega
        · rw [up]
          simp [lead]
          omega
    · omega

theorem length_lead_foldl_le (nonempty : segments ≠ []) (form : Lexical) :
    (segments.foldl push form).lead.length ≤
      form.lead.length + (['/'].intercalate segments).length + 1 := by
  induction segments generalizing form with
  | nil => exact absurd rfl nonempty
  | cons segment rest ih =>
    have first := form.length_lead_push_le segment
    cases rest with
    | nil => simpa using first
    | cons second rest =>
      have later := ih (cons_ne_nil second rest) (form.push segment)
      have longer : (['/'].intercalate (segment :: second :: rest)).length =
          segment.length + 1 + (['/'].intercalate (second :: rest)).length := by
        rw [intercalate_cons_of_ne_nil (cons_ne_nil second rest),
          length_append, length_append, length_singleton]
      rw [foldl_cons]
      omega

theorem length_lead_foldl_splitOn_le (text : List Char) (form : Lexical) :
    ((text.splitOn '/').foldl push form).lead.length ≤ form.lead.length + text.length + 1 := by
  have bound := length_lead_foldl_le (splitOnP_ne_nil (· == '/') text) form
  rw [show splitOnP (· == '/') text = text.splitOn '/' from rfl,
    intercalate_splitOn] at bound
  exact bound

theorem length_lead_clean_le (text : List Char) : (clean text).lead.length ≤ text.length + 1 := by
  unfold clean
  cases rooted : text.head? == some '/' with
  | false =>
    have bound := length_lead_foldl_splitOn_le text ⟨false, 0, []⟩
    have start : (⟨false, 0, []⟩ : Lexical).lead.length = 0 := rfl
    omega
  | true =>
    obtain ⟨rest, same⟩ : ∃ rest, text = '/' :: rest := by
      rw [beq_iff_eq] at rooted
      exact ⟨text.tail, (cons_head?_tail rooted).symm⟩
    subst same
    have split : ('/' :: rest).splitOn '/' = [] :: rest.splitOn '/' :=
      splitOn_append_cons_self [] rest
    have bound := length_lead_foldl_splitOn_le rest ⟨true, 0, []⟩
    have start : (⟨true, 0, []⟩ : Lexical).lead.length = 1 := rfl
    have nothing : (⟨true, 0, []⟩ : Lexical).push [] = ⟨true, 0, []⟩ := by simp [push, IsName]
    rw [split, foldl_cons, nothing, length_cons]
    omega

theorem length_text_clean_le {text : List Char} (nonempty : text ≠ []) :
    (clean text).text.length ≤ text.length := by
  have bound := length_lead_clean_le text
  have some : 0 < text.length := length_pos_of_ne_nil nonempty
  obtain ⟨_, dot⟩ | ⟨_, root⟩ | longer := (clean text).lead_cases
  · rw [dot]
    exact some
  · rw [root]
    exact some
  · rw [longer, length_append, length_singleton] at bound
    omega

end Lexical

theorem joinPaths_cons (nonempty : front ≠ []) (some : rest ≠ [])
    (joined : ['/'].intercalate rest = back) (inside : ['.', '.'] ∉ back.splitOn '/') :
    joinPaths (front :: rest) =
      ((Lexical.clean front).below (Lexical.namesOf (back.splitOn '/'))).text := by
  have whole : ['/'].intercalate (front :: rest) = front ++ '/' :: back := by
    rw [intercalate_cons_of_ne_nil some, joined, append_assoc]
    rfl
  have kept : (front :: rest).dropWhile isEmpty = front :: rest := by
    simpa using nonempty
  unfold joinPaths
  rw [kept]
  dsimp only
  rw [whole, Lexical.clean_append_cons nonempty, Lexical.foldl_push_of_inside inside]

theorem joinPaths_pair (some : front ≠ []) (back : List Char) :
    joinPaths [front, back] = (Lexical.clean (front ++ '/' :: back)).text := by
  simp [joinPaths, some]

theorem joinPaths_pathText (some : front ≠ []) (free : '/' ∉ front) (named : front ≠ ['.'])
    (nonempty : path ≠ []) : joinPaths [front, pathText path] = front ++ '/' :: pathText path := by
  have single : front.splitOn '/' = [front] := by
    apply splitOnP_eq_singleton
    intro char inside
    exact beq_eq_false_iff_ne.mpr fun slash => free (slash ▸ inside)
  have relative : front.head? ≠ Option.some '/' := fun slash => free (mem_of_head? slash)
  have lead : (Lexical.clean front).lead = front ++ ['/'] := by
    by_cases up : front = ['.', '.']
    · subst up
      decide
    · have isName : IsName front := ⟨some, free, named, up⟩
      simp [Lexical.clean, single, Lexical.push, isName, Lexical.lead, dirText,
        beq_eq_false_iff_ne.mpr relative]
  rw [joinPaths_pair some, Lexical.clean_append_cons some, splitOn_pathText nonempty,
    Lexical.foldl_push_names]
  change ((Lexical.clean front).below path).text = _
  rw [Lexical.text_below _ nonempty, lead]
  simp

def slashes (text : List Char) : List Char := text.map fun char => if char = '\\' then '/' else char

def segments (text : List Char) : List (List Char) := (slashes text).splitOn '/'

theorem slashes_eq_self (free : '\\' ∉ text) : slashes text = text := by
  refine (map_congr_left ?_).trans (map_id text)
  intro char inside
  refine if_neg ?_
  intro same
  exact free (same ▸ inside)

@[simp] theorem slashes_append (front back : List Char) :
    slashes (front ++ back) = slashes front ++ slashes back :=
  map_append

theorem segments_append_cons (front back : List Char) :
    segments (front ++ '/' :: back) = segments front ++ segments back := by
  unfold segments
  rw [slashes_append]
  exact splitOn_append_cons_self _ _

theorem segments_intercalate (nonempty : texts ≠ []) :
    segments (['/'].intercalate texts) = texts.flatMap segments := by
  induction texts with
  | nil => exact absurd rfl nonempty
  | cons text rest ih =>
    cases rest with
    | nil => simp
    | cons second rest =>
      have whole : ['/'].intercalate (text :: second :: rest) =
          text ++ '/' :: ['/'].intercalate (second :: rest) := by
        rfl
      rw [whole, segments_append_cons, ih (cons_ne_nil second rest), ← flatMap_cons]

theorem segments_eq_flatMap (text : List Char) :
    segments text = (text.splitOn '/').flatMap segments := by
  have some : text.splitOn '/' ≠ [] := splitOnP_ne_nil _ text
  rw [← segments_intercalate some, intercalate_splitOn]

theorem not_mem_splitOn_of_segments (inside : ['.', '.'] ∉ segments text) :
    ['.', '.'] ∉ text.splitOn '/' := by
  intro member
  apply inside
  rw [segments_eq_flatMap]
  exact mem_flatMap.mpr ⟨_, member, by decide⟩

theorem segments_pathText_subset (nonempty : path ≠ [])
    (own : ∀ name ∈ path, name.text ∈ text.splitOn '/') :
    segments (pathText path) ⊆ segments text := by
  intro segment member
  rw [segments_eq_flatMap, splitOn_pathText nonempty] at member
  obtain ⟨part, named, inside⟩ := mem_flatMap.mp member
  obtain ⟨name, present, rfl⟩ := mem_map.mp named
  rw [segments_eq_flatMap text]
  exact mem_flatMap.mpr ⟨name.text, own name (mem_reverse.mp present), inside⟩

end ShadowPanel.Data
