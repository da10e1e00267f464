import ShadowPanel.Data.Paths
import ShadowPanel.Data.Table

namespace ShadowPanel.Files

open Data

universe u v

/-- A stream, as the one who reads it to its end meets it: what it yields, and
whether it breaks off with an error after that. -/
structure Reader (α : Type u) where
  content : α
  fails : Bool

structure StreamFileManager (σ : Type u) (α : Type v) where
  read : σ → Path → Option α
  write : σ → Path → α → Option σ
  delete : σ → Path → Option σ
  existsAt : σ → Path → Bool
  /-- The directory is named by its text, which ends in a slash. -/
  list : σ → Path → Option (List (List Char))
  readStream : σ → Path → Option α
  writeStream : σ → Path → Reader α → σ × Bool
  deleteByPrefix : σ → List Char → Option σ

structure InMemoryFileManager (α : Type u) where files : Table (List Char) α

namespace InMemoryFileManager

variable {α : Type u}

def empty : InMemoryFileManager α := ⟨∅⟩

section

variable (fm : InMemoryFileManager α)

def read (path : List Char) : Option α := fm.files.lookup path

def write (path : List Char) (data : α) : InMemoryFileManager α :=
  ⟨fm.files.insert path data⟩

def delete (path : List Char) : InMemoryFileManager α :=
  ⟨fm.files.keep (· ≠ path)⟩

def existsAt (path : List Char) : Bool := (fm.read path).isSome

def list (dir : List Char) : List (List Char) :=
  fm.files.keys.filter dir.isPrefixOf

def writeStream (path : List Char) (data : Reader α) : InMemoryFileManager α × Bool :=
  if data.fails then (fm, false) else (fm.write path data.content, true)

def deleteByPrefix (start : List Char) : InMemoryFileManager α :=
  ⟨fm.files.keep fun path => !start.isPrefixOf path⟩

end

def manager : StreamFileManager (InMemoryFileManager α) α where
  read fm path := fm.read (pathText path)
  write fm path data := some (fm.write (pathText path) data)
  delete fm path := some (fm.delete (pathText path))
  existsAt fm path := fm.existsAt (pathText path)
  list fm dir := some (fm.list (dirText dir))
  readStream fm path := fm.read (pathText path)
  writeStream fm path data := fm.writeStream (pathText path) data
  deleteByPrefix fm start := some (fm.deleteByPrefix start)

variable (fm : InMemoryFileManager α)

theorem read_write (path other : List Char) (data : α) :
    (fm.write path data).read other = if other = path then some data else fm.read other :=
  fm.files.lookup_insert_eq path other data

theorem read_delete (path other : List Char) :
    (fm.delete path).read other = if other = path then none else fm.read other := by
  unfold delete read
  rw [Table.lookup_keep]
  by_cases same : other = path <;> simp

theorem read_deleteByPrefix (start path : List Char) :
    (fm.deleteByPrefix start).read path = if start <+: path then none else fm.read path := by
  unfold deleteByPrefix read
  rw [Table.lookup_keep]
  simp only [← List.isPrefixOf_iff_prefix]
  cases start.isPrefixOf path <;> rfl

theorem mem_list {fm : InMemoryFileManager α} :
    path ∈ fm.list dir ↔ (fm.read path).isSome = true ∧ dir <+: path := by
  unfold list read
  rw [List.mem_filter, AList.lookup_isSome, ← AList.mem_keys, List.isPrefixOf_iff_prefix]

end InMemoryFileManager

end ShadowPanel.Files
