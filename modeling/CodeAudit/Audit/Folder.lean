/-
  CodeAudit.Audit.Folder
  ──────────────────────
  **FILES ON A DISK.**

  A project is looked at in two ways: all files below its directory are walked
  (`Folder`), or the entries of the directory itself are listed (`Entry`).  In
  both cases the order is the disk's own (`Disk`), and no part of an audit may
  rely on it.
-/
import CodeAudit.Text.Blank

namespace CodeAudit.Audit

/-! ## §1. Files and entries. -/

/-- A file of a project. -/
structure SourceFile where
  /-- The path inside the project. -/
  path : String
  content : List UInt8

/-- The files of a project in the order in which they are walked.  No two have one
path. -/
structure Folder where
  files : List SourceFile
  distinct : (files.map (·.path)).Nodup

/-- A project of one file. -/
def Folder.single (f : SourceFile) : Folder := ⟨[f], List.nodup_cons.mpr ⟨List.not_mem_nil, .nil⟩⟩

/-- What a directory holds under a name. -/
inductive Entry where
  | file (content : List UInt8)
  | directory

/-- The entry of a file in the directory in which it lies. -/
def SourceFile.entry (f : SourceFile) : String × Entry := (f.path, .file f.content)

/-! ## §2. Disks. -/

/-- A disk lists files in an order of its own. -/
structure Disk where
  order : List SourceFile → List SourceFile
  perm : ∀ files, (order files).Perm files

/-- A disk that lists files as they were written. -/
def Disk.asWritten : Disk := ⟨fun files => files, fun _ => .refl _⟩

/-- The files that no later one of the same path replaces. -/
def unreplaced : List SourceFile → List SourceFile
  | [] => []
  | f :: rest => if f.path ∈ rest.map (·.path) then unreplaced rest else f :: unreplaced rest

theorem sublist_unreplaced (files : List SourceFile) : (unreplaced files).Sublist files := by
  induction files with
  | nil => exact .slnil
  | cons f rest ih =>
      rw [unreplaced]
      split
      · exact ih.cons f
      · exact ih.cons_cons f

theorem nodup_unreplaced (files : List SourceFile) : ((unreplaced files).map (·.path)).Nodup := by
  induction files with
  | nil => exact .nil
  | cons f rest ih =>
      rw [unreplaced]
      split
      · exact ih
      · rename_i hlast
        have hkept : f.path ∉ (unreplaced rest).map (·.path) := fun hmem =>
          hlast (((sublist_unreplaced rest).map _).subset hmem)
        exact List.nodup_cons.mpr ⟨hkept, ih⟩

/-- Files that were written one after the other: of two with one path the later
counts. -/
def Folder.written (disk : Disk) (files : List SourceFile) : Folder where
  files := disk.order (unreplaced files)
  distinct := ((disk.perm _).map _).nodup_iff.mpr (nodup_unreplaced files)

/-! ## §3. A disk that lists by name. -/

/-- The components of a path. -/
def components (path : String) : List String :=
  (Text.cutAt (· == '/') path.toList).map String.ofList

/-- The files of a directory by name, then its directories by name. -/
def walksBefore : List String → List String → Bool
  | [], _ => true
  | _, [] => false
  | [a], [b] => a ≤ b
  | [_], _ => true
  | _, [_] => false
  | a :: as, b :: bs => if a == b then walksBefore as bs else a ≤ b

/-- A disk that lists by name. -/
def Disk.byName : Disk where
  order files := files.mergeSort fun a b => walksBefore (components a.path) (components b.path)
  perm _ := List.mergeSort_perm _ _

end CodeAudit.Audit
