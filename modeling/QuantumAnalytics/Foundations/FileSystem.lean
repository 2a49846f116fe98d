import Mathlib.Logic.Function.Basic

/-!
# Files with hard links

A directory maps paths to inodes and inodes to bytes. A new file gets an inode that no
path names, `link` names an inode a second time, and `unlink` forgets one name. An open
file is held by its inode, so it is written to whatever becomes of its name.
-/

namespace QuantumAnalytics

/-- A map from paths to inodes, and from inodes to bytes. -/
structure FileSystem (Path : Type) where
  /-- The inode of a path. -/
  names : Path → Option Nat
  /-- The bytes of an inode. -/
  content : Nat → List UInt8
  /-- An inode from which on none is in use. -/
  fresh : Nat

namespace FileSystem

variable {Path : Type}

/-- The bytes that a path names. -/
def read? (files : FileSystem Path) (path : Path) : Option (List UInt8) :=
  (files.names path).map files.content

/-- Bytes are written at the end of an open file. -/
def append (files : FileSystem Path) (inode : Nat) (bytes : List UInt8) : FileSystem Path :=
  { files with content := Function.update files.content inode (files.content inode ++ bytes) }

/-- Inodes that are named are in use. -/
def Allocated (files : FileSystem Path) : Prop :=
  ∀ path inode, files.names path = some inode → inode < files.fresh

section Operations

variable [DecidableEq Path] (files : FileSystem Path)

/-- A new empty file under a path. -/
def create (path : Path) : FileSystem Path where
  names := Function.update files.names path (some files.fresh)
  content := Function.update files.content files.fresh []
  fresh := files.fresh + 1

/-- A second path for an inode. -/
def link (inode : Nat) (path : Path) : FileSystem Path :=
  { files with names := Function.update files.names path (some inode) }

/-- A path is forgotten. -/
def unlink (path : Path) : FileSystem Path :=
  { files with names := Function.update files.names path none }

end Operations

section Append

variable {files : FileSystem Path} {other : Path} {inode : Nat} {bytes : List UInt8}

@[simp] theorem names_append : (files.append inode bytes).names = files.names := rfl

@[simp] theorem content_append_self :
    (files.append inode bytes).content inode = files.content inode ++ bytes :=
  Function.update_self ..

@[simp] theorem content_append_of_ne {another : Nat} (ne : another ≠ inode) :
    (files.append inode bytes).content another = files.content another :=
  Function.update_of_ne ne ..

/-- A path that does not name the written file reads as before. -/
theorem read?_append_of_ne (ne : files.names other ≠ some inode) :
    (files.append inode bytes).read? other = files.read? other := by
  unfold read?
  rw [names_append]
  cases named : files.names other with
  | none => rfl
  | some another =>
      have differs : another ≠ inode := fun same => ne (named.trans (congrArg some same))
      rw [Option.map_some, Option.map_some, content_append_of_ne differs]

theorem Allocated.append (allocated : files.Allocated) : (files.append inode bytes).Allocated :=
  allocated

end Append

variable [DecidableEq Path] {files : FileSystem Path} {path other : Path} {inode : Nat}

@[simp] theorem names_create_self : (files.create path).names path = some files.fresh :=
  Function.update_self ..

@[simp] theorem names_create_of_ne (ne : other ≠ path) :
    (files.create path).names other = files.names other := Function.update_of_ne ne ..

@[simp] theorem content_create_self : (files.create path).content files.fresh = [] :=
  Function.update_self ..

@[simp] theorem names_link_self : (files.link inode path).names path = some inode :=
  Function.update_self ..

@[simp] theorem names_link_of_ne (ne : other ≠ path) :
    (files.link inode path).names other = files.names other := Function.update_of_ne ne ..

@[simp] theorem content_link : (files.link inode path).content = files.content := rfl

@[simp] theorem names_unlink_self : (files.unlink path).names path = none :=
  Function.update_self ..

@[simp] theorem names_unlink_of_ne (ne : other ≠ path) :
    (files.unlink path).names other = files.names other := Function.update_of_ne ne ..

@[simp] theorem content_unlink : (files.unlink path).content = files.content := rfl

@[simp] theorem read?_link_of_ne (ne : other ≠ path) :
    (files.link inode path).read? other = files.read? other := by
  rw [read?, names_link_of_ne ne, content_link, read?]

@[simp] theorem read?_link_self :
    (files.link inode path).read? path = some (files.content inode) := by
  rw [read?, names_link_self, content_link, Option.map_some]

@[simp] theorem read?_unlink_of_ne (ne : other ≠ path) :
    (files.unlink path).read? other = files.read? other := by
  rw [read?, names_unlink_of_ne ne, content_unlink, read?]

namespace Allocated

theorem content_create
    (allocated : files.Allocated)
    (named : files.names other = some inode) :
    (files.create path).content inode = files.content inode :=
  Function.update_of_ne (Nat.ne_of_lt (allocated other inode named)) ..

theorem read?_create
    (allocated : files.Allocated)
    (ne : other ≠ path) : (files.create path).read? other = files.read? other := by
  unfold read?
  rw [names_create_of_ne ne]
  cases named : files.names other with
  | none => rfl
  | some another => rw [Option.map_some, Option.map_some, allocated.content_create named]

theorem create (allocated : files.Allocated) : (files.create path).Allocated := by
  intro another number named
  by_cases same : another = path
  · rw [same, names_create_self] at named
    exact Option.some.inj named ▸ Nat.lt_succ_self _
  · rw [names_create_of_ne same] at named
    exact Nat.lt_succ_of_lt (allocated another number named)

theorem link
    (allocated : files.Allocated)
    (named : files.names other = some inode) : (files.link inode path).Allocated := by
  intro another number isNamed
  by_cases same : another = path
  · rw [same, names_link_self] at isNamed
    exact Option.some.inj isNamed ▸ allocated other inode named
  · rw [names_link_of_ne same] at isNamed
    exact allocated another number isNamed

theorem unlink (allocated : files.Allocated) : (files.unlink path).Allocated := by
  intro another number named
  by_cases same : another = path
  · rw [same, names_unlink_self] at named
    cases named
  · rw [names_unlink_of_ne same] at named
    exact allocated another number named

end Allocated
end FileSystem
end QuantumAnalytics
