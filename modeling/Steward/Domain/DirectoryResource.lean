import Steward.Lib.Text

/-!
# Registered host directories

`internal/directoryresource`: a task binds registered directories of one worker, each for reading or
for writing. Two bindings conflict when one of them writes and they reach the same files, by path or
by the inodes above them.
-/

namespace Steward

inductive DirectoryAccess
  | unset
  | readOnly
  | readWrite
deriving DecidableEq

structure DirectoryRegistration where
  (workerID resourceID revision path : String := "")
  writable : Bool := false
deriving DecidableEq

/-- An inode, told apart by its birth time from an earlier one of the same number. -/
structure DirectoryObject where
  (device inode : Nat := 0)
  birthSeconds : Int := 0
  birthNanos : Nat := 0
deriving DecidableEq

structure DirectoryIdentity where
  registration : DirectoryRegistration := {}
  object : DirectoryObject := {}
  mountID : Nat := 0
  ancestors : List DirectoryObject := []
deriving DecidableEq

structure DirectoryBinding where
  identity : DirectoryIdentity := {}
  access : DirectoryAccess := .unset
deriving DecidableEq

/-- Whether a path is absolute, cleaned, and not the root: no component is empty, `.` or `..`. -/
def canonicalPath (path : String) : Bool :=
  match path.toList.splitOn '/' with
  | [] :: first :: rest => (first :: rest).all fun c => c ∉ [[], ['.'], ['.', '.']]
  | _ => false

def DirectoryRegistration.refusal (r : DirectoryRegistration) : Option String :=
  if Text.blank r.workerID ∨ Text.blank r.resourceID ∨ Text.blank r.revision then
    some "directory resource requires worker, resource and revision"
  else if !canonicalPath r.path then
    some "directory resource requires a canonical absolute non-root path"
  else none

def DirectoryBinding.refusal (b : DirectoryBinding) : Option String :=
  if b.access = .unset then some "directory binding access is unresolved"
  else if let some text := b.identity.registration.refusal then some text
  else if b.identity.object.inode = 0 ∨ b.identity.mountID = 0 ∨ b.identity.ancestors = [] then
    some "directory resource identity evidence is incomplete"
  else if b.access = .readWrite ∧ b.identity.registration.writable = false then
    some "registered directory does not permit writable access"
  else if b.identity.ancestors.any fun a => a.inode = 0 then
    some "directory ancestor identity is incomplete"
  else none

def pathsOverlap (a b : String) : Bool :=
  a = b ∨ (b ++ "/").toList <+: a.toList ∨ (a ++ "/").toList <+: b.toList

/-- Whether two bindings may not be held together: on one worker, one of them writing, over the same
files. -/
def DirectoryBinding.conflicts (a b : DirectoryBinding) : Bool :=
  a.identity.registration.workerID = b.identity.registration.workerID ∧
    ¬(a.access = .readOnly ∧ b.access = .readOnly) ∧
    (pathsOverlap a.identity.registration.path b.identity.registration.path ∨
      a.identity.object = b.identity.object ∨
      b.identity.object ∈ a.identity.ancestors ∨
      a.identity.object ∈ b.identity.ancestors)

end Steward
