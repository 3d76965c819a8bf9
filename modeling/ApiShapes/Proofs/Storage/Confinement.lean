import ApiShapes.Proofs.Storage.Contents

/-!
# Changes below one directory

Work on one directory may change what lies at it or below it, and it may add the directories around
it.  `Confined` says that no more than this has happened since the start, together with what the
work relies on: nothing lies below the directory unless it is there itself.  Main statements: each
of the three changes keeps to that.
-/

namespace ApiShapes

namespace Contents

/-- Where a directory or a file lies at `root` or below it, `root` is a directory. -/
def Rooted (contents : Contents) (root : Location) : Prop :=
  ∀ place, root <+: place →
    contents.dirs place ∨ contents.files place ≠ none → contents.dirs root

/-- Outside `root` nothing is lost or changed, and only directories around `root` are new. -/
structure KeepsOutside (before : Contents) (root : Location) (after : Contents) : Prop where
  file_eq : ∀ place, ¬ root <+: place → after.files place = before.files place
  dir_kept : ∀ place, ¬ root <+: place → before.dirs place → after.dirs place
  dir_new : ∀ place, ¬ root <+: place → after.dirs place →
    before.dirs place ∨ (place ≠ [] ∧ place <+: root)

/-- Doing nothing keeps what is outside. -/
theorem KeepsOutside.refl (contents : Contents) (root : Location) :
    contents.KeepsOutside root contents where
  file_eq _ _ := rfl
  dir_kept _ _ isDir := isDir
  dir_new _ _ isDir := .inl isDir

/-- Two changes that keep what is outside keep it one after the other. -/
theorem KeepsOutside.trans
    {first second third : Contents} {root : Location}
    (earlier : first.KeepsOutside root second) (later : second.KeepsOutside root third) :
    first.KeepsOutside root third := by
  constructor
  · intro place outside
    exact (later.file_eq place outside).trans (earlier.file_eq place outside)
  · intro place outside isDir
    exact later.dir_kept place outside (earlier.dir_kept place outside isDir)
  · intro place outside isDir
    rcases later.dir_new place outside isDir with wasDir | around
    · exact earlier.dir_new place outside wasDir
    · exact .inr around

/-- Directories that are added on the way to a place below the root lie below it or around it. -/
theorem keepsOutside_addDirs
    (contents : Contents) {root place : Location} (below : root <+: place) :
    contents.KeepsOutside root (contents.addDirs place) := by
  constructor
  · intro other outside
    rfl
  · intro dir outside isDir
    exact .inl isDir
  · intro dir outside isDir
    rcases isDir with wasDir | ⟨nonempty, isAbove⟩
    · exact .inl wasDir
    · rcases List.prefix_or_prefix_of_prefix below isAbove with inside | around
      · exact absurd inside outside
      · exact .inr ⟨nonempty, around⟩

/-- Dropping all that lies below a place leaves the other places alone. -/
theorem keepsOutside_dropBelow (contents : Contents) (root : Location) :
    contents.KeepsOutside root (contents.dropBelow root) := by
  constructor
  · intro place outside
    rw [files_dropBelow, if_neg outside]
  · intro place outside isDir
    exact ⟨isDir, outside⟩
  · intro place outside isDir
    exact .inl isDir.1

/-- A file that is put below the root changes no other place. -/
theorem keepsOutside_putFile
    (contents : Contents) {root target : Location} (below : root <+: target)
    (content : ByteArray) :
    contents.KeepsOutside root (contents.putFile target content) := by
  constructor
  · intro place outside
    have different : place ≠ target := by
      rintro rfl
      exact outside below
    rw [files_putFile, if_neg different]
  · intro place outside isDir
    exact isDir
  · intro place outside isDir
    exact .inl isDir

end Contents

/-- All work since the start has kept to the directory `root`, and more work can. -/
structure Confined (start : Contents) (root : Location) (now : Contents) : Prop where
  rooted : now.Rooted root
  outside : start.KeepsOutside root now

namespace Confined

variable {start now : Contents} {root place : Location}

theorem addDirs
    (confined : Confined start root now) (nonempty : root ≠ []) (below : root <+: place) :
    Confined start root (now.addDirs place) where
  rooted _ _ _ := .inr ⟨nonempty, below⟩
  outside := confined.outside.trans (now.keepsOutside_addDirs below)

/-- Once everything below the root is gone, nothing there lacks its directory. -/
theorem dropBelow (confined : Confined start root now) :
    Confined start root (now.dropBelow root) where
  rooted := by
    intro other below isThere
    rcases isThere with isDir | isFile
    · exact absurd below isDir.2
    · rw [Contents.files_dropBelow, if_pos below] at isFile
      exact absurd rfl isFile
  outside := confined.outside.trans (now.keepsOutside_dropBelow root)

theorem putFile
    (confined : Confined start root now) (isDir : now.dirs root) (below : root <+: place)
    (content : ByteArray) :
    Confined start root (now.putFile place content) where
  rooted _ _ _ := isDir
  outside := confined.outside.trans (now.keepsOutside_putFile below content)

end Confined

end ApiShapes
