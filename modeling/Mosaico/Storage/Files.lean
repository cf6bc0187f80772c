import Mathlib.Data.List.Basic

/-!
# A file across crashes

A file is replaced by writing a new one beside it and renaming it.  A reader sees the new
content at once, while a crash may still bring back any content since the last sync of the
directory.
-/

namespace Storage

universe u

/-- The content that readers see, and the earlier ones that a crash may bring back. -/
structure File (γ : Type u) where
  visible : γ
  stale : List γ
  deriving DecidableEq, Repr

namespace File

variable {γ : Type u}

/-- A file that is on the disk as it is seen. -/
def settled (content : γ) : File γ :=
  { visible := content, stale := [] }

/-- The rename of a new file over the old one, or the removal of the old one. -/
def install (file : File γ) (content : γ) : File γ :=
  { visible := content, stale := file.visible :: file.stale }

/-- A sync of the directory. -/
def sync (file : File γ) : File γ :=
  settled file.visible

/-- The file after a crash; `choice` says which of the possible contents it has. -/
def crash (file : File γ) (choice : Nat) : File γ :=
  match file.stale[choice]? with
  | some content => settled content
  | none => settled file.visible

/-- The property holds of every content that a reader can meet, now or after a crash. -/
def Always (P : γ → Prop) (file : File γ) : Prop :=
  P file.visible ∧ ∀ content ∈ file.stale, P content

variable {P Q : γ → Prop} {file : File γ}

theorem always_settled {content : γ} : Always P (settled content) ↔ P content := by
  simp [Always, settled]

theorem Always.mono (hmono : ∀ content, P content → Q content) (halways : Always P file) :
    Always Q file :=
  ⟨hmono _ halways.1, fun content hcontent => hmono content (halways.2 content hcontent)⟩

theorem always_install {content : γ} :
    Always P (file.install content) ↔ P content ∧ Always P file := by
  simp [Always, install]

theorem Always.sync (halways : Always P file) : Always P file.sync :=
  always_settled.mpr halways.1

theorem Always.crash (halways : Always P file) (choice : Nat) : Always P (file.crash choice) := by
  rw [File.crash]
  cases hchoice : file.stale[choice]? with
  | none => exact always_settled.mpr halways.1
  | some content => exact always_settled.mpr (halways.2 content (List.mem_of_getElem? hchoice))

/-- After a crash nothing is left that another one could bring back. -/
theorem crash_eq_settled (choice : Nat) : file.crash choice = settled (file.crash choice).visible := by
  rw [File.crash]
  split <;> rfl

theorem visible_crash (choice : Nat) :
    (file.crash choice).visible = file.visible ∨ (file.crash choice).visible ∈ file.stale := by
  rw [File.crash]
  cases hchoice : file.stale[choice]? with
  | none => exact Or.inl rfl
  | some content => exact Or.inr (List.mem_of_getElem? hchoice)

end File

end Storage
