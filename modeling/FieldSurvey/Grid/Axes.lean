/-!
Things given along each axis of a mesh with two or three axes, and points in space.
-/

namespace FieldSurvey

/-- One thing per axis; a mesh in the plane has none along the third. -/
structure Axes (β : Type) where
  x : β
  y : β
  z : Option β
  deriving DecidableEq, Repr

namespace Axes

variable {β γ : Type}

def isThreeDimensional (axes : Axes β) : Bool := axes.z.isSome

def toList (axes : Axes β) : List β := axes.x :: axes.y :: axes.z.toList

def map (change : β → γ) (axes : Axes β) : Axes γ :=
  ⟨change axes.x, change axes.y, axes.z.map change⟩

section Map

variable (change : β → γ) (axes : Axes β)

@[simp] theorem isThreeDimensional_map :
    (axes.map change).isThreeDimensional = axes.isThreeDimensional := by
  obtain ⟨_, _, last⟩ := axes
  cases last <;> rfl

theorem toList_map : (axes.map change).toList = axes.toList.map change := by
  obtain ⟨_, _, last⟩ := axes
  cases last <;> rfl

theorem map_map {δ : Type} (next : γ → δ) :
    (axes.map change).map next = axes.map fun item => next (change item) := by
  obtain ⟨_, _, last⟩ := axes
  cases last <;> rfl

end Map

end Axes

/-- Three coordinates of one kind. -/
structure Position (β : Type) where
  x : β
  y : β
  z : β
  deriving DecidableEq, Repr

namespace Position

variable {β γ : Type}

def toList (position : Position β) : List β := [position.x, position.y, position.z]

def map (change : β → γ) (position : Position β) : Position γ :=
  ⟨change position.x, change position.y, change position.z⟩

end Position

end FieldSurvey
