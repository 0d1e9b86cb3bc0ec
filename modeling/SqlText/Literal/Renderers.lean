import SqlText.Value.Basic

/-!
Renderers registered for types. A value is rendered by that of the nearest type which has one.
-/

namespace SqlText

/-- The registered renderers, at most one for each type. -/
structure Renderers where
  entries : List (TypeName × Renderer) := []

namespace Renderers

def unregister (rs : Renderers) (type : TypeName) : Renderers :=
  ⟨rs.entries.filter (·.1 != type)⟩

/-- Registers a renderer in the place of the one that the type had. -/
def register (rs : Renderers) (type : TypeName) (renderer : Renderer) : Renderers :=
  ⟨(type, renderer) :: (rs.unregister type).entries⟩

def find? (rs : Renderers) (type : TypeName) : Option Renderer :=
  (rs.entries.find? (·.1 == type)).map (·.2)

/-- The renderer of the first type that has one. -/
def nearest? (rs : Renderers) (lineage : List TypeName) : Option Renderer :=
  lineage.findSome? rs.find?

end Renderers

end SqlText
