import SqlText.Dialect
import SqlText.Literal.Renderers

/-!
Everything that can be registered: dialects by name, and renderers by type.
-/

namespace SqlText

structure Registries where
  dialects : Dialects := .standard
  renderers : Renderers := {}

inductive Registration
  | dialect (dialect : Dialect) (aliases : List String)
  | renderer (type : TypeName) (renderer : Renderer)
  | noRenderer (type : TypeName)

/-- The registries after one more registration. -/
def Registries.apply (r : Registries) : Registration → Registries
  | .dialect dialect aliases => { r with dialects := r.dialects.register dialect aliases }
  | .renderer type renderer => { r with renderers := r.renderers.register type renderer }
  | .noRenderer type => { r with renderers := r.renderers.unregister type }

end SqlText
