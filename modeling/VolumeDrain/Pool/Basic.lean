import VolumeDrain.Manifest.Meta
import VolumeDrain.Pool.Spec
import VolumeDrain.Pool.Status

/-!
# Buffer pools

The pool resource itself. A pool is read from any document with metadata and a specification,
whatever kind the document names, and is written under its own kind.
-/
namespace VolumeDrain

open Manifest

/-- A buffer pool: a set of workers, each with a buffer volume of its own. -/
structure BufferPool where
  metadata : ObjectMeta
  spec : Pool.Spec
  status : Option Pool.Status := none

/-- Pools are a custom resource. -/
def poolKind : Kind := ⟨"buffering.dev", "v1alpha1", "BufferPool", "bufferpools"⟩

instance : Resource BufferPool where
  kind := poolKind
  metadata := BufferPool.metadata
  encode p := poolKind.record
    [field "metadata" p.metadata, field "spec" p.spec, field? "status" p.status]
  decode j := do
    let f ← Fields.ofJson 3 j
    return {
      metadata := ← f.required 0 "metadata"
      spec := ← f.required 1 "spec"
      status := ← f.nullable 2 "status" }

namespace BufferPool

/-- A pool of a name that is not stored yet. -/
def ofSpec (name : String) (spec : Pool.Spec) : BufferPool :=
  { metadata := { name := some name }, spec }

/-- The pool's name. -/
def name (p : BufferPool) : String := p.metadata.nameOrStem

/-- The namespace of the pool's objects. -/
def namespaceName (p : BufferPool) : String := p.metadata.namespaceName.getD "default"

end BufferPool

end VolumeDrain
