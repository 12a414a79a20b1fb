import Retrieval.FileStore

/-!
# The host

What the operations of the library may read and change: files, and the world in
which embedders and generators live.
-/

namespace Retrieval

structure Host (σ : Type) where
  files : FileStore
  outside : σ

end Retrieval
