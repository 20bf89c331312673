import Framecast.Files.Tree
import Framecast.Image.Gradient

/-!
# Sources of raw images

Raw images come from a file, the same for every frame, or are generated as a
gradient that moves from frame to frame.  The size of a raw image is known before
its pixels are generated.
-/

namespace Framecast.Image

inductive Source where
  | file (path : String)
  | gradient (shape : Shape)
deriving Repr, DecidableEq

inductive SourceError where
  | cannotOpen (path : String) (fault : Files.FileFault)
  | noBytes (path : String)
deriving Repr, DecidableEq

def SourceError.chain : SourceError → List String
  | .cannotOpen path fault => ["cannot open raw file: " ++ path, fault.message]
  | .noBytes path => ["raw file is empty: " ++ path]

/-- A raw image: bytes that were read, or a gradient to generate. -/
inductive Raw where
  | stored (contents : Bytes)
  | gradient (shape : Shape) (index : Nat)
deriving Repr, DecidableEq

namespace Raw

def pixels : Raw → Bytes
  | .stored contents => contents
  | .gradient shape index => shape.gradient index

def size : Raw → Nat
  | .stored contents => contents.length
  | .gradient shape _ => shape.gradientSize

theorem length_pixels (raw : Raw) : raw.pixels.length = raw.size := by
  cases raw with
  | stored contents => rfl
  | gradient shape index => exact shape.length_gradient index

end Raw

namespace Source

/-- The raw image of frame `index`. -/
def raw (source : Source) (tree : Files.Tree) (index : Nat) : Except SourceError Raw :=
  match source with
  | .gradient shape => .ok (.gradient shape index)
  | .file path =>
      match tree.read path with
      | .error fault => .error (.cannotOpen path fault)
      | .ok [] => .error (.noBytes path)
      | .ok contents => .ok (.stored contents)

def frame (source : Source) (tree : Files.Tree) (index : Nat) : Except SourceError Bytes :=
  (source.raw tree index).map Raw.pixels

end Source

end Framecast.Image
