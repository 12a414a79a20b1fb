/-!
# From double to single precision

The single-precision number nearest to a double-precision one, a tie going to
the even neighbour.  A value too large for single precision becomes infinite.
-/

namespace Retrieval

open Float.Model (UnpackedFloat Format)

/-- The number taken apart, rounded to the narrower format, and put together again. -/
def narrow (value : Float) : Float32 :=
  .ofModel <|
    match value.toModel.unpack with
    | .finite sign mantissa exponent _ =>
        .pack (UnpackedFloat.round Format.binary32 sign mantissa exponent)
    | other => .pack other

end Retrieval
