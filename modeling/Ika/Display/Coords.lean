/-! The sizes of `coords.h`. -/

set_option autoImplicit false

namespace Ika.Display

structure Size where
  width : Nat := 0
  height : Nat := 0
  deriving DecidableEq, Repr

namespace Size

def IsSet (size : Size) : Prop := size.width ≠ 0 ∧ size.height ≠ 0
  deriving Decidable

end Size

end Ika.Display
