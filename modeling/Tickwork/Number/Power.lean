/-!
# Powers

The powers of two and of ten in which numbers are scaled.
-/

set_option autoImplicit false

namespace Tickwork

def twoTo (n : Nat) : Nat := Nat.pow 2 n

def tenTo (n : Nat) : Nat := Nat.pow 10 n

end Tickwork
