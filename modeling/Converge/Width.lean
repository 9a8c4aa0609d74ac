/-!
# Powers and widths

Powers of two and of ten, and which integers fit a number of bits.
-/

namespace Converge

def twoTo (n : Nat) : Nat := Nat.pow 2 n

def tenTo (n : Nat) : Nat := Nat.pow 10 n

/-- Does the integer fit a number of bits, of which one is the sign? -/
def fitsSigned (bits : Nat) (n : Int) : Bool :=
  -(twoTo (bits - 1) : Int) ≤ n && n < (twoTo (bits - 1) : Int)

/-- Does the integer fit a number of bits without a sign? -/
def fitsUnsigned (bits : Nat) (n : Int) : Bool := 0 ≤ n && n < (twoTo bits : Int)

/-- Does the integer fit a number of bits, with or without a sign? -/
def fits (bits : Nat) (n : Int) : Bool := fitsSigned bits n || fitsUnsigned bits n

end Converge
