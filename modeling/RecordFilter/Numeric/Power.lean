/-! Powers of the two bases that numbers are written in. -/

namespace RecordFilter

/-- Two to the given power. -/
def twoTo (exponent : Nat) : Nat := Nat.pow 2 exponent

/-- Ten to the given power. -/
def tenTo (exponent : Nat) : Nat := Nat.pow 10 exponent

end RecordFilter
