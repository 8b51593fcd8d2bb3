namespace ModelRuns

/-!
# Powers

The bases in which numbers are written: two for words and doubles, ten for
decimals.
-/

/-- Two to a power. -/
def twoTo (exponent : Nat) : Nat := Nat.pow 2 exponent

/-- Ten to a power. -/
def tenTo (exponent : Nat) : Nat := Nat.pow 10 exponent

/-- The number of values of a byte, to a power. -/
def bytesTo (exponent : Nat) : Nat := Nat.pow 256 exponent

/-- The largest word of thirty-two bits. -/
def largestWord32 : Nat := twoTo 32 - 1

/-- The largest word of sixty-four bits. -/
def largestWord64 : Nat := twoTo 64 - 1

/-- The largest whole number of thirty-two bits with a sign. -/
def largestSigned32 : Nat := twoTo 31 - 1

/-- The largest whole number of sixty-four bits with a sign. -/
def largestSigned64 : Nat := twoTo 63 - 1

end ModelRuns
