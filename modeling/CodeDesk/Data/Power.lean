/-!
# Powers

The powers of two and of ten. Numbers in documents and in texts are bounded
by powers of two, and decimal fractions are made of powers of ten.
-/

namespace CodeDesk

/-- A power of two. -/
def twoTo (n : Nat) : Nat := Nat.pow 2 n

/-- A power of ten. -/
def tenTo (n : Nat) : Nat := Nat.pow 10 n

/-- One more than the greatest value of a machine word. -/
def wordLimit : Nat := twoTo 64

/-- One more than a machine word, which begins again at zero behind the
greatest. -/
def wordSucc (n : Nat) : Nat := (n + 1) % wordLimit

end CodeDesk
