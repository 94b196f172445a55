/-! # Sets of characters

A set of characters is given by the code points at which membership changes, in increasing order:
the first one begins a stretch of members, the second one ends it, and so on. -/

namespace StaticGzip

/-- A **set of characters**. -/
structure CharSet where
  changes : List Nat
deriving Repr

namespace CharSet

/-- Whether a code point is a member: the number of changes up to it is odd. -/
def containsCode (s : CharSet) (n : Nat) : Bool := s.changes.countP (· ≤ n) % 2 == 1

/-- Whether a character is a member. -/
def contains (s : CharSet) (c : Char) : Bool := s.containsCode c.toNat

/-- Without changes there are no members. -/
@[simp] theorem contains_empty (c : Char) : contains ⟨[]⟩ c = false := rfl

/-- A stretch has the members from its first change up to the second. -/
theorem containsCode_pair {a b : Nat} (h : a ≤ b) (n : Nat) :
    containsCode ⟨[a, b]⟩ n = decide (a ≤ n ∧ n < b) := by
  by_cases ha : a ≤ n <;> by_cases hb : b ≤ n <;> simp [containsCode, ha, hb] <;> omega

end CharSet

end StaticGzip
