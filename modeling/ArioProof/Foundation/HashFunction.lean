import Mathlib.Data.List.Basic

/-! Fixed-width hash functions and explicit collisions. A pigeonhole argument
gives every such function some pair of colliding messages, so a reduction to
collision resistance has to name the messages it may be blamed on. -/
namespace Foundation

abbrev Bytes := List UInt8

/-- A hash function whose digests all have `width` bytes. -/
structure HashFunction (width : Nat) where
  digest : Bytes → Bytes
  length_digest : ∀ message, (digest message).length = width

attribute [simp] HashFunction.length_digest

namespace HashFunction

variable {width : Nat} (H : HashFunction width)

/-- Two different messages of an explicit list have one digest. The list is
always read off the computations a theorem compares, never quantified away. -/
def CollisionIn (messages : List Bytes) : Prop :=
  ∃ x ∈ messages, ∃ y ∈ messages, x ≠ y ∧ H.digest x = H.digest y

instance (messages : List Bytes) : Decidable (H.CollisionIn messages) :=
  inferInstanceAs (Decidable (∃ x ∈ messages, ∃ y ∈ messages, x ≠ y ∧ H.digest x = H.digest y))

variable {H}

/-- A collision survives adding messages to the list. -/
theorem CollisionIn.mono {messages more : List Bytes} (h : H.CollisionIn messages)
    (hSub : messages ⊆ more) : H.CollisionIn more := by
  obtain ⟨x, hx, y, hy, hne, heq⟩ := h
  exact ⟨x, hSub hx, y, hSub hy, hne, heq⟩

/-- Equal digests of two listed messages: the messages agree or they collide. -/
theorem eq_or_collisionIn (messages : List Bytes) {x y : Bytes} (hx : x ∈ messages)
    (hy : y ∈ messages) (h : H.digest x = H.digest y) : x = y ∨ H.CollisionIn messages := by
  by_cases hxy : x = y
  · exact Or.inl hxy
  · exact Or.inr ⟨x, hx, y, hy, hxy, h⟩

end HashFunction
end Foundation
