/-!
# `PgpCard.Bytes`: byte strings

A byte string is a list of octets. `Bytes.cut?` takes a given number of bytes off the front
and refuses where there are fewer. It looks at no byte behind those that it takes, so an
input that is read piece by piece costs no more than its length.
-/

set_option autoImplicit false

namespace PgpCard

/-- A string of octets, as it goes over a card reader. -/
abbrev Bytes := List UInt8

namespace Bytes

/-- The first `n` bytes and those after them, if there are that many. -/
def cut? (n : Nat) (bytes : Bytes) : Option (Bytes × Bytes) :=
  let front := bytes.take n
  if front.length = n then some (front, bytes.drop n) else none

/-- A cut loses nothing, and its first part has the length asked for. -/
theorem cut?_eq_some_iff {n : Nat} {bytes front rest : Bytes} :
    cut? n bytes = some (front, rest) ↔ bytes = front ++ rest ∧ front.length = n := by
  simp only [cut?, Option.ite_none_right_eq_some, Option.some.injEq, Prod.mk.injEq]
  constructor
  · rintro ⟨h, rfl, rfl⟩
    exact ⟨(List.take_append_drop n bytes).symm, h⟩
  · rintro ⟨rfl, rfl⟩
    simp

/-- A cut is refused exactly where there are too few bytes. -/
theorem cut?_eq_none_iff {n : Nat} {bytes : Bytes} :
    cut? n bytes = none ↔ bytes.length < n := by
  simp only [cut?, List.length_take, ite_eq_right_iff, reduceCtorEq, imp_false]
  omega

/-- What a cut leaves is shorter by what it took. -/
theorem length_cut? {n : Nat} {bytes front rest : Bytes}
    (h : cut? n bytes = some (front, rest)) : rest.length + n = bytes.length := by
  obtain ⟨rfl, rfl⟩ := cut?_eq_some_iff.1 h
  simp [Nat.add_comm]

end Bytes

end PgpCard
