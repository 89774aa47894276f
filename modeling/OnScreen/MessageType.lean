import OnScreen.OrderedMap

/-!
# Message types

A message may carry a type, a number. A typed message replaces earlier messages of the same type in
its stack; messages without a type replace nothing and come after all typed ones.

* `MessageType.rank`: the order of the types as a natural number.
* `Key`: messages are stored by type, and within a type by the order of their insertion.
-/

namespace OnScreen

/-- The replacement tag of a message (`MessageType`). -/
inductive MessageType
  | typed (tag : UInt32)
  | typeless
  deriving DecidableEq, Inhabited

namespace MessageType

/-- The position of a type in the order: typed by tag, then typeless. -/
def rank : MessageType → Nat
  | typed tag => tag.toNat
  | typeless => 4294967296

theorem rank_inj {a b : MessageType} (h : a.rank = b.rank) : a = b := by
  cases a with
  | typed m =>
    cases b with
    | typed n => rw [UInt32.toNat_inj.1 h]
    | typeless =>
      have := m.toNat_lt
      simp only [rank] at h
      omega
  | typeless =>
    cases b with
    | typed n =>
      have := n.toNat_lt
      simp only [rank] at h
      omega
    | typeless => rfl

/-- Types in their order. -/
def sort (types : List MessageType) : List MessageType :=
  types.mergeSort fun a b => decide (a.rank ≤ b.rank)

/-- A type as it is shown to a reader. -/
def describe : MessageType → String
  | typed tag => "Typed(" ++ toString tag.toNat ++ ")"
  | typeless => "Typeless"

end MessageType

/-- The storage key of a message (`MessageKey`). -/
structure Key where
  type : MessageType
  /-- The number of messages inserted into the stack before. -/
  sequence : Nat
  deriving DecidableEq

/-- Keys are ordered by type, and within a type by sequence number. -/
instance : KeyOrder Key where
  before a b :=
    decide (a.type.rank < b.type.rank ∨ a.type.rank = b.type.rank ∧ a.sequence < b.sequence)
  irrefl a := by simp
  trans {a b c} hab hbc := by
    simp only [decide_eq_true_eq] at hab hbc ⊢
    omega
  eq_of_not_before {a b} hab hba := by
    simp only [decide_eq_false_iff_not] at hab hba
    have hr : a.type = b.type := MessageType.rank_inj (by omega)
    have hs : a.sequence = b.sequence := by
      rw [hr] at hab hba
      omega
    cases a
    cases b
    simp_all

end OnScreen
