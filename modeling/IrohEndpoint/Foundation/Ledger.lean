import Mathlib.Data.List.Infix

/-! # Ledgers of queues

A queue that is only appended to at its end and taken from at its front keeps a
ledger: what was ever put on it is what was ever taken, then what is still there. -/

namespace IrohEndpoint

/-- What was ever put on a queue, and what was ever taken from it. -/
structure Ledger (Item : Type) where
  put : List Item
  taken : List Item

namespace Ledger

variable {Item : Type}

def empty : Ledger Item := ⟨[], []⟩

/-- Everything taken was put there before, in the same order, and the rest is still
there. -/
def Balances (ledger : Ledger Item) (queue : List Item) : Prop :=
  ledger.put = ledger.taken ++ queue

def book (ledger : Ledger Item) (takes : Bool) (before after : List Item) : Ledger Item :=
  if takes then { ledger with taken := ledger.taken ++ before.head?.toList }
  else { ledger with put := ledger.put ++ after.drop before.length }

variable {ledger : Ledger Item} {before after : List Item}

theorem Balances.take (balances : ledger.Balances before) (front : after = before.tail) :
    (ledger.book true before after).Balances after := by
  rw [Balances] at balances ⊢
  cases before with
  | nil => simp [book, balances, front]
  | cons item rest => simp [book, balances, front]

theorem Balances.append (balances : ledger.Balances before) (grows : before <+: after) :
    (ledger.book false before after).Balances after := by
  rcases grows with ⟨more, rfl⟩
  rw [Balances] at balances ⊢
  simp [book, balances]

end Ledger

end IrohEndpoint
