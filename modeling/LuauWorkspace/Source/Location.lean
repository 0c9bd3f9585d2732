/-!
# Positions and locations

Positions are zero-based and ordered line by line. A location runs from `start` up to, and
without, `stop`; closed containment counts `stop` too, so that a cursor right behind a token
still touches it. Columns count whatever the producer of the location counts.
-/
namespace LuauWorkspace

structure Position where
  line : Nat
  column : Nat
deriving DecidableEq, Repr, Inhabited

namespace Position

def le (a b : Position) : Prop := a.line < b.line ∨ a.line = b.line ∧ a.column ≤ b.column

instance : LE Position := ⟨le⟩
instance : LT Position := ⟨fun a b => a ≤ b ∧ ¬ b ≤ a⟩
instance (a b : Position) : Decidable (a ≤ b) := inferInstanceAs (Decidable (_ ∨ _))
instance (a b : Position) : Decidable (a < b) := inferInstanceAs (Decidable (_ ∧ _))

theorem le_iff (a b : Position) :
    a ≤ b ↔ a.line < b.line ∨ a.line = b.line ∧ a.column ≤ b.column := Iff.rfl

theorem lt_iff (a b : Position) :
    a < b ↔ a.line < b.line ∨ a.line = b.line ∧ a.column < b.column := by
  show a ≤ b ∧ ¬ b ≤ a ↔ _
  simp only [le_iff]
  omega

def order (a b : Position) : Ordering :=
  if a < b then .lt else if b < a then .gt else .eq

theorem order_eq_iff (a b : Position) : a.order b = .eq ↔ a = b := by
  obtain ⟨l, c⟩ := a
  obtain ⟨m, d⟩ := b
  simp only [order, lt_iff, Position.mk.injEq]
  split
  · simp; omega
  · split
    · simp; omega
    · simp; omega

end Position

structure Location where
  start : Position
  stop : Position
deriving DecidableEq, Repr, Inhabited

namespace Location

/-- A location inside one line. -/
def onLine (line start stop : Nat) : Location := ⟨⟨line, start⟩, ⟨line, stop⟩⟩

def contains (l : Location) (p : Position) : Bool := l.start ≤ p ∧ p < l.stop

def containsClosed (l : Location) (p : Position) : Bool := l.start ≤ p ∧ p ≤ l.stop

theorem contains_iff (l : Location) (p : Position) :
    l.contains p = true ↔ l.start ≤ p ∧ p < l.stop := by simp [contains]

theorem containsClosed_iff (l : Location) (p : Position) :
    l.containsClosed p = true ↔ l.start ≤ p ∧ p ≤ l.stop := by simp [containsClosed]

end Location

end LuauWorkspace
