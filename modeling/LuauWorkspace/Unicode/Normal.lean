import LuauWorkspace.Unicode.CombiningClass
import LuauWorkspace.Unicode.Composition

/-!
# The composed normal form

A text may spell a letter with marks in several ways. To find the one in use, all characters are
taken apart, neighbouring marks are put in the order of their classes, and then each character
takes up the marks behind it that it can be composed with, unless another mark stands in between.
-/
namespace LuauWorkspace.Unicode

/-- No character comes apart more often. -/
def nesting : Nat := 4

def apart : Nat → Nat → List Nat
  | 0, n => [n]
  | depth + 1, n =>
    match parts? n with
    | some (a, b) => apart depth a ++ [b]
    | none => [n]

/-- Puts a mark behind the marks of lower classes that it stands in front of. -/
def insertMark (n : Nat) : List Nat → List Nat
  | [] => [n]
  | m :: rest =>
    if 0 < combiningClass m ∧ combiningClass m < combiningClass n then m :: insertMark n rest
    else n :: m :: rest

def decompose (text : List Nat) : List Nat := (text.flatMap (apart nesting)).foldr insertMark []

/-- A text that is being composed, in reverse: the marks that were not taken up, the character in
front of them, and all that comes before it. -/
structure Composing where
  marks : List Nat := []
  base : Option Nat := none
  done : List Nat := []

namespace Composing

def written (state : Composing) : List Nat := state.marks ++ state.base.toList ++ state.done

def reaches (state : Composing) (n : Nat) : Bool :=
  state.marks.head?.all fun mark => combiningClass mark < combiningClass n

def add (state : Composing) (n : Nat) : Composing :=
  match if state.reaches n then state.base.bind (compose? · n) else none with
  | some whole => { state with base := some whole }
  | none =>
    if combiningClass n = 0 then { base := some n, done := state.written }
    else { state with marks := n :: state.marks }

end Composing

def compose (text : List Nat) : List Nat := (text.foldl Composing.add {}).written.reverse

def normalize (text : List Char) : List Char :=
  (compose (decompose (text.map Char.toNat))).map Char.ofNat

end LuauWorkspace.Unicode
