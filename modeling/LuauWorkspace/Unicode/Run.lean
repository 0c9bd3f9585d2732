import LuauWorkspace.Text.Split

/-!
# Runs of code points

What characters have in common is written down as runs of code points, in hexadecimal and
ascending: `61-7A` is a run, `5F` a run of one code point, and `340=300` a run with a value. A
value is a list of numbers, `=` alone the empty one. Where neighbours have values of their own, a
row lists them behind the first code point, with a dot for one that has none. Runs are found by
halving.
-/
namespace LuauWorkspace.Unicode

open Text (split)

structure Run where
  first : Nat
  last : Nat
  values : List Nat := []
deriving DecidableEq, Repr, Inhabited

def ofHex (digits : List Char) : Nat :=
  digits.foldl (fun n c => n * 16 + (c.toNat - if c ≤ '9' then 48 else 55)) 0

def valuesOf (text : List Char) : List Nat :=
  if text = [] then [] else (split ',' text).map ofHex

namespace Run

def contains (run : Run) (n : Nat) : Bool := run.first ≤ n && n ≤ run.last

def ofWord (word : List Char) : Run :=
  let (range, values) :=
    match split '=' word with
    | [range, values] => (range, valuesOf values)
    | _ => (word, [])
  match split '-' range with
  | [first, last] => ⟨ofHex first, ofHex last, values⟩
  | _ => ⟨ofHex range, ofHex range, values⟩

/-- The code points from the first word on, each with the value of its own word. -/
def successive (row : List (List Char)) : List Run :=
  match row with
  | [] => []
  | start :: words =>
    let numbered := words.zipIdx.filter fun (word, _) => word ≠ ['.']
    numbered.map fun (word, i) => ⟨ofHex start + i, ofHex start + i, valuesOf word⟩

end Run

abbrev Runs := Array Run

namespace Runs

def ofRows (rows : List String) : Runs :=
  (rows.flatMap fun row => (split ' ' row.toList).map Run.ofWord).toArray

def ofSuccessive (rows : List String) : Runs :=
  (rows.flatMap fun row => Run.successive (split ' ' row.toList)).toArray

/-- Where the first run from `low` on starts that does not end in front of a code point; `high` if
none before it does. -/
def seek (runs : Runs) (n low high : Nat) : Nat :=
  if low < high then
    let middle := (low + high) / 2
    if (runs.getD middle default).last < n then seek runs n (middle + 1) high
    else seek runs n low middle
  else low
termination_by high - low

def find? (runs : Runs) (n : Nat) : Option Run :=
  runs[seek runs n 0 runs.size]?.filter (·.contains n)

def contains (runs : Runs) (n : Nat) : Bool := (find? runs n).isSome

theorem contains_of_find? {runs : Runs} {n : Nat} {run : Run} (found : find? runs n = some run) :
    run.contains n = true :=
  (Option.filter_eq_some_iff.mp found).2

theorem mem_of_find? {runs : Runs} {n : Nat} {run : Run} (found : find? runs n = some run) :
    run ∈ runs :=
  Array.mem_of_getElem? (Option.filter_eq_some_iff.mp found).1

end Runs

end LuauWorkspace.Unicode
