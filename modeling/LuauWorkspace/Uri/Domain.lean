import LuauWorkspace.Unicode.Direction
import LuauWorkspace.Unicode.Joining
import LuauWorkspace.Unicode.Normal
import LuauWorkspace.Uri.Domain.Mapping
import LuauWorkspace.Uri.Punycode

/-!
# Domains

A domain is written in ASCII. Its characters are mapped, the text is put into its normal form, and
then each label has to be one that could be shown: it does not start with a mark, its invisible
joiners have something to join, and where letters run from right to left no label can be mistaken
for its neighbour. A label that is written in ASCII already has to stand for a label that would be
written so.
-/
namespace LuauWorkspace.Uri.Domain

open Unicode

/-- A label as it is written and as it is shown. -/
structure Label where
  written : List Char
  shown : List Char
deriving DecidableEq, Repr

/-- The longest label that is written in ASCII. -/
def maxShown : Nat := 1000

/-- The longest text behind the mark of a label that is read. -/
def maxEncoded : Nat := 2000

def nonJoiner : Char := '\u200c'
def joiner : Char := '\u200d'

/-- Whether the joiners in a text make a difference, given the text in front of it in reverse. -/
def joinersFit (before : List Char) : List Char → Bool
  | [] => true
  | c :: rest =>
    let silenced := before.head?.any fun previous => combiningClass previous.toNat = silencing
    let fits :=
      if c = joiner then silenced
      else if c = nonJoiner then silenced || partsLetters before rest
      else true
    fits && joinersFit (c :: before) rest

def isShowable (label : List Char) : Bool :=
  !label.head?.any isMark && label.all isKept && normalize label == label && joinersFit [] label

/-- A label that is written in ASCII and stands for another one. -/
def encoded? (text : List Char) : Option Label := do
  let behind := text.drop Punycode.mark.length
  if ¬ Punycode.isAscii text ∨ behind.getLastD '-' = '-' ∨ maxEncoded < behind.length then none
  let shown ← Punycode.decode? behind
  if isShowable shown ∧ ¬ Punycode.mark.isPrefixOf shown then some ⟨text, shown⟩ else none

def label? (text : List Char) : Option Label :=
  if Punycode.mark.isPrefixOf text then encoded? text
  else if isShowable text ∧ (Punycode.isAscii text ∨ text.length ≤ maxShown) then
    some ⟨Punycode.label text, text⟩
  else none

def runsRightToLeft (label : Label) : Bool :=
  label.shown.any fun c => direction c = .rightToLeft ∨ direction c = .arabicNumber

/-- Whether a label keeps to one direction: it starts with a letter, no letter of the other
direction follows, and it ends in a letter or a digit, marks aside. -/
def keepsDirection (label : Label) : Bool :=
  match label.shown.map direction with
  | [] => true
  | first :: rest =>
    let body := (rest.reverse.dropWhile (· = .nonspacing)).reverse
    match first with
    | .leftToRight =>
      body.all (fun d => d ≠ .rightToLeft ∧ d ≠ .arabicNumber) && body.getLast? ≠ some .neutral
    | .rightToLeft =>
      body.all (· ≠ .leftToRight) && body.getLast? ≠ some .neutral
        && !(body.contains .europeanNumber && body.contains .arabicNumber)
    | _ => false

/-- None for a domain that is refused. -/
def ascii? (domain : List Char) : Option (List Char) := do
  let text := normalize (← domain.mapM mapped?).flatten
  let labels ← (Text.split '.' text).mapM label?
  if labels.any runsRightToLeft ∧ ¬ labels.all keepsDirection then none
  some (Text.join '.' (labels.map (·.written)))

end LuauWorkspace.Uri.Domain
