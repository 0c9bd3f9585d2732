import LuauWorkspace.Proofs.Receivers
import Mathlib.Data.List.Nodup
import Mathlib.Data.List.Pairwise
import Mathlib.Logic.Relation

/-!
# Reading written types

A text of a type in which only words, bars, ampersands and question marks occur can be read without
looking at the type: `&` binds closer than `|`, and a question mark anywhere lets nil in. A type whose
intersections have no unions as parts is the set of values that its text stands for, so of two such
types with one text neither has a value that the other one has not. No parentheses are written around
a union in an intersection, so in general `A | B & C` is the text of two types with different values.
-/
namespace LuauWorkspace.Types

universe u

/-- The sets that primitives and class names stand for. -/
structure Meaning (α : Type u) where
  primitive : Primitive → α → Prop
  ofClass : String → α → Prop

/-! ## Texts -/

/-- The characters of a text without blanks and question marks. -/
def bare (text : String) : List Char := text.toList.filter fun c => c ≠ ' ' && c ≠ '?'

/-- The words between ampersands. -/
def conjuncts (chars : List Char) : List String := (chars.splitOn '&').map String.ofList

/-- What stands between bars, each as its words. -/
def alternatives (text : String) : List (List String) := ((bare text).splitOn '|').map conjuncts

/-- All words of a text. -/
def words (text : String) : List String := (alternatives text).flatten

/-- A word stands for a primitive or else for the class with this name. -/
def Meaning.word {α : Type u} (meaning : Meaning α) (word : String) (value : α) : Prop :=
  (∃ kind : Primitive, kind.text = word ∧ meaning.primitive kind value) ∨
    (∀ kind : Primitive, kind.text ≠ word) ∧ meaning.ofClass word value

/-- How a text is read: all words of one alternative hold, or there is a question mark and the value
is nil. -/
def Meaning.Reads {α : Type u} (meaning : Meaning α) (text : String) (value : α) : Prop :=
  (∃ alternative ∈ alternatives text, ∀ word ∈ alternative, meaning.word word value) ∨
    '?' ∈ text.toList ∧ meaning.primitive .nil value

/-- A text that is read as one word. -/
def Plain (text : String) : Prop :=
  ∀ c ∈ text.toList, c ≠ ' ' ∧ c ≠ '?' ∧ c ≠ '|' ∧ c ≠ '&'

instance : DecidablePred Plain := fun text => List.decidableBAll _ text.toList

/-- A name that is read back as one word, and not as a primitive. -/
structure IsWord (name : String) : Prop where
  plain : Plain name
  free : ∀ kind : Primitive, kind.text ≠ name

/-- A text without bars and question marks. -/
structure Single (text : String) : Prop where
  alone : (alternatives text).length = 1
  certain : '?' ∉ text.toList

/-- One value, to which only the chosen words apply. -/
def Meaning.only (chosen : List String) : Meaning PUnit.{u + 1} where
  primitive kind _ := kind.text ∈ chosen
  ofClass name _ := name ∈ chosen

section Texts

variable {α : Type u} {meaning : Meaning α} {value : α} {one two : String}

theorem word_primitive_iff (kind : Primitive) :
    meaning.word kind.text value ↔ meaning.primitive kind value := by
  have injective : ∀ other : Primitive, other.text = kind.text → other = kind := by
    cases kind <;> intro other <;> cases other <;> decide
  constructor
  · rintro (⟨other, same, holds⟩ | ⟨foreign, -⟩)
    · exact injective other same ▸ holds
    · exact absurd rfl (foreign kind)
  · exact fun holds => Or.inl ⟨kind, rfl, holds⟩

theorem IsWord.word_iff {name : String} (isWord : IsWord name) :
    meaning.word name value ↔ meaning.ofClass name value := by
  constructor
  · rintro (⟨kind, same, -⟩ | ⟨-, holds⟩)
    · exact absurd same (isWord.free kind)
    · exact holds
  · exact fun holds => Or.inr ⟨isWord.free, holds⟩

theorem word_only_iff {chosen : List String} {word : String} :
    (Meaning.only.{u} chosen).word word .unit ↔ word ∈ chosen := by
  constructor
  · rintro (⟨kind, rfl, member⟩ | ⟨-, member⟩)
    · exact member
    · exact member
  · intro member
    by_cases foreign : ∀ kind : Primitive, kind.text ≠ word
    · exact Or.inr ⟨foreign, member⟩
    · obtain ⟨kind, rfl⟩ : ∃ kind : Primitive, kind.text = word := by simpa using foreign
      exact Or.inl ⟨kind, rfl, member⟩

theorem bare_append (one two : String) : bare (one ++ two) = bare one ++ bare two := by
  simp [bare]

theorem alternatives_of_plain {word : String} (plain : Plain word) :
    alternatives word = [[word]] := by
  have kept : bare word = word.toList := by
    rw [bare, List.filter_eq_self]
    intro c member
    simpa using And.intro (plain c member).1 (plain c member).2.1
  have bars : '|' ∉ word.toList := fun member => (plain _ member).2.2.1 rfl
  have ampersands : '&' ∉ word.toList := fun member => (plain _ member).2.2.2 rfl
  rw [alternatives, kept, List.splitOn_eq_singleton bars]
  simp [conjuncts, List.splitOn_eq_singleton ampersands]

theorem single_plain {word : String} (plain : Plain word) : Single word where
  alone := by simp [alternatives_of_plain plain]
  certain member := (plain _ member).2.1 rfl

theorem reads_plain {word : String} (plain : Plain word) :
    meaning.Reads word value ↔ meaning.word word value := by
  simp [Meaning.Reads, alternatives_of_plain plain, (single_plain plain).certain]

theorem plain_primitive (kind : Primitive) : Plain kind.text := by
  cases kind <;> decide

theorem alternatives_bar (one two : String) :
    alternatives (one ++ " | " ++ two) = alternatives one ++ alternatives two := by
  have between : bare " | " = ['|'] := by decide
  rw [alternatives, bare_append, bare_append, between, List.append_assoc, List.singleton_append,
    List.splitOn_append_cons_self, List.map_append]
  rfl

/-- The last piece of one text and the first piece of the next one become one piece. -/
theorem splitOn_append {separator : Char} {left right last first : List Char}
    {front rest : List (List Char)} (before : left.splitOn separator = front ++ [last])
    (after : right.splitOn separator = first :: rest) :
    (left ++ right).splitOn separator = front ++ (last ++ first) :: rest := by
  induction left generalizing front last with
  | nil =>
    obtain ⟨rfl, rfl⟩ : front = [] ∧ last = [] := by
      cases front <;> simp_all
    simpa using after
  | cons c left ih =>
    obtain ⟨head, tail, pieces⟩ := List.exists_cons_of_ne_nil (List.splitOn_ne_nil separator left)
    rw [List.splitOn_cons_eq_if_modifyHead, pieces] at before
    rw [List.cons_append, List.splitOn_cons_eq_if_modifyHead]
    -- A separator ends an empty piece; any other character goes to the first piece behind it.
    by_cases cut : c = separator
    · simp only [cut, BEq.rfl, if_true] at before ⊢
      cases front with
      | nil => simp at before
      | cons piece front =>
        obtain ⟨rfl, also⟩ := List.cons.inj before
        rw [ih (pieces.trans also)]
        rfl
    · simp only [beq_iff_eq, cut, if_false, List.modifyHead_cons] at before ⊢
      cases front with
      | nil =>
        obtain ⟨rfl, rfl⟩ := List.cons.inj before
        have whole : left.splitOn separator = [] ++ [head] := pieces
        rw [ih whole]
        rfl
      | cons piece front =>
        obtain ⟨rfl, rfl⟩ := List.cons.inj before
        have whole : left.splitOn separator = (head :: front) ++ [last] := pieces
        rw [ih whole]
        rfl

theorem alternatives_ne_nil (text : String) : alternatives text ≠ [] := by
  simp [alternatives]

/-- At an ampersand the last alternative of one text and the first one of the next become one. -/
theorem alternatives_ampersand (one two : String) :
    ∃ front last first rest, alternatives one = front ++ [last] ∧ alternatives two = first :: rest ∧
      alternatives (one ++ " & " ++ two) = front ++ (last ++ first) :: rest := by
  have between : bare " & " = ['&'] := by decide
  obtain ⟨front, last, before⟩ :=
    (List.eq_nil_or_concat _).resolve_left (List.splitOn_ne_nil '|' (bare one))
  obtain ⟨first, rest, after⟩ := List.exists_cons_of_ne_nil (List.splitOn_ne_nil '|' (bare two))
  -- The ampersand goes to the first piece of the second text, where it separates words.
  have ampersand : ('&' :: bare two).splitOn '|' = ('&' :: first) :: rest := by
    rw [List.splitOn_cons_eq_if_modifyHead, after]
    rfl
  rw [List.concat_eq_append] at before
  refine ⟨front.map conjuncts, conjuncts last, conjuncts first, rest.map conjuncts, ?_, ?_, ?_⟩
  · rw [alternatives, before, List.map_append, List.map_singleton]
  · rw [alternatives, after, List.map_cons]
  · rw [alternatives, bare_append, bare_append, between, List.append_assoc, List.singleton_append,
      splitOn_append before ampersand, List.map_append, List.map_cons]
    congr 2
    rw [conjuncts, List.splitOn_append_cons_self, List.map_append]
    rfl

theorem reads_question :
    meaning.Reads (one ++ "?") value ↔ meaning.Reads one value ∨ meaning.primitive .nil value := by
  have same : alternatives (one ++ "?") = alternatives one := by
    have nothing : bare "?" = [] := by decide
    rw [alternatives, bare_append, nothing, List.append_nil, alternatives]
  by_cases holds : meaning.primitive .nil value <;> simp [Meaning.Reads, same, holds]

theorem single_ampersand_iff : Single (one ++ " & " ++ two) ↔ Single one ∧ Single two := by
  obtain ⟨front, last, first, rest, before, after, joined⟩ := alternatives_ampersand one two
  constructor
  · rintro ⟨alone, certain⟩
    simp only [joined, List.length_append, List.length_cons] at alone
    simp only [String.toList_append, List.mem_append, not_or] at certain
    refine ⟨⟨?_, certain.1.1⟩, ⟨?_, certain.2⟩⟩
    · simp only [before, List.length_append, List.length_singleton]
      omega
    · simp only [after, List.length_cons]
      omega
  · rintro ⟨single, also⟩
    have lengths := And.intro single.alone also.alone
    simp only [before, after, List.length_append, List.length_cons, List.length_nil] at lengths
    refine ⟨?_, by simp [single.certain, also.certain]⟩
    simp only [joined, List.length_append, List.length_cons]
    omega

theorem Single.reads_iff (single : Single one) :
    meaning.Reads one value ↔ ∀ word ∈ words one, meaning.word word value := by
  obtain ⟨alternative, alone⟩ := List.length_eq_one_iff.mp single.alone
  simp [Meaning.Reads, words, alone, single.certain]

theorem words_bar (one two : String) : words (one ++ " | " ++ two) = words one ++ words two := by
  rw [words, alternatives_bar, List.flatten_append]
  rfl

theorem words_ampersand (one two : String) :
    words (one ++ " & " ++ two) = words one ++ words two := by
  obtain ⟨front, last, first, rest, before, after, joined⟩ := alternatives_ampersand one two
  simp [words, before, after, joined]

theorem alternatives_bars {texts : List String} (some : texts ≠ []) :
    alternatives (" | ".intercalate texts) = texts.flatMap alternatives := by
  match texts, some with
  | [text], _ => simp
  | text :: next :: rest, _ =>
    rw [String.intercalate_cons_cons, alternatives_bar,
      alternatives_bars (List.cons_ne_nil next rest)]
    rfl

theorem mem_intercalate_iff {separator : String} {c : Char} (foreign : c ∉ separator.toList)
    (texts : List String) :
    c ∈ (separator.intercalate texts).toList ↔ ∃ text ∈ texts, c ∈ text.toList := by
  match texts with
  | [] => simp
  | [text] => simp
  | text :: next :: rest =>
    rw [String.intercalate_cons_cons, String.toList_append, String.toList_append, List.mem_append,
      List.mem_append, mem_intercalate_iff foreign (next :: rest)]
    simp [foreign]

theorem reads_bars {texts : List String} (some : texts ≠ []) :
    meaning.Reads (" | ".intercalate texts) value ↔ ∃ text ∈ texts, meaning.Reads text value := by
  have foreign : '?' ∉ (" | ").toList := by decide
  simp only [Meaning.Reads, alternatives_bars some, mem_intercalate_iff foreign, List.mem_flatMap]
  constructor
  · rintro (⟨alternative, ⟨text, member, listed⟩, holds⟩ | ⟨⟨text, member, question⟩, nil⟩)
    · exact ⟨text, member, Or.inl ⟨alternative, listed, holds⟩⟩
    · exact ⟨text, member, Or.inr ⟨question, nil⟩⟩
  · rintro ⟨text, member, ⟨alternative, listed, holds⟩ | ⟨question, nil⟩⟩
    · exact Or.inl ⟨alternative, ⟨text, member, listed⟩, holds⟩
    · exact Or.inr ⟨⟨text, member, question⟩, nil⟩

theorem words_intercalate {separator : String}
    (cuts : ∀ one two, words (one ++ separator ++ two) = words one ++ words two)
    {texts : List String} (some : texts ≠ []) :
    words (separator.intercalate texts) = texts.flatMap words := by
  match texts, some with
  | [text], _ => simp
  | text :: next :: rest, _ =>
    rw [String.intercalate_cons_cons, cuts, words_intercalate cuts (List.cons_ne_nil next rest)]
    rfl

theorem single_ampersands_iff {texts : List String} (some : texts ≠ []) :
    Single (" & ".intercalate texts) ↔ ∀ text ∈ texts, Single text := by
  match texts, some with
  | [text], _ => simp
  | text :: next :: rest, _ =>
    rw [String.intercalate_cons_cons, single_ampersand_iff,
      single_ampersands_iff (List.cons_ne_nil next rest), ← List.forall_mem_cons]

theorem reads_ampersands {texts : List String} (some : texts ≠ [])
    (singles : ∀ text ∈ texts, Single text) :
    meaning.Reads (" & ".intercalate texts) value ↔ ∀ text ∈ texts, meaning.Reads text value := by
  rw [((single_ampersands_iff some).mpr singles).reads_iff, words_intercalate words_ampersand some,
    List.forall_mem_flatMap]
  exact forall₂_congr fun text member => (singles text member).reads_iff.symm

/-- Where alternatives meet in a text without repetitions, one of them has no words of some piece. -/
theorem exists_apart {texts : List String} (several : 2 ≤ texts.length)
    (distinct : (words (" & ".intercalate texts)).Nodup)
    (branched : (alternatives (" & ".intercalate texts)).length ≠ 1) :
    ∃ text ∈ texts, ∃ alternative ∈ alternatives (" & ".intercalate texts),
      ∀ word ∈ words text, word ∉ alternative := by
  match texts, several with
  | one :: next :: rest, _ =>
    rw [String.intercalate_cons_cons] at distinct branched ⊢
    have inside : ∀ word ∈ words next, word ∈ words (" & ".intercalate (next :: rest)) := by
      intro word member
      rw [words_intercalate words_ampersand (List.cons_ne_nil next rest)]
      exact List.mem_append_left _ member
    generalize " & ".intercalate (next :: rest) = two at *
    obtain ⟨front, last, first, others, before, after, joined⟩ := alternatives_ampersand one two
    rw [words_ampersand, List.nodup_append] at distinct
    have apart := distinct.2.2
    rw [joined] at branched ⊢
    -- An alternative behind the seam has no words of the first text, one before it none of the next.
    cases others with
    | cons alternative others =>
      refine ⟨one, by simp, alternative, by simp, fun word member also => ?_⟩
      exact apart word member word (by simp [words, after, also]) rfl
    | nil =>
      obtain ⟨alternative, more, rfl⟩ : ∃ alternative more, front = alternative :: more :=
        List.exists_cons_of_ne_nil (by rintro rfl; simp at branched)
      refine ⟨next, by simp, alternative, by simp, fun word member also => ?_⟩
      exact apart word (by simp [words, before, also]) word (inside word member) rfl

end Texts

/-! ## Values -/

namespace Arena

variable (arena : Arena)

/-- The value belongs to a type of primitives, classes, unions and intersections. -/
inductive Has {α : Type u} (meaning : Meaning α) (value : α) : TypeId → Prop
  | primitive {id : TypeId} {kind : Primitive} (found : arena.get? id = some (.primitive kind))
    (holds : meaning.primitive kind value) : Has meaning value id
  | ofClass {id : TypeId} {type : ClassType} (found : arena.get? id = some (.ofClass type))
    (holds : meaning.ofClass type.name value) : Has meaning value id
  | union {id part : TypeId} {parts : List TypeId} (found : arena.get? id = some (.union parts))
    (member : part ∈ parts) (has : Has meaning value part) : Has meaning value id
  | intersection {id : TypeId} {parts : List TypeId}
    (found : arena.get? id = some (.intersection parts))
    (all : ∀ part ∈ parts, Has meaning value part) : Has meaning value id

/-- A type that is put together from primitives and classes, at most this many levels deep, with two
or more parts in each union and intersection. -/
inductive Composed : Nat → TypeId → Prop
  | primitive {depth : Nat} {id : TypeId} {kind : Primitive}
    (found : arena.get? id = some (.primitive kind)) : Composed depth id
  | ofClass {depth : Nat} {id : TypeId} {type : ClassType}
    (found : arena.get? id = some (.ofClass type)) : Composed depth id
  | union {depth : Nat} {id : TypeId} {parts : List TypeId}
    (found : arena.get? id = some (.union parts)) (several : 2 ≤ parts.length)
    (each : ∀ part ∈ parts, Composed depth part) : Composed (depth + 1) id
  | intersection {depth : Nat} {id : TypeId} {parts : List TypeId}
    (found : arena.get? id = some (.intersection parts)) (several : 2 ≤ parts.length)
    (each : ∀ part ∈ parts, Composed depth part) : Composed (depth + 1) id

/-- The second type is the first one or stands somewhere inside it. -/
def Contains : TypeId → TypeId → Prop :=
  Relation.ReflTransGen fun id part => ∃ shape, arena.get? id = some shape ∧ part ∈ shape.parts

/-- The names of the classes in a type are words. -/
def Named (id : TypeId) : Prop :=
  ∀ inner type, arena.Contains id inner → arena.get? inner = some (.ofClass type) →
    IsWord type.name

/-- No union is a part of an intersection. -/
def Unmixed (id : TypeId) : Prop :=
  ∀ inner parts, arena.Contains id inner → arena.get? inner = some (.intersection parts) →
    ∀ part ∈ parts, ∀ others, arena.get? part ≠ some (.union others)

variable {arena}

section Has

variable {α : Type u} {meaning : Meaning α} {value : α} {id : TypeId}

theorem has_primitive_iff {kind : Primitive} (found : arena.get? id = some (.primitive kind)) :
    arena.Has meaning value id ↔ meaning.primitive kind value := by
  refine ⟨fun has => ?_, .primitive found⟩
  cases has <;> simp_all

theorem has_ofClass_iff {type : ClassType} (found : arena.get? id = some (.ofClass type)) :
    arena.Has meaning value id ↔ meaning.ofClass type.name value := by
  refine ⟨fun has => ?_, .ofClass found⟩
  cases has <;> simp_all

theorem has_union_iff {parts : List TypeId} (found : arena.get? id = some (.union parts)) :
    arena.Has meaning value id ↔ ∃ part ∈ parts, arena.Has meaning value part := by
  refine ⟨fun has => ?_, fun ⟨part, member, has⟩ => .union found member has⟩
  cases has with
  | union also member has =>
    obtain rfl := Shape.union.inj (Option.some.inj (found.symm.trans also))
    exact ⟨_, member, has⟩
  | _ => simp_all

theorem has_intersection_iff {parts : List TypeId}
    (found : arena.get? id = some (.intersection parts)) :
    arena.Has meaning value id ↔ ∀ part ∈ parts, arena.Has meaning value part := by
  refine ⟨fun has => ?_, .intersection found⟩
  cases has with
  | intersection also all =>
    obtain rfl := Shape.intersection.inj (Option.some.inj (found.symm.trans also))
    exact all
  | _ => simp_all

end Has

section Parts

variable {id inside : TypeId} {shape : Shape} (found : arena.get? id = some shape)

include found

theorem contains_part (member : inside ∈ shape.parts) {inner : TypeId}
    (contains : arena.Contains inside inner) : arena.Contains id inner :=
  Relation.ReflTransGen.head ⟨shape, found, member⟩ contains

theorem contains_cases {inner : TypeId} (contains : arena.Contains id inner) :
    inner = id ∨ ∃ part ∈ shape.parts, arena.Contains part inner := by
  rcases Relation.ReflTransGen.cases_head contains with rfl | ⟨part, ⟨also, same, member⟩, rest⟩
  · exact Or.inl rfl
  · obtain rfl := Option.some.inj (found.symm.trans same)
    exact Or.inr ⟨part, member, rest⟩

theorem Named.part (named : arena.Named id) (member : inside ∈ shape.parts) : arena.Named inside :=
  fun inner type contains => named inner type (contains_part found member contains)

theorem Unmixed.part (unmixed : arena.Unmixed id) (member : inside ∈ shape.parts) :
    arena.Unmixed inside :=
  fun inner parts contains => unmixed inner parts (contains_part found member contains)

end Parts

/-! ## Spellings -/

theorem Composed.wrapped {depth : Nat} {id : TypeId} (composed : arena.Composed depth id)
    (draw : TypeId → String) : arena.wrapped draw id = draw id := by
  cases composed <;> simp_all [Arena.wrapped]

theorem isNil_iff {id : TypeId} :
    arena.isNil id = true ↔ arena.get? id = some (.primitive .nil) := by
  unfold isNil
  split <;> simp_all

/-- How a composed type is written: as a word, as one type with nil, or as its parts with bars or
ampersands between them. -/
inductive Spelled (arena : Arena) (style : Style) : Nat → TypeId → Prop
  | word {room : Nat} {id : TypeId} {shape : Shape} {word : String}
    (found : arena.get? id = some shape) (atom : shape.parts = [])
    (solid : ∀ parts, shape ≠ .union parts) (plain : Plain word)
    (text : arena.render style room id = word)
    (means : ∀ {α : Type u} (meaning : Meaning α) (value : α),
      arena.Has meaning value id ↔ meaning.word word value) : Spelled arena style room id
  | optional {room : Nat} {id part other : TypeId} {parts : List TypeId}
    (found : arena.get? id = some (.union parts))
    (listed : parts = [part, other] ∨ parts = [other, part])
    (nil : arena.get? other = some (.primitive .nil))
    (text : arena.render style (room + 1) id = arena.render style room part ++ "?")
    (each : ∀ part ∈ parts, Spelled arena style room part) : Spelled arena style (room + 1) id
  | bars {room : Nat} {id : TypeId} {parts : List TypeId}
    (found : arena.get? id = some (.union parts)) (several : 2 ≤ parts.length)
    (text : arena.render style (room + 1) id =
      " | ".intercalate (parts.map (arena.render style room)))
    (each : ∀ part ∈ parts, Spelled arena style room part) : Spelled arena style (room + 1) id
  | ampersands {room : Nat} {id : TypeId} {parts : List TypeId}
    (found : arena.get? id = some (.intersection parts)) (several : 2 ≤ parts.length)
    (text : arena.render style (room + 1) id =
      " & ".intercalate (parts.map (arena.render style room)))
    (each : ∀ part ∈ parts, Spelled arena style room part) : Spelled arena style (room + 1) id

theorem render_of_shape (style : Style) {room : Nat} {id : TypeId} {shape : Shape}
    (found : arena.get? id = some shape) : arena.render style (room + 1) id =
      arena.shapeText style (arena.render style room) (room = maxDepth) shape := by
  simp [render, found]

theorem map_ne_nil {β γ : Type} {parts : List β} (several : 2 ≤ parts.length) (f : β → γ) :
    parts.map f ≠ [] := by
  rintro none
  simp [List.map_eq_nil_iff.mp none] at several

theorem map_wrapped {depth : Nat} {parts : List TypeId}
    (each : ∀ part ∈ parts, arena.Composed depth part) (draw : TypeId → String) :
    parts.map (arena.wrapped draw) = parts.map draw :=
  List.map_congr_left fun part member => (each part member).wrapped draw

theorem Composed.spelled {depth : Nat} {id : TypeId} (composed : arena.Composed depth id)
    (named : arena.Named id) (style : Style) {room : Nat} (deep : depth ≤ room) :
    Spelled.{u} arena style (room + 1) id := by
  induction composed generalizing room with
  | @primitive depth id kind found =>
    exact .word found rfl nofun (plain_primitive kind) (render_of_shape style found)
      fun meaning value => (has_primitive_iff found).trans (word_primitive_iff kind).symm
  | @ofClass depth id type found =>
    have isWord := named id type .refl found
    exact .word found rfl nofun isWord.plain (render_of_shape style found)
      fun meaning value => (has_ofClass_iff found).trans isWord.word_iff.symm
  | @union depth id parts found several each ih =>
    obtain ⟨room, rfl⟩ := Nat.exists_eq_add_one_of_ne_zero (Nat.ne_zero_of_lt deep)
    have spelled := fun part member =>
      ih part member (named.part found member) (Nat.le_of_succ_le_succ deep)
    rcases arena.unionText_cases parts with ⟨part, one, two, rfl, kept, optional⟩ | joined
    · -- The part that is kept is not nil, so the other one is.
      have listed : part ∈ [one, two] :=
        List.mem_of_mem_filter (kept ▸ List.mem_singleton_self part)
      have text : arena.render style (room + 1 + 1) id =
          arena.render style (room + 1) part ++ "?" := by
        rw [render_of_shape style found, shapeText, optional, (each part listed).wrapped]
      cases first : arena.isNil one <;> cases second : arena.isNil two <;>
        simp [first, second] at kept
      · obtain rfl := kept
        exact .optional found (Or.inl rfl) (isNil_iff.mp second) text spelled
      · obtain rfl := kept
        exact .optional found (Or.inr rfl) (isNil_iff.mp first) text spelled
    · refine .bars found several ?_ spelled
      rw [render_of_shape style found, shapeText, joined, map_wrapped each]
  | @intersection depth id parts found several each ih =>
    obtain ⟨room, rfl⟩ := Nat.exists_eq_add_one_of_ne_zero (Nat.ne_zero_of_lt deep)
    refine .ampersands found several ?_ fun part member =>
      ih part member (named.part found member) (Nat.le_of_succ_le_succ deep)
    rw [render_of_shape style found, shapeText, map_wrapped each]

/-! ## Readings -/

section Spelled

variable {style : Style} {room : Nat} {id : TypeId} (spelled : Spelled.{u} arena style room id)

include spelled

/-- The text of a type that is no union has one alternative, and unmixed types are read as the values
that they have. -/
theorem Spelled.reads {α : Type u} {meaning : Meaning α} {value : α} (unmixed : arena.Unmixed id) :
    ((∀ parts, arena.get? id ≠ some (.union parts)) → Single (arena.render style room id)) ∧
      (meaning.Reads (arena.render style room id) value ↔ arena.Has meaning value id) := by
  induction spelled with
  | word found atom solid plain text means =>
    rw [text, means]
    exact ⟨fun _ => single_plain plain, reads_plain plain⟩
  | @optional room id part other parts found listed nil text each ih =>
    have reads := fun part member => (ih part member (unmixed.part found member)).2
    refine ⟨fun none => absurd found (none parts), ?_⟩
    rw [has_union_iff found, text, reads_question]
    rcases listed with rfl | rfl <;> simp [reads, has_primitive_iff nil, or_comm]
  | @bars room id parts found several text each ih =>
    have reads := fun part member => (ih part member (unmixed.part found member)).2
    refine ⟨fun none => absurd found (none parts), ?_⟩
    rw [has_union_iff found, text, reads_bars (map_ne_nil several _)]
    simp only [List.mem_map, exists_exists_and_eq_and]
    exact exists_congr fun part => and_congr_right fun member => reads part member
  | @ampersands room id parts found several text each ih =>
    have readings := fun part member => ih part member (unmixed.part found member)
    -- Ampersands bind closer than bars, so parts are read as wholes only if they have no bars.
    have singles : ∀ text ∈ parts.map (arena.render style room), Single text :=
      List.forall_mem_map.mpr fun part member =>
        (readings part member).1 (unmixed id parts .refl found part member)
    have some := map_ne_nil several (arena.render style room)
    rw [text, has_intersection_iff found, reads_ampersands some singles, List.forall_mem_map]
    exact ⟨fun _ => (single_ampersands_iff some).mpr singles,
      forall₂_congr fun part member => (readings part member).2⟩

end Spelled

/-! ## Misreadings -/

/-- In a list without repetitions a member tells from which part it comes. -/
theorem eq_of_mem_of_nodup_flatMap {β γ : Type} {parts : List β} {f : β → List γ}
    (distinct : (parts.flatMap f).Nodup) {one two : β} (member : one ∈ parts) (also : two ∈ parts)
    {word : γ} (mine : word ∈ f one) (theirs : word ∈ f two) : one = two := by
  by_contra differ
  have : Std.Symm (Function.onFun List.Disjoint f) :=
    ⟨fun _ _ apart _ left right => apart right left⟩
  exact (List.nodup_flatMap.mp distinct).2.forall member also differ mine theirs

theorem certain_part {separator : String} (foreign : '?' ∉ separator.toList) {parts : List TypeId}
    {draw : TypeId → String} (certain : '?' ∉ (separator.intercalate (parts.map draw)).toList)
    {part : TypeId} (member : part ∈ parts) : '?' ∉ (draw part).toList :=
  fun there => certain ((mem_intercalate_iff foreign _).mpr
    ⟨draw part, List.mem_map_of_mem member, there⟩)

/-- A union does not mix anything by itself. -/
theorem exists_mixed {id : TypeId} {parts : List TypeId}
    (found : arena.get? id = some (.union parts)) (mixed : ¬ arena.Unmixed id) :
    ∃ part ∈ parts, ¬ arena.Unmixed part := by
  by_contra none
  push Not at none
  refine mixed fun inner inside contains also => ?_
  rcases contains_cases found contains with rfl | ⟨part, member, rest⟩
  · simp [found] at also
  · exact none part member inner inside rest also

section Misread

variable {style : Style} {room : Nat} {id : TypeId} (spelled : Spelled.{u} arena style room id)

include spelled

/-- A value to which no word of its text applies is not in a type. -/
theorem Spelled.not_has {chosen : List String}
    (certain : '?' ∉ (arena.render style room id).toList)
    (none : ∀ word ∈ words (arena.render style room id), word ∉ chosen) :
    ¬ arena.Has (Meaning.only.{u} chosen) .unit id := by
  induction spelled with
  | @word room id shape word found atom solid plain text means =>
    rw [means, word_only_iff]
    exact none word (by simp [text, words, alternatives_of_plain plain])
  | optional found listed nil text each ih =>
    simp [text] at certain
  | @bars room id parts found several text each ih =>
    rw [text] at certain none
    rw [words_intercalate words_bar (map_ne_nil several _), List.forall_mem_flatMap,
      List.forall_mem_map] at none
    rw [has_union_iff found]
    rintro ⟨part, member, has⟩
    exact ih part member (certain_part (by decide) certain member) (none part member) has
  | @ampersands room id parts found several text each ih =>
    rw [text] at certain none
    rw [words_intercalate words_ampersand (map_ne_nil several _), List.forall_mem_flatMap,
      List.forall_mem_map] at none
    obtain ⟨part, member⟩ := List.exists_mem_of_length_pos (Nat.zero_lt_of_lt several)
    rw [has_intersection_iff found]
    intro has
    exact ih part member (certain_part (by decide) certain member) (none part member)
      (has part member)

/-- With one alternative in the text there is no union in the type. -/
theorem Spelled.no_union (single : Single (arena.render style room id)) {inner : TypeId}
    (contains : arena.Contains id inner) (others : List TypeId) :
    arena.get? inner ≠ some (.union others) := by
  induction spelled with
  | word found atom solid plain text means =>
    obtain rfl : inner = _ := by simpa [atom] using contains_cases found contains
    rw [found]
    exact fun same => solid others (Option.some.inj same)
  | optional found listed nil text each ih =>
    exact absurd single.certain (by simp [text])
  | @bars room id parts found several text each ih =>
    have alone := single.alone
    match parts, several with
    | part :: next :: rest, several =>
      have one := List.length_pos_iff.mpr (alternatives_ne_nil (arena.render style room part))
      have more := List.length_pos_iff.mpr (alternatives_ne_nil (arena.render style room next))
      rw [text, alternatives_bars (map_ne_nil several _)] at alone
      simp only [List.map_cons, List.flatMap_cons, List.length_append] at alone
      omega
  | @ampersands room id parts found several text each ih =>
    rw [text, single_ampersands_iff (map_ne_nil several _), List.forall_mem_map] at single
    rcases contains_cases found contains with rfl | ⟨part, member, inside⟩
    · simp [found]
    · exact ih part member (single part member) inside

theorem Spelled.unmixed (single : Single (arena.render style room id)) : arena.Unmixed id :=
  fun _ _ contains found _ member others =>
    spelled.no_union single (contains.tail ⟨_, found, member⟩) others

/-- If a union is a part of an intersection in a type that is written without repetitions, some
alternative of the text is a promise that the type does not keep. -/
theorem Spelled.misread (certain : '?' ∉ (arena.render style room id).toList)
    (distinct : (words (arena.render style room id)).Nodup) (mixed : ¬ arena.Unmixed id) :
    ∃ alternative ∈ alternatives (arena.render style room id),
      ¬ arena.Has (Meaning.only.{u} alternative) .unit id := by
  induction spelled with
  | @word room id shape word found atom solid plain text means =>
    have single : Single (arena.render style room id) := text ▸ single_plain plain
    exact absurd ((Spelled.word found atom solid plain text means).unmixed single) mixed
  | optional found listed nil text each ih =>
    simp [text] at certain
  | @bars room id parts found several text each ih =>
    -- What the text of one part promises, no other part keeps, as none shares a word with it.
    obtain ⟨part, member, mixed⟩ := exists_mixed found mixed
    rw [text] at certain distinct
    rw [words_intercalate words_bar (map_ne_nil several _), List.flatMap_map] at distinct
    obtain ⟨alternative, listed, broken⟩ := ih part member
      (certain_part (by decide) certain member) ((List.nodup_flatMap.mp distinct).1 part member) mixed
    refine ⟨alternative, ?_, ?_⟩
    · rw [text, alternatives_bars (map_ne_nil several _), List.flatMap_map]
      exact List.mem_flatMap.mpr ⟨part, member, listed⟩
    · rw [has_union_iff found]
      rintro ⟨other, also, has⟩
      by_cases same : other = part
      · exact broken (same ▸ has)
      · refine (each other also).not_has (certain_part (by decide) certain also) ?_ has
        exact fun word mine theirs => same (eq_of_mem_of_nodup_flatMap distinct also member mine
          (List.mem_flatten.mpr ⟨alternative, listed, theirs⟩))
  | @ampersands room id parts found several text each ih =>
    -- With two alternatives or more there is one to which some part contributes no word.
    have branched := fun single =>
      mixed ((Spelled.ampersands found several text each).unmixed single)
    rw [text] at certain distinct branched
    obtain ⟨piece, listed, alternative, there, apart⟩ :=
      exists_apart (by simpa using several) distinct fun alone => branched ⟨alone, certain⟩
    obtain ⟨part, member, rfl⟩ := List.mem_map.mp listed
    refine ⟨alternative, text ▸ there, ?_⟩
    rw [has_intersection_iff found]
    exact fun has => (each part member).not_has (certain_part (by decide) certain member) apart
      (has part member)

end Misread

/-! ## One text -/

/-- The types have the same values, whatever their words stand for. -/
def SameValues (one : Arena) (id : TypeId) (two : Arena) (other : TypeId) : Prop :=
  ∀ (α : Type u) (meaning : Meaning α) (value : α),
    one.Has meaning value id ↔ two.Has meaning value other

/-- Where one of two types with one text has no unions in its intersections, they have the same values
if the other one has none either; and only then, when no word is written twice and nothing is
optional. -/
theorem sameValues_of_text_eq (one two : Arena) {id other : TypeId} (style manner : Style)
    (composed : one.Composed maxDepth id) (also : two.Composed maxDepth other)
    (named : one.Named id) (named_also : two.Named other)
    (same : one.text style id = two.text manner other) (unmixed : one.Unmixed id) :
    (two.Unmixed other → SameValues.{u} one id two other) ∧
      ('?' ∉ (one.text style id).toList → (words (one.text style id)).Nodup →
        SameValues.{u} one id two other → two.Unmixed other) := by
  have spelled := composed.spelled.{u} named style (Nat.le_refl maxDepth)
  have spelled_also := also.spelled.{u} named_also manner (Nat.le_refl maxDepth)
  rw [text] at same ⊢
  rw [text] at same
  constructor
  · intro unmixed_also α meaning value
    rw [← (spelled.reads unmixed).2, same, (spelled_also.reads unmixed_also).2]
  · intro certain distinct values
    by_contra mixed
    rw [same] at certain distinct
    obtain ⟨alternative, listed, broken⟩ := spelled_also.misread certain distinct mixed
    refine broken ((values _ _ _).mp ((spelled.reads unmixed).2.mp (Or.inl ⟨alternative, ?_, ?_⟩)))
    · exact Eq.mpr (congrArg (alternative ∈ alternatives ·) same) listed
    · exact fun word => word_only_iff.mpr

namespace Letters

def classes : List Shape :=
  [.ofClass { name := "A" }, .ofClass { name := "B" }, .ofClass { name := "C" }]

def types (more : List Shape) : Arena where
  entries := ((classes ++ more).map fun shape => { shape := shape }).toArray

/-- Nil, `B & C`, two ways to make a union of it with `A` and nil, and its union with `A`. -/
def unions : Arena :=
  types [.primitive .nil, .intersection [1, 2], .union [4, 3], .union [0, 5], .union [0, 4],
    .union [7, 3]]

/-- The union of `A` and `B` intersected with `C`, and the union of `A` with `B & C`. -/
def both : Arena :=
  types [.union [0, 1], .intersection [3, 2], .intersection [1, 2], .union [0, 5]]

variable {more : List Shape} {id : TypeId} {shape : Shape}

theorem mem_of_get? (found : (types more).get? id = some shape) : shape ∈ classes ++ more := by
  simpa [types, Function.comp_def] using mem_entries_of_get? found

theorem isWord {name : String} (letter : name ∈ ["A", "B", "C"]) : IsWord name := by
  simp only [List.mem_cons, List.not_mem_nil, or_false] at letter
  rcases letter with rfl | rfl | rfl <;>
    exact ⟨by decide, by rintro ⟨⟩ <;> decide⟩

theorem named (others : ∀ type, .ofClass type ∉ more) : (types more).Named id := by
  intro inner type _ found
  rcases List.mem_append.mp (mem_of_get? found) with listed | listed
  · refine isWord ?_
    simp only [classes, List.mem_cons, Shape.ofClass.injEq, List.not_mem_nil, or_false] at listed
    rcases listed with rfl | rfl | rfl <;> simp
  · exact absurd listed (others type)

theorem unmixed (id : TypeId) : unions.Unmixed id := by
  intro inner parts _ found part member others
  have listed := mem_of_get? found
  simp only [classes, List.cons_append, List.nil_append, List.mem_cons, Shape.intersection.injEq,
    reduceCtorEq, List.not_mem_nil, or_false, false_or] at listed
  subst listed
  simp only [List.mem_cons, List.not_mem_nil, or_false] at member
  rcases member with rfl | rfl <;> exact nofun

theorem forall_pair {P : TypeId → Prop} {one two : TypeId} (first : P one) (second : P two) :
    ∀ part ∈ [one, two], P part := by
  simpa using And.intro first second

theorem composed_unions (depth : Nat) :
    unions.Composed (depth + 2) 7 ∧ unions.Composed (depth + 3) 6 ∧
      unions.Composed (depth + 3) 8 := by
  have meet : ∀ room, unions.Composed (room + 1) 4 := fun room =>
    .intersection rfl (by decide) (forall_pair (.ofClass rfl) (.ofClass rfl))
  have join : unions.Composed (depth + 2) 7 :=
    .union rfl (by decide) (forall_pair (.ofClass rfl) (meet depth))
  have optional : unions.Composed (depth + 2) 5 :=
    .union rfl (by decide) (forall_pair (meet depth) (.primitive rfl))
  refine ⟨join, ?_, ?_⟩
  · exact .union rfl (by decide) (forall_pair (.ofClass rfl) optional)
  · exact .union rfl (by decide) (forall_pair join (.primitive rfl))

theorem composed_both (depth : Nat) :
    both.Composed (depth + 2) 4 ∧ both.Composed (depth + 2) 6 := by
  have join : both.Composed (depth + 1) 3 :=
    .union rfl (by decide) (forall_pair (.ofClass rfl) (.ofClass rfl))
  have meet : both.Composed (depth + 1) 5 :=
    .intersection rfl (by decide) (forall_pair (.ofClass rfl) (.ofClass rfl))
  constructor
  · exact .intersection rfl (by decide) (forall_pair join (.ofClass rfl))
  · exact .union rfl (by decide) (forall_pair (.ofClass rfl) meet)

end Letters

/-- Nil may join `B & C` or the whole union. The union of `A` and `B`, intersected with `C`, has other
values than the union of `A` with `B & C`. -/
theorem sameValues_of_text_eq_letters :
    Letters.unions.text {} 6 = "A | B & C?" ∧ Letters.unions.text {} 8 = "A | B & C?" ∧
      SameValues.{u} Letters.unions 6 Letters.unions 8 ∧
      Letters.unions.text {} 7 = Letters.both.text {} 4 ∧
      ¬ SameValues.{u} Letters.unions 7 Letters.both 4 := by
  have optional : Letters.unions.text {} 6 = "A | B & C?" := by decide
  have also : Letters.unions.text {} 8 = "A | B & C?" := by decide
  have plain : Letters.unions.text {} 7 = "A | B & C" := by decide
  have mixed : Letters.both.text {} 4 = "A | B & C" := by decide
  refine ⟨optional, also, ?_, plain.trans mixed.symm, fun same => ?_⟩
  · exact (sameValues_of_text_eq _ _ {} {} (Letters.composed_unions 5).2.1
      (Letters.composed_unions 5).2.2 (Letters.named (by simp)) (Letters.named (by simp))
      (optional.trans also.symm) (Letters.unmixed 6)).1 (Letters.unmixed 8)
  · have certain : '?' ∉ (Letters.unions.text {} 7).toList := by rw [plain]; decide
    have distinct : (words (Letters.unions.text {} 7)).Nodup := by rw [plain]; decide
    have still := (sameValues_of_text_eq _ _ {} {} (Letters.composed_unions 6).1
      (Letters.composed_both 6).1 (Letters.named (by simp)) (Letters.named (by simp))
      (plain.trans mixed.symm) (Letters.unmixed 7)).2 certain distinct same
    exact still 4 [3, 2] .refl rfl 3 (by decide) [0, 1] rfl

/-- The text of two types, one of which has all values of `A` and the other one only those of `C`. -/
theorem sameValues_ambiguous :
    (Letters.both.Composed maxDepth 4 ∧ Letters.both.Composed maxDepth 6) ∧
      (Letters.both.text {} 4 = "A | B & C" ∧ Letters.both.text {} 6 = "A | B & C") ∧
      ¬ Letters.both.Has (Meaning.only.{u} ["A"]) .unit 4 ∧
      Letters.both.Has (Meaning.only.{u} ["A"]) .unit 6 ∧
      ¬ SameValues.{u} Letters.both 4 Letters.both 6 := by
  have without : ¬ Letters.both.Has (Meaning.only.{u} ["A"]) .unit 4 := by
    rw [has_intersection_iff rfl]
    intro all
    have found : Letters.both.get? 2 = some (.ofClass { name := "C" }) := rfl
    have last : "C" ∈ ["A"] := (has_ofClass_iff found).mp (all 2 (by decide))
    simp at last
  have within : Letters.both.Has (Meaning.only.{u} ["A"]) .unit 6 :=
    .union rfl List.mem_cons_self (.ofClass rfl List.mem_cons_self)
  exact ⟨Letters.composed_both 6, by decide, without, within,
    fun same => without ((same _ _ _).mpr within)⟩

end Arena

end LuauWorkspace.Types
