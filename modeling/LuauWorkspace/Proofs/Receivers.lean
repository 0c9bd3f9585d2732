import LuauWorkspace.Query.Signature
import Mathlib.Data.List.Forall2

/-!
# Receivers in written types

Methods are shown without their receivers where they are called on one. The style that asks for this
is handed on to everything that is written inside a type, so it takes the receivers of nested method
types as well. Each text in that style is either the text in the other one or shorter than it, so
nothing that is left out is made up for elsewhere: hiding the receiver of a method hides nothing else
exactly if no method type with something between its parentheses is shown in its other arguments and
in its results.
-/
namespace LuauWorkspace

/-! ## Texts that are not longer -/

/-- The first text is the second one or shorter. -/
def Trimmed (one two : String) : Prop := one = two ∨ one.length < two.length

namespace Trimmed

variable {one two before after : String}

theorem refl (text : String) : Trimmed text text := Or.inl rfl

theorem empty (text : String) : Trimmed "" text := by
  by_cases same : text = ""
  · exact Or.inl same.symm
  · exact Or.inr (by simpa [Nat.pos_iff_ne_zero] using same)

theorem length_le (trimmed : Trimmed one two) : one.length ≤ two.length := by
  rcases trimmed with same | shorter
  · exact Nat.le_of_eq (congrArg String.length same)
  · exact Nat.le_of_lt shorter

theorem eq_empty (trimmed : Trimmed one "") : one = "" := by
  simpa using trimmed.length_le

theorem append (first : Trimmed before after) (second : Trimmed one two) :
    Trimmed (before ++ one) (after ++ two) := by
  have right := second.length_le
  rcases first with rfl | shorter
  · rcases second with rfl | shorter
    · exact .refl _
    · exact Or.inr (by simpa using shorter)
  · exact Or.inr (by simp only [String.length_append]; omega)

/-- What one part loses the other one does not gain. -/
theorem append_eq_iff (first : Trimmed before after) (second : Trimmed one two) :
    before ++ one = after ++ two ↔ before = after ∧ one = two := by
  constructor
  · intro same
    have lengths := congrArg String.length same
    have right := second.length_le
    rcases first with rfl | shorter
    · exact ⟨rfl, by simpa using same⟩
    · simp only [String.length_append] at lengths
      omega
  · rintro ⟨rfl, rfl⟩
    rfl

/-- The pieces of a joined text. -/
theorem intercalate {shorter longer : List String} (pieces : List.Forall₂ Trimmed shorter longer)
    (separator : String) :
    Trimmed (separator.intercalate shorter) (separator.intercalate longer) ∧
      (separator.intercalate shorter = separator.intercalate longer ↔ shorter = longer) := by
  induction pieces with
  | nil => exact ⟨.refl _, by simp⟩
  | @cons one two rest others first further ih =>
    -- Only in front of further pieces a separator follows.
    cases further with
    | nil => exact ⟨by simpa using first, by simp⟩
    | cons _ _ =>
      obtain ⟨trimmed, same⟩ := ih
      simp only [String.intercalate_cons_cons, String.append_assoc]
      have tail := (Trimmed.refl separator).append trimmed
      refine ⟨first.append tail, ?_⟩
      rw [first.append_eq_iff tail, String.append_right_inj, same]
      simp only [List.cons.injEq]

end Trimmed

namespace Types

/-! ## What is shown inside a type -/

/-- The types that are written as parts of a type, in the order in which they are written. -/
def Shape.parts : Shape → List TypeId
  | .function type => type.arguments ++ type.results
  | .table type =>
    if type.name.isSome then []
    else (type.indexer.elim [] fun both => [both.1, both.2]) ++ type.properties.sorted.map (·.2)
  | .metatable back front => [front, back]
  | .union parts | .intersection parts => parts
  | _ => []

namespace Arena

/-- A function type is written inside a type, or is that type itself. The first number of levels is
left for the type, the second one for what stands inside the function type. -/
inductive Shows (arena : Arena) : Nat → TypeId → Nat → FunctionType → Prop
  | here {room : Nat} {id : TypeId} {type : FunctionType}
    (found : arena.get? id = some (.function type)) : Shows arena (room + 1) id room type
  | inside {room left : Nat} {id part : TypeId} {shape : Shape} {type : FunctionType}
    (found : arena.get? id = some shape) (member : part ∈ shape.parts)
    (shown : Shows arena room part left type) : Shows arena (room + 1) id left type

variable {arena : Arena}

section Draws

variable {draw other : TypeId → String} (trims : ∀ id, Trimmed (draw id) (other id))

include trims

theorem forall₂_map (ids : List TypeId) :
    List.Forall₂ Trimmed (ids.map draw) (ids.map other) := by
  simpa [List.forall₂_map_left_iff, List.forall₂_map_right_iff, List.forall₂_same] using
    fun id _ => trims id

omit trims in
theorem wrapped_eq_iff (id : TypeId) :
    arena.wrapped draw id = arena.wrapped other id ↔ draw id = other id := by
  unfold wrapped
  split <;> simp [parenthesized]

theorem trimmed_wrapped (id : TypeId) : Trimmed (arena.wrapped draw id) (arena.wrapped other id) := by
  unfold wrapped
  split
  · exact ((Trimmed.refl _).append (trims id)).append (.refl _)
  · exact trims id

variable (arena) in
theorem forall₂_wrapped (ids : List TypeId) :
    List.Forall₂ Trimmed (ids.map (arena.wrapped draw)) (ids.map (arena.wrapped other)) :=
  forall₂_map (fun id => trimmed_wrapped trims id) ids

theorem trimmed_unionText (nils : ∀ id, arena.isNil id = true → draw id = other id)
    (parts : List TypeId) :
    Trimmed (arena.unionText draw parts) (arena.unionText other parts) ∧
      (arena.unionText draw parts = arena.unionText other parts ↔
        ∀ part ∈ parts, draw part = other part) := by
  rcases arena.unionText_cases parts with ⟨part, one, two, rfl, kept, optional⟩ | joined
  · have only : ∀ {id : TypeId}, id ∈ [one, two] → arena.isNil id = false → id = part := by
      intro id member solid
      have stays : id ∈ [one, two].filter fun part => !arena.isNil part :=
        List.mem_filter.mpr ⟨member, by simp [solid]⟩
      simpa [kept] using stays
    have listed : part ∈ [one, two] := List.mem_of_mem_filter (kept ▸ List.mem_singleton_self part)
    rw [optional, optional]
    refine ⟨(trimmed_wrapped trims part).append (.refl "?"), ?_⟩
    rw [String.append_left_inj, wrapped_eq_iff]
    constructor
    · intro same id member
      cases solid : arena.isNil id with
      | true => exact nils id solid
      | false => exact only member solid ▸ same
    · exact fun all => all part listed
  · have pieces := forall₂_wrapped arena trims parts
    obtain ⟨trimmed, same⟩ := Trimmed.intercalate pieces " | "
    rw [joined, joined]
    refine ⟨trimmed, same.trans ?_⟩
    simp [wrapped_eq_iff]

/-! ## Labels -/

theorem forall₂_labels (ids : List TypeId) (names : List (Option String)) :
    List.Forall₂ Trimmed (labels draw ids names) (labels other ids names) := by
  induction ids generalizing names with
  | nil => exact .nil
  | cons id rest ih =>
    refine .cons ?_ (ih names.tail)
    cases names.head?.join with
    | none => exact trims id
    | some name => exact (Trimmed.refl _).append (trims id)

omit trims in
theorem labels_eq_iff (ids : List TypeId) (names : List (Option String)) :
    labels draw ids names = labels other ids names ↔ ∀ id ∈ ids, draw id = other id := by
  induction ids generalizing names with
  | nil => simp [labels]
  | cons id rest ih =>
    rw [labels, labels, List.cons.injEq, ih, List.forall_mem_cons]
    cases names.head?.join <;> simp

end Draws

/-- Without its first piece a joined text stays the same only if it was empty. -/
theorem commas_tail_eq_iff {shorter longer : List String}
    (pieces : List.Forall₂ Trimmed shorter longer) :
    Trimmed (commas shorter.tail) (commas longer) ∧
      (commas shorter.tail = commas longer ↔ commas longer = "" ∧ shorter = longer) := by
  cases pieces with
  | nil => exact ⟨.refl _, by simp [commas]⟩
  | @cons one two rest others first further =>
    cases further with
    | nil =>
      simp only [commas, List.tail_cons, String.intercalate_nil, String.intercalate_singleton]
      refine ⟨.empty two, ?_⟩
      constructor
      · rintro rfl
        exact ⟨rfl, by rw [first.eq_empty]⟩
      · rintro ⟨rfl, -⟩
        rfl
    | @cons three four rest others second further =>
      have pieces : List.Forall₂ Trimmed (three :: rest) (four :: others) := .cons second further
      have behind := (Trimmed.intercalate pieces ", ").1.length_le
      have shorter : (commas (three :: rest)).length < (commas (two :: four :: others)).length := by
        have comma : (", ").length = 2 := by decide
        rw [commas, commas, String.intercalate_cons_cons, String.length_append, String.length_append]
        omega
      refine ⟨Or.inr shorter, ?_⟩
      constructor
      · intro same
        exact absurd (congrArg String.length same) (Nat.ne_of_lt shorter)
      · rintro ⟨nothing, -⟩
        simp [nothing] at shorter

/-- A function that is written without anything between its parentheses. -/
def WritesNothing (draw : TypeId → String) (type : FunctionType) : Prop :=
  commas (labels draw type.arguments type.argumentNames) = ""

section Shapes

variable {draw other : TypeId → String} (trims : ∀ id, Trimmed (draw id) (other id))
  (lineBreaks : Bool)

include trims

variable (arena) in
theorem trimmed_results (type : FunctionType) :
    Trimmed (arena.results draw type) (arena.results other type) ∧
      (arena.results draw type = arena.results other type ↔
        ∀ id ∈ type.results, draw id = other id) := by
  unfold results
  split
  next nothing => simp [nothing, Trimmed.refl]
  next only single =>
    refine ⟨trimmed_wrapped trims only, ?_⟩
    simp [single, wrapped_eq_iff]
  next many =>
    obtain ⟨trimmed, same⟩ := Trimmed.intercalate (forall₂_map trims type.results) ", "
    refine ⟨((Trimmed.refl _).append trimmed).append (.refl _), ?_⟩
    simp only [parenthesized, commas, String.append_left_inj, String.append_right_inj, same]
    simp

theorem trimmed_parameters (type : FunctionType) :
    Trimmed (commas (parameters ⟨lineBreaks, true⟩ draw type))
        (commas (parameters ⟨lineBreaks, false⟩ other type)) ∧
      (commas (parameters ⟨lineBreaks, true⟩ draw type) =
          commas (parameters ⟨lineBreaks, false⟩ other type) ↔
        (type.hasReceiver = true → WritesNothing other type) ∧
          ∀ id ∈ type.arguments, draw id = other id) := by
  have pieces := forall₂_labels trims type.arguments type.argumentNames
  cases method : type.hasReceiver with
  | true =>
    obtain ⟨trimmed, same⟩ := commas_tail_eq_iff pieces
    rw [labels_eq_iff] at same
    simpa [parameters, method, WritesNothing] using And.intro trimmed same
  | false =>
    obtain ⟨trimmed, same⟩ := Trimmed.intercalate pieces ", "
    rw [labels_eq_iff] at same
    simpa [parameters, method, commas] using And.intro trimmed same

/-- Hidden receivers shorten the text of a method type unless nothing stands between its parentheses. -/
theorem trimmed_functionText (type : FunctionType) :
    Trimmed (arena.functionText ⟨lineBreaks, true⟩ draw type)
        (arena.functionText ⟨lineBreaks, false⟩ other type) ∧
      (arena.functionText ⟨lineBreaks, true⟩ draw type =
          arena.functionText ⟨lineBreaks, false⟩ other type ↔
        (type.hasReceiver = true → WritesNothing other type) ∧
          ∀ id ∈ type.arguments ++ type.results, draw id = other id) := by
  obtain ⟨parameters, same⟩ := trimmed_parameters trims lineBreaks type
  obtain ⟨results, also⟩ := trimmed_results arena trims type
  have between := ((Trimmed.refl "(").append parameters).append (.refl ")")
  have front := ((Trimmed.refl (genericsText type.generics)).append between).append (.refl " -> ")
  refine ⟨front.append results, (front.append_eq_iff results).trans ?_⟩
  rw [also, List.forall_mem_append, ← and_assoc, ← same]
  simp

omit trims in
theorem tableEntries_eq (draw : TypeId → String) (type : TableType) :
    tableEntries draw type =
      (type.indexer.elim [] fun both => ["[" ++ draw both.1 ++ "]: " ++ draw both.2]) ++
        type.properties.sorted.map fun entry => entry.1 ++ ": " ++ draw entry.2 := by
  unfold tableEntries
  cases type.indexer <;> rfl

theorem forall₂_tableEntries (type : TableType) :
    List.Forall₂ Trimmed (tableEntries draw type) (tableEntries other type) := by
  have rows : List.Forall₂ Trimmed
      (type.properties.sorted.map fun entry => entry.1 ++ ": " ++ draw entry.2)
      (type.properties.sorted.map fun entry => entry.1 ++ ": " ++ other entry.2) := by
    rw [List.forall₂_map_left_iff, List.forall₂_map_right_iff, List.forall₂_same]
    exact fun entry _ => (Trimmed.refl _).append (trims entry.2)
  rw [tableEntries_eq, tableEntries_eq]
  cases type.indexer with
  | none => exact rows
  | some both =>
    have key := ((Trimmed.refl "[").append (trims both.1)).append (.refl "]: ")
    exact .cons (key.append (trims both.2)) rows

theorem tableEntries_eq_iff (type : TableType) :
    tableEntries draw type = tableEntries other type ↔
      ∀ id ∈ (type.indexer.elim [] fun both => [both.1, both.2]) ++
        type.properties.sorted.map (·.2), draw id = other id := by
  have rows : (type.properties.sorted.map fun entry => entry.1 ++ ": " ++ draw entry.2) =
      (type.properties.sorted.map fun entry => entry.1 ++ ": " ++ other entry.2) ↔
        ∀ id ∈ type.properties.sorted.map (·.2), draw id = other id := by
    rw [List.map_inj_left, List.forall_mem_map]
    simp only [String.append_right_inj]
  rw [tableEntries_eq, tableEntries_eq]
  cases type.indexer with
  | none => simpa using rows
  | some both =>
    have key := ((Trimmed.refl "[").append (trims both.1)).append (.refl "]: ")
    have row : "[" ++ draw both.1 ++ "]: " ++ draw both.2 =
        "[" ++ other both.1 ++ "]: " ++ other both.2 ↔
          draw both.1 = other both.1 ∧ draw both.2 = other both.2 := by
      rw [key.append_eq_iff (trims both.2)]
      simp
    simp only [Option.elim_some, List.cons_append, List.nil_append, List.cons.injEq, row, rows,
      List.forall_mem_cons, and_assoc]

theorem trimmed_tableText (broken : Bool) (type : TableType) :
    Trimmed (tableText draw broken type) (tableText other broken type) ∧
      (tableText draw broken type = tableText other broken type ↔
        ∀ id ∈ (Shape.table type).parts, draw id = other id) := by
  cases named : type.name with
  | some name =>
    exact ⟨by simp [tableText, named, Trimmed.refl], by simp [tableText, named, Shape.parts]⟩
  | none =>
    have parts : (Shape.table type).parts =
        (type.indexer.elim [] fun both => [both.1, both.2]) ++
          type.properties.sorted.map (·.2) := by simp [Shape.parts, named]
    have pieces := forall₂_tableEntries trims type
    rw [parts, ← tableEntries_eq_iff trims type]
    simp only [tableText, named]
    generalize tableEntries draw type = shorter at pieces
    generalize tableEntries other type = longer at pieces
    cases pieces with
    | nil => exact ⟨.refl _, by simp⟩
    | cons first further =>
      cases broken with
      | true =>
        obtain ⟨trimmed, same⟩ := Trimmed.intercalate (.cons first further) ",\n    "
        refine ⟨((Trimmed.refl _).append trimmed).append (.refl _), ?_⟩
        simpa using same
      | false =>
        obtain ⟨trimmed, same⟩ := Trimmed.intercalate (.cons first further) ", "
        refine ⟨((Trimmed.refl _).append trimmed).append (.refl _), ?_⟩
        simpa [braced, commas] using same

variable (arena) in
theorem trimmed_shapeText (nils : ∀ id, arena.isNil id = true → draw id = other id)
    (outermost : Bool) (shape : Shape) :
    Trimmed (arena.shapeText ⟨lineBreaks, true⟩ draw outermost shape)
        (arena.shapeText ⟨lineBreaks, false⟩ other outermost shape) ∧
      (arena.shapeText ⟨lineBreaks, true⟩ draw outermost shape =
          arena.shapeText ⟨lineBreaks, false⟩ other outermost shape ↔
        (∀ type, shape = .function type → type.hasReceiver = true → WritesNothing other type) ∧
          ∀ id ∈ shape.parts, draw id = other id) := by
  cases shape with
  | function type => simpa [Shape.parts, shapeText] using trimmed_functionText trims lineBreaks type
  | table type =>
    simpa [Shape.parts, shapeText] using trimmed_tableText trims (lineBreaks && outermost) type
  | metatable back front =>
    have first := ((Trimmed.refl "@metatable ").append (trims front)).append (.refl ", ")
    have whole := first.append (trims back)
    refine ⟨((Trimmed.refl "\x7b ").append whole).append (.refl " \x7d"), ?_⟩
    simp only [shapeText, braced, String.append_left_inj, String.append_right_inj,
      first.append_eq_iff (trims back)]
    simp [Shape.parts]
  | union parts => simpa [Shape.parts, shapeText] using trimmed_unionText trims nils parts
  | intersection parts =>
    have pieces := forall₂_wrapped arena trims parts
    obtain ⟨trimmed, same⟩ := Trimmed.intercalate pieces " & "
    refine ⟨trimmed, same.trans ?_⟩
    simp [Shape.parts, wrapped_eq_iff]
  | _ => exact ⟨.refl _, by simp [Shape.parts, shapeText]⟩

end Shapes

/-! ## Texts with and without receivers -/

theorem not_shows_zero {id : TypeId} {left : Nat} {type : FunctionType} :
    ¬ arena.Shows 0 id left type := nofun

theorem shows_succ_iff {room left : Nat} {id : TypeId} {shape : Shape} {type : FunctionType}
    (found : arena.get? id = some shape) :
    arena.Shows (room + 1) id left type ↔
      shape = .function type ∧ left = room ∨ ∃ part ∈ shape.parts, arena.Shows room part left type := by
  constructor
  · rintro (also | ⟨also, member, shown⟩)
    · obtain rfl := Option.some.inj (found.symm.trans also)
      exact Or.inl ⟨rfl, rfl⟩
    · obtain rfl := Option.some.inj (found.symm.trans also)
      exact Or.inr ⟨_, member, shown⟩
  · rintro (⟨rfl, rfl⟩ | ⟨part, member, shown⟩)
    · exact .here found
    · exact .inside found member shown

theorem mem_entries_of_get? {id : TypeId} {shape : Shape} (found : arena.get? id = some shape) :
    shape ∈ arena.entries.toList.map (·.shape) := by
  obtain ⟨entry, there, rfl⟩ := Option.map_eq_some_iff.mp found
  exact List.mem_map_of_mem (Array.mem_toList_iff.mpr (Array.mem_of_getElem? there))

/-- What is shown is a type of the arena. -/
theorem Shows.mem_entries {room left : Nat} {id : TypeId} {type : FunctionType}
    (shows : arena.Shows room id left type) :
    Shape.function type ∈ arena.entries.toList.map (·.shape) := by
  induction shows with
  | here found => exact mem_entries_of_get? found
  | inside _ _ _ ih => exact ih

theorem render_of_isNil {id : TypeId} (nil : arena.isNil id = true) (one two : Style) (room : Nat) :
    arena.render one room id = arena.render two room id := by
  cases room with
  | zero => rfl
  | succ room =>
    unfold isNil at nil
    split at nil
    next found => simp [render, found, shapeText]
    · simp at nil

/-- Without receivers a text is not longer, and the same exactly if none was shown. -/
theorem trimmed_render (lineBreaks : Bool) (room : Nat) (id : TypeId) :
    Trimmed (arena.render ⟨lineBreaks, true⟩ room id) (arena.render ⟨lineBreaks, false⟩ room id) ∧
      (arena.render ⟨lineBreaks, true⟩ room id = arena.render ⟨lineBreaks, false⟩ room id ↔
        ∀ left type, arena.Shows room id left type → type.hasReceiver = true →
          WritesNothing (arena.render ⟨lineBreaks, false⟩ left) type) := by
  induction room generalizing id with
  | zero => exact ⟨.refl _, by simp [render, not_shows_zero]⟩
  | succ room ih =>
    cases found : arena.get? id with
    | none =>
      have unshown : ∀ left type, ¬ arena.Shows (room + 1) id left type := by
        rintro left type (also | ⟨also, -, -⟩) <;> simp [found] at also
      simp [render, found, unshown, Trimmed.refl]
    | some shape =>
      have shape_text := trimmed_shapeText arena (fun id => (ih id).1) lineBreaks
        (fun id nil => render_of_isNil nil _ _ room) (room = maxDepth) shape
      simp only [render, found]
      -- The texts are the same if this type hides nothing and no part hides anything further in.
      refine ⟨shape_text.1, shape_text.2.trans ?_⟩
      simp only [(ih _).2, shows_succ_iff found]
      constructor
      · rintro ⟨own, parts⟩ left type (⟨same, rfl⟩ | ⟨part, member, shown⟩)
        · exact own type same
        · exact parts part member left type shown
      · intro all
        exact ⟨fun type same => all room type (Or.inl ⟨same, rfl⟩),
          fun part member left type shown => all left type (Or.inr ⟨part, member, shown⟩)⟩

/-! ## Line breaks -/

/-- Only the outermost type is written on several lines. -/
theorem render_lineBreaks (lineBreaks hideReceiver : Bool) {room : Nat} (inside : room ≤ maxDepth) :
    arena.render ⟨lineBreaks, hideReceiver⟩ room = arena.render ⟨false, hideReceiver⟩ room := by
  induction room with
  | zero => rfl
  | succ room ih =>
    funext id
    have below : room ≠ maxDepth := Nat.ne_of_lt inside
    simp only [render, ih (Nat.le_of_lt inside), below, decide_false]
    cases arena.get? id with
    | none => rfl
    | some shape => cases shape <;> simp [shapeText, functionText, parameters]

/-- How a function with these labels and results is declared. -/
def declaredAs (name : String) (type : FunctionType) (labels : List String) (results : String) :
    String :=
  (if name = "" then "function" else "function " ++ name) ++ genericsText type.generics
    ++ parenthesized (commas labels) ++ ": " ++ results

/-- Hiding the receiver of a method takes its first label away and changes nothing else, also in a
signature for a call on a receiver. -/
structure HidesOnlyReceiver (arena : Arena) (type : FunctionType) : Prop where
  labels : ∀ lineBreaks, arena.parameterLabels ⟨lineBreaks, true⟩ type =
    (arena.parameterLabels ⟨lineBreaks, false⟩ type).tail
  declaration : ∀ lineBreaks name, arena.namedFunction ⟨lineBreaks, true⟩ name type =
    declaredAs name type (arena.parameterLabels ⟨lineBreaks, false⟩ type).tail
      (arena.results (arena.render ⟨lineBreaks, false⟩ maxDepth) type)
  signature : ∀ name documentation, Query.signature arena name documentation true type =
    { Query.signature arena name documentation false type with
      label := declaredAs name type (arena.parameterLabels {} type).tail
        (arena.results (arena.render {} maxDepth) type)
      parameters := (Query.signature arena name documentation false type).parameters.tail }

theorem namedFunction_eq (style : Style) (name : String) (type : FunctionType) :
    arena.namedFunction style name type = declaredAs name type (arena.parameterLabels style type)
      (arena.results (arena.render style maxDepth) type) := rfl

theorem parameterLabels_lineBreaks (lineBreaks hideReceiver : Bool) (type : FunctionType) :
    arena.parameterLabels ⟨lineBreaks, hideReceiver⟩ type =
      arena.parameterLabels ⟨false, hideReceiver⟩ type := by
  simp [parameterLabels, parameters, render_lineBreaks lineBreaks hideReceiver (Nat.le_refl maxDepth)]

theorem labels_tail (draw : TypeId → String) (ids : List TypeId) (names : List (Option String)) :
    (labels draw ids names).tail = labels draw ids.tail names.tail := by
  cases ids <;> rfl

theorem parameterLabels_eq_iff {type : FunctionType} (method : type.hasReceiver = true) :
    arena.parameterLabels ⟨false, true⟩ type = (arena.parameterLabels ⟨false, false⟩ type).tail ↔
      ∀ id ∈ type.arguments.tail,
        arena.render ⟨false, true⟩ maxDepth id = arena.render ⟨false, false⟩ maxDepth id := by
  rw [← labels_eq_iff _ type.argumentNames.tail, ← labels_tail, ← labels_tail]
  simp [parameterLabels, parameters, method]

theorem results_eq_iff (type : FunctionType) :
    arena.results (arena.render ⟨false, true⟩ maxDepth) type =
        arena.results (arena.render ⟨false, false⟩ maxDepth) type ↔
      ∀ id ∈ type.results,
        arena.render ⟨false, true⟩ maxDepth id = arena.render ⟨false, false⟩ maxDepth id := by
  have trims : ∀ id, Trimmed (arena.render ⟨false, true⟩ maxDepth id)
      (arena.render ⟨false, false⟩ maxDepth id) := fun id => (trimmed_render false maxDepth id).1
  exact (trimmed_results arena trims type).2

/-- It is enough that one style hides nothing else. -/
theorem hidesOnlyReceiver_of_eq {type : FunctionType} (method : type.hasReceiver = true)
    (labels : arena.parameterLabels ⟨false, true⟩ type =
      (arena.parameterLabels ⟨false, false⟩ type).tail)
    (results : arena.results (arena.render ⟨false, true⟩ maxDepth) type =
      arena.results (arena.render ⟨false, false⟩ maxDepth) type) : arena.HidesOnlyReceiver type where
  labels lineBreaks := by
    rw [parameterLabels_lineBreaks, parameterLabels_lineBreaks lineBreaks false, labels]
  declaration lineBreaks name := by
    rw [namedFunction_eq, parameterLabels_lineBreaks, parameterLabels_lineBreaks lineBreaks false,
      render_lineBreaks _ _ (Nat.le_refl maxDepth), render_lineBreaks _ false (Nat.le_refl maxDepth),
      labels, results]
  signature name documentation := by
    simp only [Query.signature, method, Bool.and_true, Bool.and_false, namedFunction_eq, labels,
      results]

/-- Hiding the receiver of a method hides nothing else exactly if no method type with something between
its parentheses is shown in its other arguments and its results. -/
theorem hidesOnlyReceiver_iff (arena : Arena) {type : FunctionType}
    (method : type.hasReceiver = true) :
    (∀ style name, arena.namedFunction style name type =
      declaredAs name type (arena.parameterLabels style type)
        (arena.results (arena.render style maxDepth) type)) ∧
    (arena.HidesOnlyReceiver type ↔ ∀ id ∈ type.arguments.tail ++ type.results,
      ∀ left inner, arena.Shows maxDepth id left inner → inner.hasReceiver = true →
        WritesNothing (arena.render {} left) inner) := by
  refine ⟨fun style name => namedFunction_eq style name type, ?_⟩
  have texts : ∀ id, arena.render ⟨false, true⟩ maxDepth id = arena.render ⟨false, false⟩ maxDepth id ↔
      ∀ left inner, arena.Shows maxDepth id left inner → inner.hasReceiver = true →
        WritesNothing (arena.render {} left) inner := fun id => (trimmed_render false maxDepth id).2
  simp only [← texts, List.forall_mem_append]
  rw [← parameterLabels_eq_iff method, ← results_eq_iff]
  constructor
  · intro hides
    refine ⟨hides.labels false, ?_⟩
    have declared := hides.declaration false ""
    rw [namedFunction_eq, hides.labels false] at declared
    simpa [declaredAs] using declared
  · rintro ⟨labels, results⟩
    exact hidesOnlyReceiver_of_eq method labels results

namespace Callbacks

/-- A callback, a method type without arguments, and their union. -/
def types (callback : FunctionType) : Arena where
  entries := #[{ shape := .any }, { shape := .primitive .number },
    { shape := .function callback }, { shape := .function { hasReceiver := true } },
    { shape := .union [2, 3] }]

/-- `(self: any, callback: ...) -> ()` -/
def taking (callback : TypeId) : FunctionType where
  arguments := [0, callback]
  argumentNames := [some "self", some "callback"]
  hasReceiver := true

def plain : FunctionType where
  arguments := [1]

def method : FunctionType where
  arguments := [0, 1]
  argumentNames := [some "self", none]
  hasReceiver := true

end Callbacks

/-- Function types stay as they are, and so do method types that have no arguments. -/
theorem hidesOnlyReceiver_iff_plain :
    (Callbacks.taking 4).hasReceiver = true ∧
      (Callbacks.types Callbacks.plain).Shows maxDepth 4 6 { hasReceiver := true } ∧
      (Callbacks.types Callbacks.plain).HidesOnlyReceiver (Callbacks.taking 4) ∧
      (Callbacks.types Callbacks.plain).parameterLabels ⟨false, true⟩ (Callbacks.taking 4) =
        ["callback: ((number) -> ()) | (() -> ())"] := by
  have hides : (Callbacks.types Callbacks.plain).HidesOnlyReceiver (Callbacks.taking 4) := by
    refine (hidesOnlyReceiver_iff (Callbacks.types Callbacks.plain) rfl).2.mpr ?_
    intro id _ left inner shows method
    -- The only method type there is has no arguments.
    have listed := shows.mem_entries
    simp only [Callbacks.types, List.map_cons, List.map_nil, List.mem_cons, Shape.function.injEq,
      reduceCtorEq, List.not_mem_nil, or_false, false_or] at listed
    rcases listed with rfl | rfl
    · simp [Callbacks.plain] at method
    · rfl
  refine ⟨rfl, ?_, hides, ?_⟩
  · have found : (Callbacks.types Callbacks.plain).get? 4 = some (.union [2, 3]) := rfl
    have member : 3 ∈ (Shape.union [2, 3]).parts := by decide
    exact .inside found member (.here rfl)
  · rw [hides.labels]
    decide

/-- A method type that is the type of an argument loses its receiver too. -/
theorem hidesOnlyReceiver_nested :
    (Callbacks.taking 2).hasReceiver = true ∧
      (Callbacks.types Callbacks.method).parameterLabels ⟨false, false⟩ (Callbacks.taking 2) =
        ["self: any", "callback: (self: any, number) -> ()"] ∧
      (Callbacks.types Callbacks.method).parameterLabels ⟨false, true⟩ (Callbacks.taking 2) =
        ["callback: (number) -> ()"] ∧
      ¬ (Callbacks.types Callbacks.method).HidesOnlyReceiver (Callbacks.taking 2) := by
  have whole : (Callbacks.types Callbacks.method).parameterLabels ⟨false, false⟩
      (Callbacks.taking 2) = ["self: any", "callback: (self: any, number) -> ()"] := by decide
  have hidden : (Callbacks.types Callbacks.method).parameterLabels ⟨false, true⟩
      (Callbacks.taking 2) = ["callback: (number) -> ()"] := by decide
  refine ⟨rfl, whole, hidden, fun hides => ?_⟩
  have same := hides.labels false
  rw [whole, hidden] at same
  simp at same

end Arena

end Types

end LuauWorkspace
