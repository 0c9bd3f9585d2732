import LuauWorkspace.Proofs.Receivers
import Mathlib.Data.List.Forall2

/-!
# Trees of types

A type refers to its parts by their numbers, and a link stands for what it leads to. Followed from a
type, both unfold to a tree, which has no end where the numbers lead back. Arenas may differ in much
that such a tree does not show: in the numbers, in parts that are shared or written twice, in links
between them, in how far a cycle is unrolled. Two types have one tree exactly if some relation holds
between them and is handed on from related types to their parts, and types with one tree have one text
in every style.
-/
namespace LuauWorkspace.Types

/-- What is written of a type apart from its parts. Classes and named tables are written by their
names. -/
inductive Head where
  /-- There is no type with the number. -/
  | missing
  /-- There are more links than are followed. -/
  | endless
  | primitive (kind : Primitive)
  | any
  | unknown
  | never
  | generic (name : String)
  | function (generics : List String) (arguments : Nat) (names : List (Option String))
    (hasReceiver : Bool)
  | table (name : Option String) (indexed : Bool) (keys : List String)
  | metatable
  | ofClass (name : String)
  | union
  | intersection
deriving DecidableEq, Repr

def Shape.head : Shape → Head
  | .bound _ => .endless
  | .primitive kind => .primitive kind
  | .any => .any
  | .unknown => .unknown
  | .never => .never
  | .generic name => .generic name
  | .function type =>
    .function type.generics type.arguments.length type.argumentNames type.hasReceiver
  | .table type =>
    let entries := type.name.isNone
    .table type.name (entries && type.indexer.isSome)
      (if entries then type.properties.sorted.map (·.1) else [])
  | .metatable _ _ => .metatable
  | .ofClass type => .ofClass type.name
  | .union _ => .union
  | .intersection _ => .intersection

def Head.isFunction : Head → Bool
  | .function .. => true
  | _ => false

namespace Arena

/-- The end of the links that start at a type, if there are at most so many. -/
def end? (arena : Arena) (limit : Nat) (id : TypeId) : Option TypeId :=
  match arena.shapeOf? id, limit with
  | some (.bound _), 0 => none
  | some (.bound next), limit + 1 => arena.end? limit next
  | _, _ => some id

section Trees

variable (arena : Arena) (limit : Nat)

def head (id : TypeId) : Head :=
  match arena.end? limit id with
  | none => .endless
  | some last =>
    match arena.shapeOf? last with
    | none => .missing
    | some shape => shape.head

/-- The parts of a type behind its links. -/
def below (id : TypeId) : List TypeId :=
  ((arena.end? limit id).bind arena.shapeOf?).elim [] Shape.parts

/-- The tree of a type, as what stands at the end of each path. A path says at each step which part it
goes to, and leads nowhere where there is no such part. -/
def tree : TypeId → List Nat → Option Head
  | id, [] => some (arena.head limit id)
  | id, step :: path => ((arena.below limit id)[step]?).bind fun part => tree part path

/-- The tree of a shape whose parts lie in the arena. -/
def treeOf (shape : Shape) : List Nat → Option Head
  | [] => some shape.head
  | step :: path => (shape.parts[step]?).bind fun part => arena.tree limit part path

/-- Types that unfold to one tree, along chains of at most so many links. -/
structure SameTree (other : Arena) (one two : TypeId) : Prop where
  tree : arena.tree limit one = other.tree limit two
  linked : ∀ path, arena.tree limit one path ≠ some .endless

/-- Function types that unfold to one tree, along chains of at most so many links. -/
structure SameFunction (other : Arena) (one two : FunctionType) : Prop where
  tree : arena.treeOf limit (.function one) = other.treeOf limit (.function two)
  linked : ∀ path, arena.treeOf limit (.function one) path ≠ some .endless

end Trees

variable {arena other : Arena} {limit : Nat}

/-! ## Links -/

theorem end?_not_bound {id last : TypeId} (ends : arena.end? limit id = some last) (next : TypeId) :
    arena.shapeOf? last ≠ some (.bound next) := by
  fun_induction end? arena limit id with
  | case1 => simp at ends
  | case2 _ _ _ _ ih => exact ih ends
  | case3 limit id none_left no_more =>
    -- A link here would have been too much or would have been followed.
    obtain rfl := Option.some.inj ends
    intro link
    cases limit with
    | zero => exact none_left next link rfl
    | succ limit => exact no_more next limit link rfl

/-- What follows more links stops at the same end. -/
theorem followWithin_of_end? {room : Nat} (within : limit ≤ room) {id last : TypeId}
    (ends : arena.end? limit id = some last) : arena.followWithin room id = last := by
  have solid := end?_not_bound ends
  fun_induction end? arena limit id generalizing room with
  | case1 => simp at ends
  | case2 id next limit link ih =>
    obtain ⟨more, rfl⟩ := Nat.exists_eq_add_of_lt within
    -- There is room for one more link, since there was a limit to count down from.
    rw [followWithin, link]
    exact ih (Nat.le_add_right ..) ends
  | case3 limit id =>
    obtain rfl := Option.some.inj ends
    exact arena.followWithin_of_not_bound room id solid

theorem get?_of_end? (within : limit ≤ followLimit) {id last : TypeId}
    (ends : arena.end? limit id = some last) : arena.get? id = arena.shapeOf? last := by
  rw [get?, follow, followWithin_of_end? within ends]

/-- A type behind links that end is missing or has a shape. -/
theorem head_cases (within : limit ≤ followLimit) {id : TypeId}
    (linked : arena.head limit id ≠ .endless) :
    (arena.get? id = none ∧ arena.head limit id = .missing) ∨
      ∃ shape, arena.get? id = some shape ∧ arena.head limit id = shape.head ∧
        arena.below limit id = shape.parts := by
  cases ends : arena.end? limit id with
  | none => simp [head, ends] at linked
  | some last =>
    rw [get?_of_end? within ends]
    cases found : arena.shapeOf? last with
    | none => exact Or.inl ⟨rfl, by simp [head, ends, found]⟩
    | some shape =>
      exact Or.inr ⟨shape, rfl, by simp [head, ends, found], by simp [below, ends, found]⟩

theorem head_ne_missing (shape : Shape) : shape.head ≠ .missing := by
  cases shape <;> simp [Shape.head]

/-! ## Steps to the parts -/

/-- Parts whose trees hang at the same places are as many, and have the same trees. -/
theorem forall₂_sameTree {ones twos : List TypeId}
    (same : ∀ (step : Nat) path, ((ones[step]?).bind fun part => arena.tree limit part path) =
      (twos[step]?).bind fun part => other.tree limit part path)
    (linked : ∀ (step : Nat) path, ((ones[step]?).bind fun part => arena.tree limit part path) ≠
      some .endless) : List.Forall₂ (arena.SameTree limit other) ones twos := by
  induction ones generalizing twos with
  | nil =>
    cases twos with
    | nil => exact .nil
    -- A part that only one side has shows in the path that stops at it.
    | cons two rest => exact absurd (same 0 []) (by simp [tree])
  | cons one rest ih =>
    cases twos with
    | nil => exact absurd (same 0 []) (by simp [tree])
    | cons two others =>
      refine .cons ⟨funext fun path => same 0 path, fun path => linked 0 path⟩ (ih ?_ ?_)
      · exact fun step path => same (step + 1) path
      · exact fun step path => linked (step + 1) path

theorem SameTree.head {one two : TypeId} (same : arena.SameTree limit other one two) :
    arena.head limit one = other.head limit two := by
  simpa [Arena.tree] using congrFun same.tree []

theorem SameTree.below {one two : TypeId} (same : arena.SameTree limit other one two) :
    List.Forall₂ (arena.SameTree limit other) (arena.below limit one) (other.below limit two) :=
  forall₂_sameTree (fun step path => congrFun same.tree (step :: path))
    fun step path => same.linked (step :: path)

theorem SameTree.head_ne_endless {one two : TypeId} (same : arena.SameTree limit other one two) :
    arena.head limit one ≠ .endless :=
  fun endless => same.linked [] (congrArg some endless)

/-- Two types with one tree are both missing, or have shapes with one head whose parts have the same
trees again. -/
theorem SameTree.get?_cases (within : limit ≤ followLimit) {one two : TypeId}
    (same : arena.SameTree limit other one two) :
    (arena.get? one = none ∧ other.get? two = none) ∨
      ∃ shape shown, arena.get? one = some shape ∧ other.get? two = some shown ∧
        shape.head = shown.head ∧
          List.Forall₂ (arena.SameTree limit other) shape.parts shown.parts := by
  have heads := same.head
  have linked := same.head_ne_endless
  -- Only what is missing has the head of it, so the mixed cases cannot be.
  rcases head_cases within linked with ⟨missing, first⟩ | ⟨shape, found, first, parts⟩
  · rcases head_cases within (heads ▸ linked) with ⟨also, -⟩ | ⟨shown, -, second, -⟩
    · exact Or.inl ⟨missing, also⟩
    · exact absurd (second.symm.trans (heads.symm.trans first)) (head_ne_missing shown)
  · rcases head_cases within (heads ▸ linked) with ⟨-, second⟩ | ⟨shown, also, second, others⟩
    · exact absurd (first.symm.trans (heads.trans second)) (head_ne_missing shape)
    · refine Or.inr ⟨shape, shown, found, also, first.symm.trans (heads.trans second), ?_⟩
      exact parts ▸ others ▸ same.below

theorem rel_getElem? {related : TypeId → TypeId → Prop} {ones twos : List TypeId}
    (pairs : List.Forall₂ related ones twos) (step : Nat) :
    Option.Rel related ones[step]? twos[step]? := by
  induction pairs generalizing step with
  | nil => exact .none
  | cons first _ ih =>
    cases step with
    | zero => exact .some first
    | succ step => simpa using ih step

/-- Function types with one tree have one head, and parts with the same trees. -/
theorem sameFunction_iff {one two : FunctionType} :
    arena.SameFunction limit other one two ↔
      (Shape.function one).head = (Shape.function two).head ∧
        List.Forall₂ (arena.SameTree limit other) (Shape.function one).parts
          (Shape.function two).parts := by
  constructor
  · intro same
    refine ⟨by simpa [treeOf] using congrFun same.tree [], ?_⟩
    exact forall₂_sameTree (fun step path => congrFun same.tree (step :: path))
      fun step path => same.linked (step :: path)
  · rintro ⟨heads, parts⟩
    have equal : ∀ path, arena.treeOf limit (.function one) path =
          other.treeOf limit (.function two) path ∧
        arena.treeOf limit (.function one) path ≠ some .endless := by
      intro path
      cases path with
      | nil => exact ⟨congrArg some heads, by simp [treeOf, Shape.head]⟩
      | cons step path =>
        have below := rel_getElem? parts step
        simp only [treeOf]
        generalize (Shape.function one).parts[step]? = part at below ⊢
        generalize (Shape.function two).parts[step]? = shown at below ⊢
        cases below with
        | some same => exact ⟨congrFun same.tree path, same.linked path⟩
        | none => exact ⟨rfl, by simp⟩
    exact ⟨funext fun path => (equal path).1, fun path => (equal path).2⟩

/-! ## Relations between types -/

/-- Related types have one head, which is not lost behind links, and related parts. -/
structure Bisimulation (arena : Arena) (limit : Nat) (other : Arena)
    (related : TypeId → TypeId → Prop) : Prop where
  head : ∀ one two, related one two → arena.head limit one = other.head limit two
  linked : ∀ one two, related one two → arena.head limit one ≠ .endless
  below : ∀ one two, related one two →
    List.Forall₂ related (arena.below limit one) (other.below limit two)

theorem sameTree_iff_bisimilar {one two : TypeId} :
    arena.SameTree limit other one two ↔
      ∃ related, arena.Bisimulation limit other related ∧ related one two := by
  constructor
  · intro same
    -- Having one tree is handed on to the parts itself.
    exact ⟨arena.SameTree limit other,
      ⟨fun _ _ => SameTree.head, fun _ _ => SameTree.head_ne_endless, fun _ _ => SameTree.below⟩, same⟩
  · rintro ⟨related, bisimulation, holds⟩
    have equal : ∀ path one two, related one two →
        arena.tree limit one path = other.tree limit two path ∧
          arena.tree limit one path ≠ some .endless := by
      -- By induction on the path, for all related types: a step leads to related types again, and
      -- the relation may lead back to where it was.
      intro path
      induction path with
      | nil =>
        intro one two holds
        exact ⟨congrArg some (bisimulation.head one two holds), fun endless =>
          bisimulation.linked one two holds (Option.some.inj endless)⟩
      | cons step path ih =>
        intro one two holds
        have parts := rel_getElem? (bisimulation.below one two holds) step
        simp only [tree]
        generalize (arena.below limit one)[step]? = part at parts ⊢
        generalize (other.below limit two)[step]? = shown at parts ⊢
        cases parts with
        | some related => exact ih _ _ related
        | none => exact ⟨rfl, by simp⟩
    exact ⟨funext fun path => (equal path one two holds).1,
      fun path => (equal path one two holds).2⟩

/-! ## Texts -/

theorem map_eq_of_forall₂ {related : TypeId → TypeId → Prop} {ones twos : List TypeId}
    (pairs : List.Forall₂ related ones twos) {draw drawn : TypeId → String}
    (alike : ∀ one two, related one two → draw one = drawn two) :
    ones.map draw = twos.map drawn := by
  induction pairs with
  | nil => rfl
  | cons first _ ih => rw [List.map_cons, List.map_cons, alike _ _ first, ih]

/-- Types that are written alike, alone and as parts of other types. -/
structure Alike (arena other : Arena) (draw drawn : TypeId → String) (one two : TypeId) : Prop where
  text : draw one = drawn two
  wrapped : arena.wrapped draw one = other.wrapped drawn two
  nil : arena.isNil one = other.isNil two

section Texts

variable {draw drawn : TypeId → String}

theorem labels_congr {ones twos : List TypeId}
    (pairs : List.Forall₂ (Alike arena other draw drawn) ones twos) (names : List (Option String)) :
    labels draw ones names = labels drawn twos names := by
  induction pairs generalizing names with
  | nil => rfl
  | cons first _ ih => rw [labels, labels, first.text, ih]

/-- Arguments and results lie in one list of parts. -/
theorem forall₂_of_head {related : TypeId → TypeId → Prop} {one two : FunctionType}
    (heads : (Shape.function one).head = (Shape.function two).head)
    (pairs : List.Forall₂ related (Shape.function one).parts (Shape.function two).parts) :
    List.Forall₂ related one.arguments two.arguments ∧
      List.Forall₂ related one.results two.results := by
  have count : one.arguments.length = two.arguments.length := by
    simp only [Shape.head, Head.function.injEq] at heads
    exact heads.2.1
  have front := List.forall₂_take_append _ _ _ pairs
  have back := List.forall₂_drop_append _ _ _ pairs
  rw [← count] at front back
  simp only [Shape.parts, List.take_left', List.drop_left'] at front back
  exact ⟨front, back⟩

theorem generics_eq_of_head {one two : FunctionType}
    (heads : (Shape.function one).head = (Shape.function two).head) :
    one.generics = two.generics := by
  simp only [Shape.head, Head.function.injEq] at heads
  exact heads.1

theorem parameters_congr (style : Style) {one two : FunctionType}
    (heads : (Shape.function one).head = (Shape.function two).head)
    (pairs : List.Forall₂ (Alike arena other draw drawn) one.arguments two.arguments) :
    parameters style draw one = parameters style drawn two := by
  simp only [Shape.head, Head.function.injEq] at heads
  obtain ⟨-, -, names, receiver⟩ := heads
  simp only [parameters, names, receiver, labels_congr pairs]

theorem results_congr {one two : FunctionType}
    (pairs : List.Forall₂ (Alike arena other draw drawn) one.results two.results) :
    arena.results draw one = other.results drawn two := by
  have texts := map_eq_of_forall₂ pairs fun _ _ alike => alike.text
  unfold results
  generalize one.results = ones at pairs texts ⊢
  generalize two.results = twos at pairs texts ⊢
  cases pairs with
  | nil => rfl
  | cons first rest =>
    cases rest with
    | nil => exact first.wrapped
    | cons second rest => simp only [texts]

theorem functionText_congr (style : Style) {one two : FunctionType}
    (heads : (Shape.function one).head = (Shape.function two).head)
    (pairs : List.Forall₂ (Alike arena other draw drawn) (Shape.function one).parts
      (Shape.function two).parts) :
    arena.functionText style draw one = other.functionText style drawn two := by
  obtain ⟨arguments, results⟩ := forall₂_of_head heads pairs
  rw [functionText, functionText, parameters_congr style heads arguments, results_congr results,
    generics_eq_of_head heads]

theorem unionText_congr {ones twos : List TypeId}
    (pairs : List.Forall₂ (Alike arena other draw drawn) ones twos) :
    arena.unionText draw ones = other.unionText drawn twos := by
  have texts := map_eq_of_forall₂ pairs fun _ _ alike => alike.wrapped
  have kept : List.Forall₂ (Alike arena other draw drawn)
      (ones.filter fun part => !arena.isNil part) (twos.filter fun part => !other.isNil part) :=
    List.rel_filter (fun _ _ alike => by simp [alike.nil]) pairs
  unfold unionText
  generalize (ones.filter fun part => !arena.isNil part) = solid at kept ⊢
  generalize (twos.filter fun part => !other.isNil part) = others at kept ⊢
  -- As many parts are kept out of as many, so both unions are optional or neither is.
  split
  next =>
    match others, twos, kept, pairs with
    | [_], [_, _], .cons part .nil, .cons _ (.cons _ .nil) =>
      exact congrArg (· ++ "?") part.wrapped
  next various =>
    split
    next =>
      match solid, ones, kept, pairs with
      | [_], [_, _], .cons _ .nil, .cons _ (.cons _ .nil) =>
        exact (various _ _ _ rfl rfl).elim
    · rw [texts]

theorem tableEntries_congr {one two : TableType}
    (indexed : one.indexer.isSome = two.indexer.isSome)
    (keys : one.properties.sorted.map (·.1) = two.properties.sorted.map (·.1))
    (pairs : List.Forall₂ (Alike arena other draw drawn)
      ((one.indexer.elim [] fun both => [both.1, both.2]) ++ one.properties.sorted.map (·.2))
      ((two.indexer.elim [] fun both => [both.1, both.2]) ++ two.properties.sorted.map (·.2))) :
    tableEntries draw one = tableEntries drawn two := by
  -- The rows of the properties, which are paired by their keys.
  have rows : ∀ ones twos : List (String × TypeId), ones.map (·.1) = twos.map (·.1) →
      List.Forall₂ (Alike arena other draw drawn) (ones.map (·.2)) (twos.map (·.2)) →
        (ones.map fun entry => entry.1 ++ ": " ++ draw entry.2) =
          twos.map fun entry => entry.1 ++ ": " ++ drawn entry.2 := by
    intro ones
    induction ones with
    | nil =>
      intro twos same _
      obtain rfl : twos = [] := by simpa using same.symm
      rfl
    | cons entry rest ih =>
      intro twos same pairs
      obtain ⟨shown, others, rfl, key, more⟩ := List.map_eq_cons_iff.mp same.symm
      obtain ⟨first, later⟩ := List.forall₂_cons.mp pairs
      rw [List.map_cons, List.map_cons, ih others more.symm later, first.text, key]
  rw [tableEntries_eq, tableEntries_eq]
  cases first : one.indexer with
  | none =>
    have nothing : two.indexer = none := by simpa [first] using indexed.symm
    rw [first, nothing] at pairs
    rw [nothing]
    exact rows _ _ keys pairs
  | some both =>
    obtain ⟨shown, second⟩ := Option.isSome_iff_exists.mp (indexed.symm.trans (by rw [first]; rfl))
    rw [first, second] at pairs
    rw [second]
    obtain ⟨key, pairs⟩ := List.forall₂_cons.mp pairs
    obtain ⟨value, pairs⟩ := List.forall₂_cons.mp pairs
    simp only [Option.elim_some, key.text, value.text]
    exact congrArg _ (rows _ _ keys pairs)

theorem tableText_congr (broken : Bool) {one two : TableType}
    (heads : (Shape.table one).head = (Shape.table two).head)
    (pairs : List.Forall₂ (Alike arena other draw drawn) (Shape.table one).parts
      (Shape.table two).parts) :
    tableText draw broken one = tableText drawn broken two := by
  simp only [Shape.head, Head.table.injEq] at heads
  obtain ⟨names, indexed, keys⟩ := heads
  cases named : one.name with
  | some name =>
    have also : two.name = some name := names.symm.trans named
    simp [tableText, named, also]
  | none =>
    have also : two.name = none := names.symm.trans named
    have entries : tableEntries draw one = tableEntries drawn two :=
      tableEntries_congr (by simpa [named, also] using indexed) (by simpa [named, also] using keys)
        (by simpa [Shape.parts, named, also] using pairs)
    simp only [tableText, named, also, entries]

/-- What is written of a shape is told by its head and by how its parts are written. -/
theorem shapeText_congr (style : Style) (outermost : Bool) {one two : Shape}
    (heads : one.head = two.head)
    (pairs : List.Forall₂ (Alike arena other draw drawn) one.parts two.parts) :
    arena.shapeText style draw outermost one = other.shapeText style drawn outermost two := by
  cases one <;> cases two <;> first | rfl | simp only [Shape.head, reduceCtorEq] at heads
  case primitive.primitive => exact congrArg Primitive.text (Head.primitive.inj heads)
  case generic.generic => exact Head.generic.inj heads
  case function.function => exact functionText_congr style heads pairs
  case table.table => exact tableText_congr _ heads pairs
  case metatable.metatable =>
    obtain ⟨front, pairs⟩ := List.forall₂_cons.mp pairs
    simp only [shapeText, front.text, (List.forall₂_cons.mp pairs).1.text]
  case ofClass.ofClass => exact Head.ofClass.inj heads
  case union.union => exact unionText_congr pairs
  case intersection.intersection =>
    exact congrArg (" & ".intercalate ·) (map_eq_of_forall₂ pairs fun _ _ alike => alike.wrapped)

end Texts

/-! ## One tree, one text -/

theorem wrapped_eq_of_get? (draw : TypeId → String) {id : TypeId} {shape : Shape}
    (found : arena.get? id = some shape) :
    arena.wrapped draw id =
      if shape.head.isFunction then parenthesized (draw id) else draw id := by
  simp only [wrapped, found]
  cases shape <;> rfl

theorem isNil_eq_of_get? {id : TypeId} {shape : Shape} (found : arena.get? id = some shape) :
    arena.isNil id = decide (shape.head = .primitive .nil) := by
  simp only [isNil, found]
  cases shape with
  | primitive kind => cases kind <;> rfl
  | _ => rfl

/-- Whether a type is a function or nil is told by its tree. -/
theorem SameTree.alike (within : limit ≤ followLimit) {one two : TypeId}
    (same : arena.SameTree limit other one two) {draw drawn : TypeId → String}
    (text : draw one = drawn two) : Alike arena other draw drawn one two := by
  rcases same.get?_cases within with ⟨missing, also⟩ | ⟨shape, shown, found, there, heads, -⟩
  · exact ⟨text, by simp [wrapped, missing, also, text], by simp [isNil, missing, also]⟩
  · refine ⟨text, ?_, ?_⟩
    · rw [wrapped_eq_of_get? draw found, wrapped_eq_of_get? drawn there, heads, text]
    · rw [isNil_eq_of_get? found, isNil_eq_of_get? there, heads]

theorem SameTree.render (within : limit ≤ followLimit) (style : Style) (room : Nat)
    {one two : TypeId} (same : arena.SameTree limit other one two) :
    arena.render style room one = other.render style room two := by
  -- On the room that is left: the trees may go on for ever, but not what is written of them.
  induction room generalizing one two with
  | zero => rfl
  | succ room ih =>
    rcases same.get?_cases within with ⟨missing, also⟩ | ⟨shape, shown, found, there, heads, parts⟩
    · simp only [Arena.render, missing, also]
    · simp only [Arena.render, found, there]
      exact shapeText_congr style _ heads (parts.imp fun _ _ below => below.alike within (ih below))

theorem SameFunction.alike (within : limit ≤ followLimit) {one two : FunctionType}
    (same : arena.SameFunction limit other one two) (style : Style) :
    List.Forall₂ (Alike arena other (arena.render style maxDepth) (other.render style maxDepth))
      (Shape.function one).parts (Shape.function two).parts :=
  (sameFunction_iff.mp same).2.imp fun _ _ below =>
    below.alike within (below.render within style maxDepth)

theorem SameFunction.parameterLabels (within : limit ≤ followLimit) {one two : FunctionType}
    (same : arena.SameFunction limit other one two) (style : Style) :
    arena.parameterLabels style one = other.parameterLabels style two := by
  have heads := (sameFunction_iff.mp same).1
  exact parameters_congr style heads (forall₂_of_head heads (same.alike within style)).1

theorem SameFunction.namedFunction (within : limit ≤ followLimit) {one two : FunctionType}
    (same : arena.SameFunction limit other one two) (style : Style) (name : String) :
    arena.namedFunction style name one = other.namedFunction style name two := by
  have heads := (sameFunction_iff.mp same).1
  have results := (forall₂_of_head heads (same.alike within style)).2
  rw [namedFunction_eq, namedFunction_eq, same.parameterLabels within style, results_congr results,
    declaredAs, declaredAs, generics_eq_of_head heads]

/-- Types that unfold to one tree are written alike in every style, and so are the parameters and
declarations of function types. -/
theorem text_eq_of_sameTree (arena other : Arena) {limit : Nat} (within : limit ≤ followLimit) :
    (∀ one two, arena.SameTree limit other one two →
      ∀ style, arena.text style one = other.text style two) ∧
    ∀ one two, arena.SameFunction limit other one two → ∀ style,
      arena.parameterLabels style one = other.parameterLabels style two ∧
        ∀ name, arena.namedFunction style name one = other.namedFunction style name two := by
  refine ⟨fun one two same style => same.render within style (maxDepth + 1), ?_⟩
  exact fun one two same style =>
    ⟨same.parameterLabels within style, same.namedFunction within style⟩

namespace Unrolled

def walk (steps : List TypeId) (next : TypeId) : FunctionType where
  arguments := steps
  argumentNames := [some "start", none]
  results := [next]

/-- A function type that is its own result, with one optional argument type. -/
def rolled : Arena where
  entries := #[{ shape := .function (walk [1, 1] 0) }, { shape := .union [2, 3] },
    { shape := .primitive .number }, { shape := .primitive .nil }]

/-- The same function type, as two of them that lead to each other by links, with an argument type
for each place. -/
def unrolled : Arena where
  entries := #[{ shape := .bound 4 }, { shape := .primitive .number }, { shape := .primitive .nil },
    { shape := .union [1, 2] }, { shape := .function (walk [3, 7] 5) },
    { shape := .function (walk [3, 3] 6) }, { shape := .bound 0 }, { shape := .union [8, 2] },
    { shape := .bound 1 }]

def pairs : List (TypeId × TypeId) :=
  [(0, 0), (0, 5), (0, 6), (1, 3), (1, 7), (2, 1), (2, 8), (3, 2)]

theorem bisimulation :
    rolled.Bisimulation 255 unrolled fun one two => (one, two) ∈ pairs where
  head one two member :=
    (by decide : ∀ pair ∈ pairs, rolled.head 255 pair.1 = unrolled.head 255 pair.2) _ member
  linked one two member :=
    (by decide : ∀ pair ∈ pairs, rolled.head 255 pair.1 ≠ .endless) _ member
  below one two member :=
    (by decide : ∀ pair ∈ pairs, List.Forall₂ (fun one two => (one, two) ∈ pairs)
      (rolled.below 255 pair.1) (unrolled.below 255 pair.2)) _ member

theorem sameTree {one two : TypeId} (member : (one, two) ∈ pairs) :
    rolled.SameTree 255 unrolled one two :=
  sameTree_iff_bisimilar.mpr ⟨_, bisimulation, member⟩

end Unrolled

/-- A cycle and the same cycle unrolled, with other numbers and links and less that is shared. -/
theorem text_eq_of_sameTree_unrolled :
    255 ≤ followLimit ∧ Unrolled.rolled.SameTree 255 Unrolled.unrolled 0 0 ∧
      (∀ style, Unrolled.rolled.text style 0 = Unrolled.unrolled.text style 0) ∧
      Unrolled.rolled.SameFunction 255 Unrolled.unrolled (Unrolled.walk [1, 1] 0)
        (Unrolled.walk [3, 7] 5) ∧
      ∀ style, Unrolled.rolled.parameterLabels style (Unrolled.walk [1, 1] 0) =
          Unrolled.unrolled.parameterLabels style (Unrolled.walk [3, 7] 5) ∧
        ∀ name, Unrolled.rolled.namedFunction style name (Unrolled.walk [1, 1] 0) =
          Unrolled.unrolled.namedFunction style name (Unrolled.walk [3, 7] 5) := by
  have within : 255 ≤ followLimit := by decide
  have same : Unrolled.rolled.SameTree 255 Unrolled.unrolled 0 0 := Unrolled.sameTree (by decide)
  have function : Unrolled.rolled.SameFunction 255 Unrolled.unrolled (Unrolled.walk [1, 1] 0)
      (Unrolled.walk [3, 7] 5) := by
    refine sameFunction_iff.mpr ⟨rfl, ?_⟩
    exact .cons (Unrolled.sameTree (by decide)) (.cons (Unrolled.sameTree (by decide))
      (.cons (Unrolled.sameTree (by decide)) .nil))
  obtain ⟨texts, functions⟩ := text_eq_of_sameTree Unrolled.rolled Unrolled.unrolled within
  exact ⟨within, same, texts 0 0 same, function, functions _ _ function⟩

end Arena

end LuauWorkspace.Types
