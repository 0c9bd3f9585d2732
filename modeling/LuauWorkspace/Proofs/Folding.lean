import LuauWorkspace.Proofs.Containment
import Mathlib.Logic.Relation

/-!
# Folded paths

Folding obeys three rules: a `.` says nothing, a step up takes back the name in front of it, and
nothing lies above the root. Each rule leaves the folded names as they are, and together they bring
every path into one form, with the steps up in front of the names. So two paths name one module
exactly if the rules lead from both to the same components. What a path starts from and what it goes
on with may be folded first, since a rule that applies to either of them also applies to the whole.
-/
namespace LuauWorkspace

namespace Path

/-! ## Rules -/

/-- One use of a rule. -/
inductive Folds : List Component → List Component → Prop
  | here (front rest : List Component) : Folds (front ++ .here :: rest) (front ++ rest)
  | back (front rest : List Component) (name : String) :
    Folds (front ++ .name name :: .parent :: rest) (front ++ rest)
  | top (rest : List Component) : Folds (.root :: .parent :: rest) (.root :: rest)

abbrev FoldsTo : List Component → List Component → Prop := Relation.ReflTransGen Folds

theorem Folds.append {one two : List Component} (step : Folds one two) (more : List Component) :
    Folds (one ++ more) (two ++ more) := by
  cases step with
  | here front rest => simpa using Folds.here front (rest ++ more)
  | back front rest name => simpa using Folds.back front (rest ++ more) name
  | top rest => exact Folds.top (rest ++ more)

theorem FoldsTo.append {one two : List Component} (way : FoldsTo one two)
    (more : List Component) : FoldsTo (one ++ more) (two ++ more) :=
  Relation.ReflTransGen.lift (· ++ more) (fun _ _ step => Folds.append step more) _ _ way

/-- Rules only leave components out. -/
theorem Folds.sublist {one two : List Component} (step : Folds one two) : two.Sublist one := by
  cases step with
  | here front rest => simp
  | back front rest name => simp
  | top rest => simp

theorem FoldsTo.sublist {one two : List Component} (way : FoldsTo one two) :
    two.Sublist one := by
  induction way with
  | refl => exact List.Sublist.refl _
  | tail _ step ih => exact step.sublist.trans ih

/-- In front of components, a rule applies to them as before, unless it is about the root. -/
theorem FoldsTo.prepend {one two : List Component} (way : FoldsTo one two)
    (relative : .root ∉ one) (front : List Component) : FoldsTo (front ++ one) (front ++ two) := by
  induction way with
  | refl => exact .refl
  | @tail middle last before step ih =>
    refine ih.tail ?_
    cases step with
    | here left rest => simpa using Folds.here (front ++ left) rest
    | back left rest name => simpa using Folds.back (front ++ left) rest name
    | top rest => exact absurd ((FoldsTo.sublist before).subset (List.mem_cons_self ..)) relative

/-! ## What rules leave as it is -/

/-- The root stands in front, if anywhere, and no name is taken for a step up. -/
structure Sound (components : List Component) : Prop where
  top : .root ∉ components.tail
  plain : ∀ name, .name name ∈ components → name ≠ ".."

theorem Sound.sublist {one two : List Component} (sound : Sound one) (shorter : two.Sublist one) :
    Sound two where
  top again := sound.top (shorter.tail.subset again)
  plain name member := sound.plain name (shorter.subset member)

theorem Sound.head?_iff {components : List Component} (sound : Sound components) :
    components.head? = some .root ↔ .root ∈ components := by
  cases components with
  | nil => simp
  | cons first rest =>
    have later : .root ∉ rest := sound.top
    simp [later, eq_comm]

theorem Sound.append {one two : List Component} (sound : Sound one) (more : Sound two)
    (relative : .root ∉ two) : Sound (one ++ two) where
  top again := by
    cases one with
    | nil => exact more.top again
    | cons first rest =>
      rcases List.mem_append.mp again with member | member
      · exact sound.top member
      · exact relative member
  plain name member := (List.mem_append.mp member).elim (sound.plain name) (more.plain name)

theorem Folds.root_mem_iff {one two : List Component} (step : Folds one two) :
    .root ∈ one ↔ .root ∈ two := by
  cases step <;> simp

/-- The rule about the root may be used only where the root itself has been read. -/
theorem Folds.foldl_push {absolute : Bool} {stack : List String} {one two : List Component}
    (step : Folds one two) (plain : ∀ name, .name name ∈ one → name ≠ "..")
    (top : .root ∈ one → absolute = true ∧ stack = []) :
    one.foldl (push absolute) stack = two.foldl (push absolute) stack := by
  cases step with
  | here front rest => simp [push]
  | back front rest name =>
    have level : name ≠ ".." := plain name (by simp)
    simp [push, level]
  | top rest =>
    obtain ⟨rfl, rfl⟩ := top (List.mem_cons_self ..)
    simp [push]

/-- Components that fold to each other make one normalized path. -/
theorem FoldsTo.ofComponents_eq {one two : List Component} (way : FoldsTo one two)
    (sound : Sound one) : ofComponents one = ofComponents two := by
  induction way with
  | refl => rfl
  | @tail middle last before step ih =>
    have between : Sound middle := sound.sublist (FoldsTo.sublist before)
    have kind : (middle.head? = some .root) = (last.head? = some .root) := by
      rw [eq_iff_iff, between.head?_iff, (between.sublist step.sublist).head?_iff]
      exact step.root_mem_iff
    rw [ih, ofComponents, ofComponents]
    simp only [← kind, fold]
    rw [step.foldl_push between.plain]
    intro rooted
    exact ⟨decide_eq_true (between.head?_iff.mpr rooted), rfl⟩

/-! ## Components of paths -/

/-- The pieces of a relative path are its components, less the `.` that it may start with. -/
theorem components_of_relative {p : Path} (relative : p.isAbsolute = false) :
    let steps := (Text.pieces '/' p.text).filterMap Component.ofSegment?
    p.components = steps ∨ p.components = .here :: steps := by
  intro steps
  by_cases blank : p.text = ""
  · obtain rfl : p = ⟨""⟩ := by cases p; simpa using blank
    exact Or.inl (by decide)
  cases pieces : Text.pieces '/' p.text with
  | nil => exact absurd (List.map_eq_nil_iff.mp pieces) (Text.split_ne_nil '/' p.text.toList)
  | cons first rest =>
    have split := components_eq_opening blank pieces
    have start : first ≠ "" := by
      rintro rfl
      simp [isAbsolute, split, opening] at relative
    by_cases here : first = "."
    · have dot : Component.ofSegment? "." = none := by decide
      exact Or.inr (by simp [split, steps, pieces, opening, here, dot])
    · refine Or.inl ?_
      cases read : Component.ofSegment? first <;>
        simp [split, steps, pieces, opening, start, here, read]

theorem root_not_mem_of_relative {p : Path} (relative : p.isAbsolute = false) :
    .root ∉ p.components := by
  have below : .root ∉ (Text.pieces '/' p.text).filterMap Component.ofSegment? := fun member =>
    (Component.written_of_mem_filterMap (fun _ => slash_not_mem_pieces) member).2 rfl
  rcases components_of_relative relative with same | same
  · rw [same]
    exact below
  · simpa [same] using below

theorem sound_components (p : Path) : Sound p.components where
  top := by
    cases kind : p.isAbsolute with
    | true =>
      obtain ⟨rest, nonempty, pieces⟩ := pieces_of_isAbsolute kind
      have whole : ∀ segment ∈ rest, '/' ∉ segment.toList := fun segment later =>
        slash_not_mem_pieces (pieces ▸ List.mem_cons_of_mem _ later)
      have split : p.components = .root :: rest.filterMap Component.ofSegment? := by
        simp [components, pieces, nonempty]
      rw [split]
      exact fun again => (Component.written_of_mem_filterMap whole again).2 rfl
    | false => exact fun again => root_not_mem_of_relative kind (List.mem_of_mem_tail again)
  plain name member := by
    have written := (written_of_mem_components member).resolve_left (by simp)
    exact ne_parent_of_written (written.resolve_left (by simp))

/-- A relative path goes on where the first one ends; only the `.` that it may start with is lost. -/
theorem foldsTo_join (base : Path) {path : Path} (relative : path.isAbsolute = false) :
    FoldsTo (base.components ++ path.components) (base.join path).components := by
  have start : ¬ path.text.startsWith "/" = true := by
    rw [← isAbsolute_iff_startsWith, relative]
    simp
  by_cases blank : base.text = ""
  · have joined : base.join path = path := by simp [join, start, blank]
    have nothing : base.components = [] := by
      obtain rfl : base = ⟨""⟩ := by cases base; simpa using blank
      decide
    rw [joined, nothing]
    exact .refl
  · rw [components_join blank relative]
    rcases components_of_relative relative with same | same
    · rw [same]
    · rw [same]
      exact .single (.here _ _)

/-! ## One form for each path -/

/-- What is left of a path when it is folded: steps up, which only a relative path has, and names
below them. -/
structure Folded (absolute : Bool) where
  climbs : Nat
  names : List String
  top : absolute = true → climbs = 0
  written : ∀ name ∈ names, (Component.name name).Written

namespace Folded

variable {absolute : Bool} (folded : Folded absolute)

/-- The names as they are read, the last one first. -/
def stack : List String := folded.names.reverse ++ List.replicate folded.climbs ".."

def components : List Component :=
  (if absolute then [.root] else []) ++ List.replicate folded.climbs .parent ++
    folded.names.map .name

def path : Path := ofNames absolute (List.replicate folded.climbs ".." ++ folded.names)

/-- The path of which nothing has been read but its root. -/
def start (absolute : Bool) : Folded absolute := ⟨0, [], fun _ => rfl, by simp⟩

/-- One more component, folded by the rules and on the stack alike. -/
theorem exists_push {component : Component} (below : component ≠ .root)
    (read : component = .here ∨ component.Written) :
    ∃ next : Folded absolute, push absolute folded.stack component = next.stack ∧
      FoldsTo (folded.components ++ [component]) next.components := by
  obtain ⟨climbs, names, top, written⟩ := folded
  cases component with
  | root => exact absurd rfl below
  | here =>
    refine ⟨⟨climbs, names, top, written⟩, rfl, .single ?_⟩
    simpa using Folds.here (Folded.components ⟨climbs, names, top, written⟩) []
  | name text =>
    have fresh : (Component.name text).Written := read.resolve_left (by simp)
    have kept : ∀ name ∈ names ++ [text], (Component.name name).Written := by
      intro name member
      rcases List.mem_append.mp member with before | last
      · exact written name before
      · exact List.mem_singleton.mp last ▸ fresh
    refine ⟨⟨climbs, names ++ [text], top, kept⟩, by simp [stack, push], ?_⟩
    rw [components, components, List.map_append, List.map_singleton, List.append_assoc _ _ [_]]
  | parent =>
    rcases List.eq_nil_or_concat names with rfl | ⟨before, last, rfl⟩
    · cases absolute with
      | true =>
        -- Nothing lies above the root.
        obtain rfl : climbs = 0 := top rfl
        exact ⟨start true, by simp [start, stack, push], .single (Folds.top [])⟩
      | false =>
        refine ⟨⟨climbs + 1, [], by simp, by simp⟩, ?_, ?_⟩
        · cases climbs <;> simp [stack, push, List.replicate_succ]
        · simp only [components, List.replicate_succ', List.map_nil, List.append_nil]
          exact .refl
    · -- The last name is taken back.
      have level : last ≠ ".." := ne_parent_of_written (written last (by simp))
      refine ⟨⟨climbs, before, top, fun name member => written name (by simp [member])⟩, ?_, ?_⟩
      · simp [stack, push, level]
      · have taken := Folds.back ((if absolute then [Component.root] else []) ++
          List.replicate climbs .parent ++ before.map .name) [] last
        exact .single (by simpa [components] using taken)

theorem exists_foldl {below : List Component} (relative : .root ∉ below)
    (read : ∀ component ∈ below, component = .here ∨ component.Written) :
    ∃ last : Folded absolute, below.foldl (push absolute) folded.stack = last.stack ∧
      FoldsTo (folded.components ++ below) last.components := by
  induction below generalizing folded with
  | nil => exact ⟨folded, rfl, by rw [List.append_nil]⟩
  | cons first rest ih =>
    rw [List.mem_cons, not_or] at relative
    obtain ⟨next, pushed, step⟩ :=
      folded.exists_push (Ne.symm relative.1) (read first (List.mem_cons_self ..))
    obtain ⟨last, stacked, steps⟩ :=
      ih next relative.2 fun component later => read component (List.mem_cons_of_mem _ later)
    refine ⟨last, by rw [List.foldl_cons, pushed, stacked], ?_⟩
    have begun := FoldsTo.append step rest
    rw [List.append_assoc, List.singleton_append] at begun
    exact begun.trans steps

/-- A path that leads nowhere is written as a dot. -/
theorem components_path :
    folded.path.components =
      if absolute = false ∧ folded.climbs = 0 ∧ folded.names = [] then [.here]
      else folded.components := by
  obtain ⟨climbs, names, top, written⟩ := folded
  cases absolute with
  | true =>
    obtain rfl : climbs = 0 := top rfl
    simpa [path, components] using components_ofNames written
  | false =>
    have split := components_way (List.replicate climbs "") written
    simpa [way, path, components] using split

theorem foldsTo_path : FoldsTo folded.path.components folded.components := by
  rw [components_path]
  split
  next nowhere =>
    obtain ⟨rfl, climbs, names⟩ := nowhere
    have nothing : folded.components = [] := by simp [components, climbs, names]
    rw [nothing]
    exact .single (.here [] [])
  · exact .refl

/-- What is left of a path can be read off its normalized form. -/
theorem components_eq_filter :
    folded.components = folded.path.components.filter (· ≠ .here) := by
  have moves : .here ∉ folded.components := by cases absolute <;> simp [components]
  rw [components_path]
  split
  next nowhere =>
    obtain ⟨rfl, climbs, names⟩ := nowhere
    simp [components, climbs, names]
  · refine (List.filter_eq_self.mpr fun component member => ?_).symm
    exact decide_eq_true fun here => moves (here ▸ member)

theorem isAbsolute_path : folded.path.isAbsolute = absolute := by
  rw [isAbsolute, components_path]
  cases absolute with
  | true => simp [components]
  | false =>
    split
    · rfl
    · cases climbs : folded.climbs <;> cases names : folded.names <;>
        simp [components, climbs, names, List.replicate_succ]

theorem normalize_path : folded.path.normalize = folded.path := by
  obtain ⟨climbs, names, top, written⟩ := folded
  cases absolute with
  | true =>
    obtain rfl : climbs = 0 := top rfl
    have split : (ofNames true names).components = .root :: names.map .name :=
      components_ofNames written
    change (ofNames true names).normalize = ofNames true names
    rw [normalize, split]
    change ofNames true (fold true (names.map .name)) = _
    rw [fold_names]
  | false =>
    have kept := normalize_way (List.replicate climbs "") written
    simpa [way, path] using kept

end Folded

/-- The rules bring a path into the form that its normalized spelling shows. -/
theorem exists_folded (p : Path) :
    ∃ folded : Folded p.isAbsolute, p.normalize = folded.path ∧
      FoldsTo p.components folded.components := by
  have form : p.normalize = ofNames p.isAbsolute (fold p.isAbsolute p.components) := rfl
  have read : ∀ component ∈ p.components, component ≠ .root →
      component = .here ∨ component.Written := fun component member other =>
    (written_of_mem_components member).resolve_left other
  cases kind : p.isAbsolute with
  | true =>
    obtain ⟨below, split, written⟩ := components_of_isAbsolute kind
    have relative : .root ∉ below := by
      have top := (sound_components p).top
      rwa [split] at top
    obtain ⟨folded, stacked, steps⟩ := (Folded.start true).exists_foldl relative
      fun component member => Or.inr (written component member)
    change below.foldl (push true) [] = _ at stacked
    refine ⟨folded, ?_, split ▸ steps⟩
    rw [form, kind, split, fold, List.foldl_cons, push, stacked]
    simp [Folded.stack, Folded.path]
  | false =>
    have relative := root_not_mem_of_relative kind
    obtain ⟨folded, stacked, steps⟩ := (Folded.start false).exists_foldl relative
      fun component member => read component member (fun same => relative (same ▸ member))
    change p.components.foldl (push false) [] = _ at stacked
    refine ⟨folded, ?_, steps⟩
    rw [form, kind, fold, stacked]
    simp [Folded.stack, Folded.path]

theorem normalize_idempotent (p : Path) : p.normalize.normalize = p.normalize := by
  obtain ⟨folded, form, -⟩ := exists_folded p
  rw [form, folded.normalize_path]

/-- A path and its normalized form fold to the same components. -/
theorem exists_foldsTo_both (p : Path) :
    ∃ left, FoldsTo p.components left ∧ FoldsTo p.normalize.components left := by
  obtain ⟨folded, form, steps⟩ := exists_folded p
  exact ⟨folded.components, steps, form ▸ folded.foldsTo_path⟩

theorem normalize_eq_iff (p q : Path) :
    p.normalize = q.normalize ↔ Relation.Join FoldsTo p.components q.components := by
  constructor
  · intro same
    obtain ⟨one, first, left⟩ := exists_folded p
    obtain ⟨two, second, right⟩ := exists_folded q
    have shown : one.components = two.components := by
      rw [one.components_eq_filter, two.components_eq_filter, ← first, ← second, same]
    exact ⟨one.components, left, shown ▸ right⟩
  · rintro ⟨left, one, two⟩
    rw [normalize, normalize, FoldsTo.ofComponents_eq one (sound_components p),
      FoldsTo.ofComponents_eq two (sound_components q)]

theorem isAbsolute_normalize_eq (p : Path) : p.normalize.isAbsolute = p.isAbsolute := by
  obtain ⟨folded, form, -⟩ := exists_folded p
  rw [form, folded.isAbsolute_path]

theorem normalize_join_of_relative (base : Path) {path : Path}
    (relative : path.isAbsolute = false) :
    (base.join path).normalize = ofComponents (base.components ++ path.components) := by
  have sound : Sound (base.components ++ path.components) :=
    (sound_components base).append (sound_components path) (root_not_mem_of_relative relative)
  rw [normalize, FoldsTo.ofComponents_eq (foldsTo_join base relative) sound]

/-- Both parts of a joined path may be folded first. -/
theorem normalize_join (base path : Path) :
    (base.join path).normalize = (base.normalize.join path.normalize).normalize := by
  have kind := isAbsolute_normalize_eq path
  cases relative : path.isAbsolute with
  | true =>
    -- An absolute path replaces whatever it is joined to.
    rw [relative] at kind
    rw [join_of_absolute _ _ ((isAbsolute_iff_startsWith path).mp relative),
      join_of_absolute _ _ ((isAbsolute_iff_startsWith path.normalize).mp kind),
      normalize_idempotent]
  | false =>
    rw [relative] at kind
    obtain ⟨first, base_folds, base_again⟩ := exists_foldsTo_both base
    obtain ⟨second, path_folds, path_again⟩ := exists_foldsTo_both path
    -- Rules for the second part apply behind the first one as well, since they are not about
    -- the root.
    have whole (one two : Path) (level : two.isAbsolute = false)
        (left : FoldsTo one.components first) (right : FoldsTo two.components second) :
        ofComponents (one.components ++ two.components) = ofComponents (first ++ second) := by
      have inside := root_not_mem_of_relative level
      have way := (FoldsTo.append left two.components).trans
        (FoldsTo.prepend right inside first)
      exact FoldsTo.ofComponents_eq way
        ((sound_components one).append (sound_components two) inside)
    rw [normalize_join_of_relative base relative, normalize_join_of_relative _ kind,
      whole base path relative base_folds path_folds,
      whole base.normalize path.normalize kind base_again path_again]

end Path

end LuauWorkspace
