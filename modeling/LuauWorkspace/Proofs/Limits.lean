import LuauWorkspace.Types.Arena
import LuauWorkspace.Proofs.Ways

/-!
# Links and parents within limits

A type stands for the one at the end of its links, and a class has the properties of the nearest class
above it that declares them, where a parent may stand behind links too. Links and parents are given up
after so many steps, since they may come back to where they were. A way that ends is not given up
exactly if it has no more steps than that: then the end represents every type on the way, and a
property is found in the nearest class that declares it. Otherwise a link is left, and the property
is missed.
-/
namespace LuauWorkspace

namespace Types

namespace Arena

section Steps

variable (arena : Arena)

/-! ## Links -/

def Link (id next : TypeId) : Prop := arena.shapeOf? id = some (.bound next)

theorem link_unique : Relator.RightUnique arena.Link := by
  intro id one two first second
  have same : some (Shape.bound one) = some (.bound two) := first.symm.trans second
  cases same
  rfl

/-- Following a type goes along its links. -/
theorem stops_followWithin (limit : Nat) (id : TypeId) :
    Stops arena.Link limit id (arena.followWithin limit id) := by
  fun_induction followWithin arena limit id with
  | case1 id => exact .cut id
  | case2 limit id next link ih => exact .further link ih
  | case3 limit id none_left => exact .of_final _ fun next link => none_left next link

theorem stops_follow (id : TypeId) : Stops arena.Link followLimit id (arena.follow id) :=
  arena.stops_followWithin followLimit id

section Ending

variable {arena} {count : Nat} {id last : TypeId} (ending : Leads arena.Link count id last)
  (final : Final arena.Link last)
include ending final

theorem follow_eq_iff : arena.follow id = last ↔ count ≤ followLimit :=
  (arena.stops_follow id).eq_last_iff arena.link_unique ending final

theorem get?_not_bound_iff :
    (∀ next, arena.get? id ≠ some (.bound next)) ↔ count ≤ followLimit :=
  (arena.stops_follow id).final_iff arena.link_unique ending final

theorem follow_follow_iff : arena.follow (arena.follow id) = arena.follow id ↔
    count ≤ followLimit := by
  have some : 0 < followLimit := by decide
  exact (arena.stops_follow id).again_iff arena.link_unique ending final some
    (arena.stops_follow _)

/-- All types on a way have one representative exactly if the way is not too long. -/
theorem follow_alike_iff :
    (∀ passed other, Leads arena.Link passed id other → arena.follow other = arena.follow id) ↔
      count ≤ followLimit := by
  constructor
  · intro alike
    -- The end of the way represents itself.
    have itself : arena.follow last = last := (arena.stops_follow last).eq_of_final final
    rw [← follow_eq_iff ending final, ← alike count last ending]
    exact itself
  · intro within passed other leads
    have rest := Leads.rest arena.link_unique ending final leads
    have shorter : count - passed ≤ followLimit := Nat.le_trans (Nat.sub_le ..) within
    rw [(follow_eq_iff rest final).mpr shorter, (follow_eq_iff ending final).mpr within]

end Ending

/-! ## Parents -/

/-- A class has its parent behind at most so many links. -/
def ParentWithin (reach : Nat) (type parent : ClassType) : Prop :=
  ∃ id links last, type.parent = some id ∧ links ≤ reach ∧ Leads arena.Link links id last ∧
    arena.shapeOf? last = some (.ofClass parent)

/-- A class has its parent behind links, however many. -/
def Parent (type parent : ClassType) : Prop := ∃ reach, arena.ParentWithin reach type parent

/-- A class so many parents up is within the limits, and so are all parents on the way to it. -/
def Near (count : Nat) (type owner : ClassType) : Prop :=
  count ≤ followLimit ∧ Leads (arena.ParentWithin followLimit) count type owner

/-- A class does not declare the name, so it is looked for in the parent. -/
def Passes (up : ClassType → ClassType → Prop) (name : String) (type parent : ClassType) : Prop :=
  type.properties.get? name = none ∧ up type parent

theorem final_of_ofClass {id : TypeId} {type : ClassType}
    (found : arena.shapeOf? id = some (.ofClass type)) : Final arena.Link id := by
  intro next link
  rw [Link, found] at link
  cases link

theorem parent_unique : Relator.RightUnique arena.Parent := by
  rintro type one two ⟨_, id, _, last, up, -, leads, found⟩ ⟨_, id', _, last', up', -, leads', found'⟩
  obtain rfl : id = id' := Option.some.inj (up.symm.trans up')
  -- Both are found at the end of the same links.
  obtain ⟨-, rfl⟩ := Leads.end_unique arena.link_unique leads (arena.final_of_ofClass found) leads'
    (arena.final_of_ofClass found')
  have same : some (Shape.ofClass one) = some (.ofClass two) := found.symm.trans found'
  cases same
  rfl

/-- The parent that is asked is the one behind as many links as are followed. -/
theorem parentWithin_iff {type parent : ClassType} :
    arena.ParentWithin followLimit type parent ↔
      type.parent.bind arena.get? = some (.ofClass parent) := by
  rw [Option.bind_eq_some_iff]
  constructor
  · rintro ⟨id, links, last, up, within, leads, found⟩
    have followed := (follow_eq_iff leads (arena.final_of_ofClass found)).mpr within
    exact ⟨id, up, by rw [get?, followed, found]⟩
  · rintro ⟨id, up, found⟩
    obtain ⟨links, within, leads, -⟩ := arena.stops_follow id
    exact ⟨id, links, arena.follow id, up, within, leads, found⟩

theorem final_of_declared {up : ClassType → ClassType → Prop} {name : String} {owner : ClassType}
    {property : TypeId} (declared : owner.properties.get? name = some property) :
    Final (Passes up name) owner := by
  rintro parent ⟨silent, -⟩
  rw [declared] at silent
  cases silent

theorem classPropertyWithin_of_parent (limit : Nat) {type parent : ClassType} {name : String}
    (silent : type.properties.get? name = none) (up : arena.ParentWithin followLimit type parent) :
    arena.classPropertyWithin (limit + 1) type name = arena.classPropertyWithin limit parent name := by
  simp [classPropertyWithin, silent, arena.parentWithin_iff.mp up]

theorem classPropertyWithin_of_top (limit : Nat) {type : ClassType} (name : String)
    (top : limit = 0 ∨ ∀ parent, ¬ arena.ParentWithin followLimit type parent) :
    arena.classPropertyWithin limit type name = type.properties.get? name := by
  unfold classPropertyWithin
  cases own : type.properties.get? name with
  | some property => rfl
  | none =>
    dsimp only
    split
    next rest parent found =>
      rcases top with cut | top
      · cases cut
      · exact absurd (arena.parentWithin_iff.mpr found) (top parent)
    · rfl

/-- A property is looked for along the parents, up to the first class that declares it. -/
theorem exists_stops (limit : Nat) (type : ClassType) (name : String) :
    ∃ last, Stops (Passes (arena.ParentWithin followLimit) name) limit type last ∧
      arena.classPropertyWithin limit type name = last.properties.get? name := by
  induction limit generalizing type with
  | zero => exact ⟨type, .cut type, arena.classPropertyWithin_of_top 0 name (.inl rfl)⟩
  | succ limit ih =>
    cases own : type.properties.get? name with
    | some property =>
      refine ⟨type, .of_final _ (final_of_declared own), ?_⟩
      rw [arena.classPropertyWithin_of_own _ _ _ _ own, own]
    | none =>
      -- A parent behind too many links is none: what is there is a link and not a class.
      by_cases above : ∃ parent, arena.ParentWithin followLimit type parent
      · obtain ⟨parent, up⟩ := above
        obtain ⟨last, stops, answer⟩ := ih parent
        refine ⟨last, .further ⟨own, up⟩ stops, ?_⟩
        rw [arena.classPropertyWithin_of_parent limit own up, answer]
      · have top : ∀ parent, ¬ arena.ParentWithin followLimit type parent := not_exists.mp above
        refine ⟨type, .of_final _ fun parent step => top parent step.2, ?_⟩
        exact arena.classPropertyWithin_of_top _ name (.inr top)

/-! ## Nearest classes -/

theorem passes_unique (name : String) : Relator.RightUnique (Passes arena.Parent name) :=
  fun _ _ _ one two => arena.parent_unique one.2 two.2

section Nearest

variable {arena} {count : Nat} {type owner : ClassType} {name : String}

theorem passes_of_within {reach : Nat}
    (leads : Leads (Passes (arena.ParentWithin reach) name) count type owner) :
    Leads (Passes arena.Parent name) count type owner :=
  leads.mono fun _ _ step => ⟨step.1, reach, step.2⟩

/-- The same way, of which it is known apart that it passes the classes and that it is short. -/
theorem passes_within {reach : Nat} (passes : Leads (Passes arena.Parent name) count type owner)
    (short : Leads (arena.ParentWithin reach) count type owner) :
    Leads (Passes (arena.ParentWithin reach) name) count type owner := by
  induction passes with
  | here => exact .here _
  | further first _ ih =>
    cases short with
    | further up rest =>
      -- A class has one parent, however many links are allowed in front of it.
      obtain rfl := arena.parent_unique first.2 ⟨reach, up⟩
      exact .further ⟨first.1, up⟩ (ih rest)

variable {property : TypeId}

/-- What is answered is declared by a class within the limits, and by none before it. -/
theorem exists_owner (answered : arena.classProperty? type name = some property) :
    ∃ count owner, Leads (Passes arena.Parent name) count type owner ∧
      owner.properties.get? name = some property ∧ arena.Near count type owner := by
  obtain ⟨owner, ⟨count, within, leads, -⟩, answer⟩ := arena.exists_stops followLimit type name
  have declared : owner.properties.get? name = some property := answer.symm.trans answered
  have short : Leads (arena.ParentWithin followLimit) count type owner :=
    leads.mono fun _ _ step => step.2
  exact ⟨count, owner, passes_of_within leads, declared, within, short⟩

section Declared

variable (nearest : Leads (Passes arena.Parent name) count type owner)
  (declared : owner.properties.get? name = some property)
include nearest declared

/-- Any answer at all is that of the nearest class, so that class is within the limits. -/
theorem near_of_answered {other : TypeId}
    (answered : arena.classProperty? type name = some other) : arena.Near count type owner := by
  obtain ⟨taken, found, passes, also, near⟩ := exists_owner answered
  obtain ⟨rfl, rfl⟩ := Leads.end_unique (arena.passes_unique name) nearest
    (final_of_declared declared) passes (final_of_declared also)
  exact near

theorem answered_of_near (near : arena.Near count type owner) :
    arena.classProperty? type name = some property := by
  obtain ⟨last, stops, answer⟩ := arena.exists_stops followLimit type name
  have unique : Relator.RightUnique (Passes (arena.ParentWithin followLimit) name) :=
    fun _ _ _ one two => arena.parent_unique ⟨_, one.2⟩ ⟨_, two.2⟩
  -- Within the limits the search stops at the class that declares the name.
  obtain rfl : last = owner := (stops.eq_last_iff unique (passes_within nearest near.2)
    (final_of_declared declared)).mpr near.1
  rw [classProperty?, answer, declared]

/-- The nearest class that declares a name gives the answer exactly if it is within the limits. -/
theorem classProperty?_nearest_iff :
    (arena.classProperty? type name = some property ↔ arena.Near count type owner) ∧
      (arena.classProperty? type name = none ↔ ¬ arena.Near count type owner) := by
  have given : arena.classProperty? type name = some property ↔ arena.Near count type owner :=
    ⟨near_of_answered nearest declared, answered_of_near nearest declared⟩
  refine ⟨given, fun absent near => ?_, fun distant => ?_⟩
  · rw [given.mpr near] at absent
    cases absent
  · cases answered : arena.classProperty? type name with
    | none => rfl
    | some other => exact absurd (near_of_answered nearest declared answered) distant

end Declared

theorem classProperty?_eq_none_of_silent
    (silent : ∀ count owner, Leads arena.Parent count type owner →
      owner.properties.get? name = none) : arena.classProperty? type name = none := by
  cases answered : arena.classProperty? type name with
  | none => rfl
  | some property =>
    obtain ⟨count, owner, passes, declared, -⟩ := exists_owner answered
    rw [silent count owner (passes.mono fun _ _ step => step.2)] at declared
    cases declared

theorem classProperty?_eq_none_of_circles (circles : Circles (Passes arena.Parent name) type) :
    arena.classProperty? type name = none := by
  cases answered : arena.classProperty? type name with
  | none => rfl
  | some property =>
    obtain ⟨count, owner, passes, declared, -⟩ := exists_owner answered
    exact absurd circles
      (Leads.not_circles (arena.passes_unique name) passes (final_of_declared declared))

end Nearest

end Steps

/-- Where the links end, following a type comes to their end, to no link, to what stays when it is
followed again and to what all types on the way come to, each exactly if the links are within the
limit. The nearest class that declares a name answers for it exactly if it is within the limits, and
where none declares it there is no answer. No way is followed further than that, so those that come
back are left too. -/
theorem settled_iff_within_limit (arena : Arena) :
    (∀ count id last, Leads arena.Link count id last → Final arena.Link last →
      (arena.follow id = last ↔ count ≤ followLimit) ∧
      ((∀ next, arena.get? id ≠ some (.bound next)) ↔ count ≤ followLimit) ∧
      (arena.follow (arena.follow id) = arena.follow id ↔ count ≤ followLimit) ∧
      ((∀ passed other, Leads arena.Link passed id other → arena.follow other = arena.follow id) ↔
        count ≤ followLimit)) ∧
    (∀ name count type owner property, Leads (Passes arena.Parent name) count type owner →
      owner.properties.get? name = some property →
        (arena.classProperty? type name = some property ↔ arena.Near count type owner) ∧
        (arena.classProperty? type name = none ↔ ¬ arena.Near count type owner)) ∧
    (∀ name type, (∀ count owner, Leads arena.Parent count type owner →
      owner.properties.get? name = none) → arena.classProperty? type name = none) ∧
    (∀ id, Stops arena.Link followLimit id (arena.follow id) ∧
      (Circles arena.Link id → Leads arena.Link followLimit id (arena.follow id))) ∧
    ∀ name type,
      (∃ last, Stops (Passes (arena.ParentWithin followLimit) name) followLimit type last ∧
        arena.classProperty? type name = last.properties.get? name) ∧
      (Circles (Passes arena.Parent name) type → arena.classProperty? type name = none) := by
  refine ⟨fun count id last ending final => ⟨?_, ?_, ?_, ?_⟩, ?_, ?_, fun id => ⟨?_, ?_⟩,
    fun name type => ⟨?_, ?_⟩⟩
  · exact follow_eq_iff ending final
  · exact get?_not_bound_iff ending final
  · exact follow_follow_iff ending final
  · exact follow_alike_iff ending final
  · exact fun name count type owner property nearest declared =>
      classProperty?_nearest_iff nearest declared
  · exact fun name type silent => classProperty?_eq_none_of_silent silent
  · exact arena.stops_follow id
  · exact fun circles => (arena.stops_follow id).leads_of_circles arena.link_unique circles
  · exact arena.exists_stops followLimit type name
  · exact classProperty?_eq_none_of_circles

namespace Tall

/-- A shape behind so many links. -/
def links (bottom : Shape) (length : Nat) : Arena where
  entries := Array.ofFn fun id : Fin (length + 1) =>
    { shape := match id.val with
        | 0 => bottom
        | next + 1 => .bound next }

theorem shapeOf?_links_zero (bottom : Shape) (length : Nat) :
    (links bottom length).shapeOf? 0 = some bottom := by
  simp [shapeOf?, links]

theorem leads_links (bottom : Shape) {count length : Nat} (within : count ≤ length) :
    Leads (links bottom length).Link count count 0 := by
  induction count with
  | zero => exact .here 0
  | succ count ih =>
    refine .further ?_ (ih (Nat.le_of_succ_le within))
    have inside : count + 1 < length + 1 := by omega
    simp [Link, shapeOf?, links, inside]

/-- A number behind so many links. -/
def number (length : Nat) : Arena := links (.primitive .number) length

theorem leads_number (length : Nat) : Leads (number length).Link length length 0 :=
  leads_links _ (Nat.le_refl length)

theorem final_number (length : Nat) : Final (number length).Link 0 := by
  intro next link
  rw [Link, number, shapeOf?_links_zero] at link
  cases link

/-- The class at the top declares a name, and each one below it has the one above as its parent. -/
def rung : Nat → ClassType
  | 0 => { name := "Instance", properties := .ofList [("Name", 0)] }
  | height + 1 => { name := "Part", parent := some (2 * height + 1) }

theorem declared_rung : (rung 0).properties.get? "Name" = some 0 := by decide

/-- So many classes, each of them in front of a link to it. -/
def ladder (height : Nat) : Arena where
  entries := Array.ofFn fun id : Fin (2 * height) =>
    { shape := if id.val % 2 = 0 then .ofClass (rung (id.val / 2)) else .bound (id.val - 1) }

theorem leads_ladder {count height : Nat} (within : count ≤ height) :
    Leads (Passes ((ladder height).ParentWithin followLimit) "Name") count (rung count)
      (rung 0) := by
  induction count with
  | zero => exact .here _
  | succ count ih =>
    refine .further ⟨rfl, 2 * count + 1, 1, 2 * count, rfl, by decide, .further ?_ (.here _), ?_⟩
      (ih (Nat.le_of_succ_le within))
    · have inside : 2 * count + 1 < 2 * height := by omega
      simp [Link, shapeOf?, ladder, inside, Nat.add_mod]
    · have inside : 2 * count < 2 * height := by omega
      simp [shapeOf?, ladder, inside]

/-- The class at the top behind so many links. -/
def top (length : Nat) : Arena := links (.ofClass (rung 0)) length

/-- A class with its parent one link too far away. -/
def distant : ClassType := { name := "Part", parent := some 257 }

theorem leads_distant : Leads (Passes (top 257).Parent "Name") 1 distant (rung 0) := by
  refine .further ⟨rfl, 257, 257, 257, 0, rfl, Nat.le_refl _, ?_, ?_⟩ (.here _)
  · exact leads_links _ (Nat.le_refl _)
  · exact shapeOf?_links_zero _ _

theorem not_near_distant : ¬ (top 257).Near 1 distant (rung 0) := by
  rintro ⟨-, short⟩
  cases short with
  | further up rest =>
    cases rest
    obtain ⟨id, count, last, start, within, leads, found⟩ := up
    cases start
    have whole : Leads (top 257).Link 257 257 0 := leads_links _ (Nat.le_refl _)
    obtain ⟨rfl, -⟩ := Leads.end_unique (link_unique _) whole
      (final_of_ofClass _ (shapeOf?_links_zero _ _)) leads (final_of_ofClass _ found)
    exact absurd within (by decide)

/-- Two links to each other. -/
def ring : Arena where
  entries := #[{ shape := .bound 1 }, { shape := .bound 0 }]

theorem circles_ring : Circles ring.Link 0 :=
  ⟨0, 1, 0, .here 0, .further rfl (.further rfl (.here 0))⟩

/-- A class that is its own parent. -/
def own : ClassType := { name := "Own", parent := some 0 }

def owned : Arena where
  entries := #[{ shape := .ofClass own }]

theorem circles_owned : Circles (Passes owned.Parent "Name") own :=
  ⟨0, 0, own, .here own, .further ⟨rfl, 0, 0, 0, 0, rfl, Nat.le_refl 0, .here 0, rfl⟩ (.here own)⟩

/-- A class without a parent. -/
def lone : ClassType := { name := "Lone" }

theorem silent_lone (arena : Arena) {count : Nat} {owner : ClassType}
    (leads : Leads arena.Parent count lone owner) : owner.properties.get? "Name" = none := by
  cases leads with
  | here => rfl
  | further first =>
    obtain ⟨_, _, _, _, up, -⟩ := first
    cases up

end Tall

/-- Ways that are just short enough, with a link between any two classes, and ways that come back. -/
theorem settled_iff_within_limit_reached :
    (Leads (Tall.number 256).Link 256 256 0 ∧ Final (Tall.number 256).Link 0 ∧
      (Tall.number 256).follow 256 = 0) ∧
    (Leads (Passes (Tall.ladder 256).Parent "Name") 256 (Tall.rung 256) (Tall.rung 0) ∧
      (Tall.rung 0).properties.get? "Name" = some 0 ∧
      (Tall.ladder 256).classProperty? (Tall.rung 256) "Name" = some 0) ∧
    ((∀ count owner, Leads Tall.ring.Parent count Tall.lone owner →
        owner.properties.get? "Name" = none) ∧
      Tall.ring.classProperty? Tall.lone "Name" = none) ∧
    (Circles Tall.ring.Link 0 ∧ Leads Tall.ring.Link followLimit 0 (Tall.ring.follow 0)) ∧
    Circles (Passes Tall.owned.Parent "Name") Tall.own ∧
      Tall.owned.classProperty? Tall.own "Name" = none := by
  have ending := Tall.leads_number 256
  have final := Tall.final_number 256
  have passes : Leads (Passes ((Tall.ladder 256).ParentWithin followLimit) "Name") 256
      (Tall.rung 256) (Tall.rung 0) := Tall.leads_ladder (Nat.le_refl _)
  have nearest := passes_of_within passes
  have near : (Tall.ladder 256).Near 256 (Tall.rung 256) (Tall.rung 0) :=
    ⟨Nat.le_refl _, passes.mono fun _ _ step => step.2⟩
  have silent : ∀ count owner, Leads Tall.ring.Parent count Tall.lone owner →
      owner.properties.get? "Name" = none := fun _ _ leads => Tall.silent_lone _ leads
  obtain ⟨followed, -⟩ := (settled_iff_within_limit (Tall.number 256)).1 256 256 0 ending final
  obtain ⟨given, -⟩ := (settled_iff_within_limit (Tall.ladder 256)).2.1 "Name" 256 (Tall.rung 256)
    (Tall.rung 0) 0 nearest Tall.declared_rung
  obtain ⟨-, -, absent, round, -⟩ := settled_iff_within_limit Tall.ring
  obtain ⟨-, -, -, -, asked⟩ := settled_iff_within_limit Tall.owned
  exact ⟨⟨ending, final, followed.mpr (Nat.le_refl _)⟩,
    ⟨nearest, Tall.declared_rung, given.mpr near⟩,
    ⟨silent, absent "Name" Tall.lone silent⟩,
    ⟨Tall.circles_ring, (round 0).2 Tall.circles_ring⟩,
    Tall.circles_owned, (asked "Name" Tall.own).2 Tall.circles_owned⟩

/-- One link more, one class more, and one link more in front of a parent. -/
theorem not_settled_beyond_limit :
    (Leads (Tall.number 257).Link 257 257 0 ∧ Final (Tall.number 257).Link 0 ∧
      (Tall.number 257).follow 257 ≠ 0 ∧
      ¬ (∀ next, (Tall.number 257).get? 257 ≠ some (.bound next)) ∧
      (Tall.number 257).follow ((Tall.number 257).follow 257) ≠ (Tall.number 257).follow 257 ∧
      ¬ ∀ passed other, Leads (Tall.number 257).Link passed 257 other →
        (Tall.number 257).follow other = (Tall.number 257).follow 257) ∧
    (Leads (Passes (Tall.ladder 257).Parent "Name") 257 (Tall.rung 257) (Tall.rung 0) ∧
      (Tall.rung 0).properties.get? "Name" = some 0 ∧
      (Tall.ladder 257).classProperty? (Tall.rung 257) "Name" = none) ∧
    Leads (Passes (Tall.top 257).Parent "Name") 1 Tall.distant (Tall.rung 0) ∧
      (Tall.top 257).classProperty? Tall.distant "Name" = none := by
  have beyond : ¬ 257 ≤ followLimit := by decide
  have ending := Tall.leads_number 257
  have final := Tall.final_number 257
  have nearest : Leads (Passes (Tall.ladder 257).Parent "Name") 257 (Tall.rung 257)
      (Tall.rung 0) := passes_of_within (Tall.leads_ladder (Nat.le_refl _))
  refine ⟨⟨ending, final, ?_, ?_, ?_, ?_⟩, ⟨nearest, Tall.declared_rung, ?_⟩,
    Tall.leads_distant, ?_⟩
  · exact fun followed => beyond ((follow_eq_iff ending final).mp followed)
  · exact fun solid => beyond ((get?_not_bound_iff ending final).mp solid)
  · exact fun again => beyond ((follow_follow_iff ending final).mp again)
  · exact fun alike => beyond ((follow_alike_iff ending final).mp alike)
  · apply (classProperty?_nearest_iff nearest Tall.declared_rung).2.mpr
    exact fun near => beyond near.1
  · apply (classProperty?_nearest_iff Tall.leads_distant Tall.declared_rung).2.mpr
    exact Tall.not_near_distant

end Arena

end Types

end LuauWorkspace
