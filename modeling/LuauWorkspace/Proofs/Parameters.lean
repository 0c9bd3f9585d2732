import LuauWorkspace.Query.Signature
import Mathlib.Data.List.Forall2

/-!
# Active parameters

An argument of `f(...)` goes to the parameter at its own place, an argument of `object:f(...)` to the
next one, since the receiver takes the first. A signature has the labels of all parameters, and without
the first one where the call and the function both have a receiver. So the label at the place of the
last argument is that of its parameter, except in a call on a receiver of a function that was declared
without one: there it is the label of the parameter in front.
-/
namespace LuauWorkspace

namespace Types.Arena

/-- The text of one parameter, `name: type` where a name is known. -/
def labelOf (draw : TypeId → String) (name : Option String) (id : TypeId) : String :=
  match name with
  | some name => name ++ ": " ++ draw id
  | none => draw id

/-- The label of the parameter at an index. -/
def label? (arena : Arena) (style : Style) (type : FunctionType) (index : Nat) : Option String :=
  (type.arguments[index]?).map (labelOf (arena.render style maxDepth) (type.argumentNames[index]?).join)

theorem getElem?_labels (draw : TypeId → String) (ids : List TypeId) (names : List (Option String))
    (index : Nat) :
    (labels draw ids names)[index]? = (ids[index]?).map (labelOf draw (names[index]?).join) := by
  induction ids generalizing names index with
  | nil => simp [labels]
  | cons id rest ih =>
    cases index with
    | zero =>
      rw [labels, List.getElem?_cons_zero, List.getElem?_cons_zero, List.head?_eq_getElem?]
      rfl
    | succ index =>
      rw [labels, List.getElem?_cons_succ, List.getElem?_cons_succ, ih, List.getElem?_tail]

/-- A hidden receiver moves all labels one place to the front. -/
theorem getElem?_parameterLabels (arena : Arena) (style : Style) (type : FunctionType) (index : Nat) :
    (arena.parameterLabels style type)[index]? =
      arena.label? style type
        ((if type.hasReceiver && style.hideReceiver then 1 else 0) + index) := by
  rw [parameterLabels, parameters, List.getElem?_drop, getElem?_labels, label?]

end Types.Arena

namespace Query

open Syntax (Source)
open LuauWorkspace.Types (Arena FunctionType Style)

namespace WrittenCall

variable (call : WrittenCall)

/-- The parameter that an argument goes to. -/
def parameter (argument : Nat) : Nat := if call.onReceiver then argument + 1 else argument

/-- The parameter that the last argument goes to. -/
def lastParameter : Nat := call.parameter (call.arguments.length - 1)

/-- How the signature of a function is written for the call. -/
def style (type : FunctionType) : Style := { hideReceiver := type.hasReceiver && call.onReceiver }

/-- The active label is that of the parameter that the last argument goes to, if there is one. -/
def Shows (arena : Arena) (type : FunctionType) (active : Nat) (shown : Signature) : Prop :=
  ∀ label, arena.label? (call.style type) type call.lastParameter = some label →
    shown.parameters[active]? = some label

/-- The function was declared without the receiver that it is called on, and the parameter of the last
argument has another label than the one in front. -/
def Misses (arena : Arena) (type : FunctionType) : Prop :=
  (call.onReceiver = true ∧ type.hasReceiver = false) ∧
    ∃ label, arena.label? (call.style type) type call.lastParameter = some label ∧
      arena.label? (call.style type) type (call.lastParameter - 1) ≠ some label

/-- The number of labels that are hidden in front. -/
def shift (type : FunctionType) : Nat := if type.hasReceiver && call.onReceiver then 1 else 0

end WrittenCall

section

variable (arena : Arena) (call : WrittenCall) (type : FunctionType) (name : String)
  (documentation : Option String)

theorem getElem?_parameters (index : Nat) :
    (signature arena name documentation call.onReceiver type).parameters[index]? =
      arena.label? (call.style type) type (call.shift type + index) := by
  have hidden : (type.hasReceiver && (call.style type).hideReceiver) =
      (type.hasReceiver && call.onReceiver) := by
    cases receiver : type.hasReceiver <;> simp [WrittenCall.style, receiver]
  have shown := arena.getElem?_parameterLabels (call.style type) type index
  rw [hidden] at shown
  exact shown

/-- The place of the last argument is that of its parameter as often as the call and the function
agree on a receiver, and the one in front in the other calls on a receiver. -/
theorem shows_signature_iff :
    call.Shows arena type (call.arguments.length - 1)
        (signature arena name documentation call.onReceiver type) ↔ ¬ call.Misses arena type := by
  simp only [WrittenCall.Shows, WrittenCall.Misses, getElem?_parameters]
  by_cases apart : call.onReceiver = true ∧ type.hasReceiver = false
  · -- The receiver takes a parameter, but its label stays in the list.
    have place : call.shift type + (call.arguments.length - 1) = call.lastParameter - 1 := by
      simp [WrittenCall.shift, WrittenCall.lastParameter, WrittenCall.parameter, apart]
    rw [place]
    simp [apart]
  · -- As many labels are hidden in front as there are parameters that the receiver takes.
    have place : call.shift type + (call.arguments.length - 1) = call.lastParameter := by
      cases receiver : call.onReceiver with
      | false => simp [WrittenCall.shift, WrittenCall.lastParameter, WrittenCall.parameter, receiver]
      | true =>
        have method : type.hasReceiver = true := by simpa [receiver] using apart
        simp [WrittenCall.shift, WrittenCall.lastParameter, WrittenCall.parameter, receiver, method,
          Nat.add_comm]
    rw [place]
    simp [apart]

end

/-- Signatures are those of the function types that the callee can be called as, in their order. -/
theorem signatureHelp?_eq_some {source : Source} {module : Checked} {docs : Documentation}
    {position : Position} {call : WrittenCall} {help : SignatureHelp}
    (found : callAt? source position = some call)
    (answered : signatureHelp? source module docs position = some help) :
    help.activeParameter = call.arguments.length - 1 ∧
      ∃ callee name documentation, module.typeOf? call.callee = some callee ∧
        help.signatures = (overloads module.types (module.types.follow callee)).map
          (signature module.types name documentation call.onReceiver) := by
  obtain ⟨also, again, known⟩ := Option.bind_eq_some_iff.mp answered
  obtain rfl := Option.some.inj (found.symm.trans again)
  obtain ⟨callee, typed, shown⟩ := Option.bind_eq_some_iff.mp known
  dsimp only at shown
  split at shown
  · simp at shown
  · obtain rfl := Option.some.inj shown
    exact ⟨rfl, callee, _, _, typed, rfl⟩

/-- In every signature the active label is that of the parameter that the last argument goes to, unless
the function was declared without the receiver that it is called on. -/
theorem activeParameter_shows_iff (source : Source) (module : Checked) (docs : Documentation)
    (position : Position) {call : WrittenCall} (found : callAt? source position = some call)
    {help : SignatureHelp} (answered : signatureHelp? source module docs position = some help) :
    ∃ callee, module.typeOf? call.callee = some callee ∧
      List.Forall₂
        (fun type shown => call.Shows module.types type help.activeParameter shown ↔
          ¬ call.Misses module.types type)
        (overloads module.types (module.types.follow callee)) help.signatures := by
  obtain ⟨active, callee, name, documentation, typed, signatures⟩ :=
    signatureHelp?_eq_some found answered
  refine ⟨callee, typed, ?_⟩
  rw [signatures, active, List.forall₂_map_right_iff, List.forall₂_same]
  exact fun type _ => shows_signature_iff module.types call type name documentation

namespace Deposit

/-- `account:deposit(amount)` -/
def source : Source :=
  { name := ⟨"main"⟩
    nodes := #[⟨.onLine 0 0 7, .expr (.globalName "account")⟩,
      ⟨.onLine 0 0 15, .expr (.member 0 "deposit" (.onLine 0 8 15) ':')⟩,
      ⟨.onLine 0 16 22, .expr (.globalName "amount")⟩,
      ⟨.onLine 0 0 23, .expr (.call 1 [2] true (.onLine 0 16 22))⟩,
      ⟨.onLine 0 0 23, .stat (.block [3])⟩]
    locals := #[]
    root := 4 }

def call : WrittenCall := ⟨1, [2], true⟩

/-- `(account: any, amount: number) -> ()` -/
def deposit (hasReceiver : Bool) : FunctionType where
  arguments := [0, 1]
  argumentNames := [some "account", some "amount"]
  hasReceiver := hasReceiver

/-- The callee is the method type 2, the function type 3 or both. -/
def module (callee : Types.TypeId) : Checked where
  types := { entries := #[{ shape := .any }, { shape := .primitive .number },
    { shape := .function (deposit true) }, { shape := .function (deposit false) },
    { shape := .intersection [2, 3] }] }
  expressionTypes := .ofList [(1, callee)]

def shown (labels : List String) : Signature :=
  ⟨"function account:deposit(" ++ Arena.commas labels ++ "): ()", none, labels⟩

end Deposit

/-- A method and a plain function with the same parameters, called as one: only the signature of the
method shows the amount that is written. -/
theorem activeParameter_shows_iff_overloaded :
    callAt? Deposit.source ⟨0, 18⟩ = some Deposit.call ∧
      signatureHelp? Deposit.source (Deposit.module 4) {} ⟨0, 18⟩ =
        some ⟨[Deposit.shown ["amount: number"],
          Deposit.shown ["account: any", "amount: number"]], 0⟩ ∧
      Deposit.call.Shows (Deposit.module 4).types (Deposit.deposit true) 0
        (Deposit.shown ["amount: number"]) ∧
      ¬ Deposit.call.Shows (Deposit.module 4).types (Deposit.deposit false) 0
        (Deposit.shown ["account: any", "amount: number"]) := by
  have found : callAt? Deposit.source ⟨0, 18⟩ = some Deposit.call := rfl
  have answered : signatureHelp? Deposit.source (Deposit.module 4) {} ⟨0, 18⟩ =
      some ⟨[Deposit.shown ["amount: number"],
        Deposit.shown ["account: any", "amount: number"]], 0⟩ := by decide
  obtain ⟨callee, typed, all⟩ := activeParameter_shows_iff Deposit.source (Deposit.module 4) {} ⟨0, 18⟩
    found answered
  obtain rfl : 4 = callee := Option.some.inj typed
  obtain ⟨method, plain⟩ := List.forall₂_cons.mp all
  refine ⟨found, answered, method.mpr ?_, fun shows => ?_⟩
  · rintro ⟨⟨-, without⟩, -⟩
    simp [Deposit.deposit] at without
  · exact (List.forall₂_cons.mp plain).1.mp shows
      ⟨⟨rfl, rfl⟩, "amount: number", by decide, by decide⟩

/-- A plain function that is called on a receiver has the receiver as its active parameter while its
argument is written. -/
theorem activeParameter_receiver :
    callAt? Deposit.source ⟨0, 18⟩ = some Deposit.call ∧
      signatureHelp? Deposit.source (Deposit.module 3) {} ⟨0, 18⟩ =
        some ⟨[Deposit.shown ["account: any", "amount: number"]], 0⟩ ∧
      (Deposit.module 3).types.label? (Deposit.call.style (Deposit.deposit false))
        (Deposit.deposit false) Deposit.call.lastParameter = some "amount: number" ∧
      (Deposit.shown ["account: any", "amount: number"]).parameters[0]? = some "account: any" ∧
      ¬ Deposit.call.Shows (Deposit.module 3).types (Deposit.deposit false) 0
        (Deposit.shown ["account: any", "amount: number"]) := by
  have label : (Deposit.module 3).types.label? (Deposit.call.style (Deposit.deposit false))
      (Deposit.deposit false) Deposit.call.lastParameter = some "amount: number" := by decide
  have found : callAt? Deposit.source ⟨0, 18⟩ = some Deposit.call := rfl
  have answered : signatureHelp? Deposit.source (Deposit.module 3) {} ⟨0, 18⟩ =
      some ⟨[Deposit.shown ["account: any", "amount: number"]], 0⟩ := by decide
  have active : (Deposit.shown ["account: any", "amount: number"]).parameters[0]? =
      some "account: any" := by decide
  refine ⟨found, answered, label, active, fun shows => ?_⟩
  exact absurd (active.symm.trans (shows "amount: number" label)) (by decide)

end Query

end LuauWorkspace
