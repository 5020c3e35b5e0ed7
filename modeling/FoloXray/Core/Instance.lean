import Mathlib.Data.List.Forall2
import Mathlib.Data.List.Perm.Basic

/-! # The features of an instance

`core`: the parts of an instance are features, each registered under a type.  A part that needs others hands
in a callback with the types of its parameters.  The callback is called with the features of these types, at
once if they are there, and else when the last of them is registered.  A callback may hand in others while it
runs: what becomes of those depends on who has called it.
-/

namespace FoloXray.Core

/-- A callback: the types of its parameters, the callbacks that it hands in when it is called, whatever
comes of them, and the error that it returns then. -/
inductive Callback (τ φ ε : Type) where
  | mk (deps : List τ) (nested : List (Callback τ φ ε)) (fails : List φ → Option ε)

variable {τ φ ε : Type}

def Callback.deps : Callback τ φ ε → List τ
  | .mk deps _ _ => deps

def Callback.nested : Callback τ φ ε → List (Callback τ φ ε)
  | .mk _ nested _ => nested

structure World (τ φ ε : Type) where
  /-- The type that a feature is registered under. -/
  type : φ → τ
  /-- The feature can be passed for a parameter of the type. -/
  assignable : φ → τ → Bool
  /-- The errors with which the feature fails to start and to close. -/
  start : φ → Option ε
  close : φ → Option ε

structure Instance (τ φ ε : Type) where
  features : List φ
  featureResolutions : List (Callback τ φ ε)
  running : Bool

abbrev Call (τ φ ε : Type) := Callback τ φ ε × List φ

/-- What happens to callbacks: one that is handed in is stored or called at once, and one that is stored may
be called while a feature is added. -/
inductive Event (τ φ ε : Type) where
  | stored (r : Callback τ φ ε)
  | called (c : Call τ φ ε)
  | resumed (c : Call τ φ ε)

inductive Resolved (τ φ ε : Type) where
  | unfinished
  | finished (input : List φ) (s : Instance τ φ ε) (events : List (Event τ φ ε)) (err : Option ε)
  | panicked

/-- What an operation leaves, what happened to callbacks meanwhile, and what it returns. -/
structure Result (τ φ ε ρ : Type) where
  state : Instance τ φ ε
  events : List (Event τ φ ε)
  value : ρ

section Operations

variable [DecidableEq τ] (w : World τ φ ε)

def getFeature (features : List φ) (t : τ) : Option φ := features.find? fun f => w.type f = t

def inputs (fs : List φ) (deps : List τ) : List φ :=
  deps.filterMap fun pt => fs.find? fun f => w.assignable f pt

def Instance.store (s : Instance τ φ ε) (rs : List (Callback τ φ ε)) : Instance τ φ ε :=
  { s with featureResolutions := s.featureResolutions ++ rs }

mutual

def Callback.resolve (s : Instance τ φ ε) : Callback τ φ ε → Resolved τ φ ε
  | .mk deps nested fails =>
    match deps.mapM (getFeature w s.features) with
    | none => .unfinished
    | some fs =>
      let input := inputs w fs deps
      if input.length ≠ deps.length then .panicked
      else
        match requireAll s nested with
        | none => .panicked
        | some (s', events) => .finished input s' events (fails input)

def requireAll (s : Instance τ φ ε) :
    List (Callback τ φ ε) → Option (Instance τ φ ε × List (Event τ φ ε))
  | [] => some (s, [])
  | r :: rs =>
    match r.resolve s with
    | .panicked => none
    | .unfinished => do
      let (s', events) ← requireAll (s.store [r]) rs
      some (s', .stored r :: events)
    | .finished input s' events _ => do
      let (s'', events') ← requireAll s' rs
      some (s'', .called (r, input) :: events ++ events')

end

def requireFeatures (s : Instance τ φ ε) (r : Callback τ φ ε) : Option (Result τ φ ε (Option ε)) :=
  match r.resolve w s with
  | .panicked => none
  | .unfinished => some ⟨s.store [r], [.stored r], none⟩
  | .finished input s' events err => some ⟨s', .called (r, input) :: events, err⟩

/-- The loop of `AddFeature` over the callbacks that were pending before it: those that still are, or the
error of the first that fails. -/
def resolvePending (s : Instance τ φ ε) :
    List (Callback τ φ ε) → Option (Result τ φ ε (Except ε (List (Callback τ φ ε))))
  | [] => some ⟨s, [], .ok []⟩
  | r :: rs =>
    match r.resolve w s with
    | .panicked => none
    | .unfinished => do
      let x ← resolvePending s rs
      some ⟨x.state, x.events, x.value.map (r :: ·)⟩
    | .finished input s' events (some e) => some ⟨s', .resumed (r, input) :: events, .error e⟩
    | .finished input s' events none => do
      let x ← resolvePending s' rs
      some ⟨x.state, .resumed (r, input) :: events ++ x.events, x.value⟩

def addFeature (s : Instance τ φ ε) (f : φ) : Option (Result τ φ ε (Option ε)) :=
  let s := { s with features := s.features ++ [f] }
  -- that it fails to start is only logged
  if s.running then some ⟨s, [], none⟩
  else if s.featureResolutions.length = 0 then some ⟨s, [], none⟩
  else do
    let x ← resolvePending w s s.featureResolutions
    match x.value with
    | .error e => some ⟨x.state, x.events, some e⟩
    | .ok pending =>
      -- this is also where callbacks go that were stored meanwhile
      if pending.length = 0 then some ⟨{ x.state with featureResolutions := [] }, x.events, none⟩
      else if pending.length < x.state.featureResolutions.length then
        some ⟨{ x.state with featureResolutions := pending }, x.events, none⟩
      else some ⟨x.state, x.events, none⟩

inductive Action (τ φ ε : Type) where
  | requireFeatures (r : Callback τ φ ε)
  | addFeature (f : φ)
  | start
  | close

/-- An operation on an instance; one that closes it returns the errors of all its features. -/
def step (s : Instance τ φ ε) : Action τ φ ε → Option (Result τ φ ε (List ε))
  | .requireFeatures r => (requireFeatures w s r).map fun x => ⟨x.state, x.events, x.value.toList⟩
  | .addFeature f => (addFeature w s f).map fun x => ⟨x.state, x.events, x.value.toList⟩
  | .start => some ⟨{ s with running := true }, [], (s.features.findSome? w.start).toList⟩
  | .close => some ⟨{ s with running := false }, [], s.features.filterMap w.close⟩

/-- An operation, what happened to callbacks during it, and the errors it returned. -/
structure Entry (τ φ ε : Type) where
  action : Action τ φ ε
  events : List (Event τ φ ε)
  errors : List ε

def perform (s : Instance τ φ ε) : List (Action τ φ ε) → Option (Instance τ φ ε × List (Entry τ φ ε))
  | [] => some (s, [])
  | a :: as => do
    let x ← step w s a
    let (s', log) ← perform x.state as
    some (s', ⟨a, x.events, x.value⟩ :: log)

end Operations

def newInstance : Instance τ φ ε := ⟨[], [], false⟩

def Event.stored? : Event τ φ ε → Option (Callback τ φ ε)
  | .stored r => some r
  | _ => none

def Event.called? : Event τ φ ε → Option (Call τ φ ε)
  | .called c => some c
  | _ => none

def Event.resumed? : Event τ φ ε → Option (Call τ φ ε)
  | .resumed c => some c
  | _ => none

def stored (events : List (Event τ φ ε)) : List (Callback τ φ ε) := events.filterMap Event.stored?

def called (events : List (Event τ φ ε)) : List (Call τ φ ε) := events.filterMap Event.called?

def resumed (events : List (Event τ φ ε)) : List (Call τ φ ε) := events.filterMap Event.resumed?

def handedIn (calls : List (Call τ φ ε)) : List (Callback τ φ ε) := calls.flatMap fun c => c.1.nested

section Projections

variable (events events' : List (Event τ φ ε)) (r : Callback τ φ ε) (c : Call τ φ ε)

@[simp] theorem stored_append : stored (events ++ events') = stored events ++ stored events' :=
  List.filterMap_append

@[simp] theorem called_append : called (events ++ events') = called events ++ called events' :=
  List.filterMap_append

@[simp] theorem resumed_append : resumed (events ++ events') = resumed events ++ resumed events' :=
  List.filterMap_append

@[simp] theorem stored_stored : stored (.stored r :: events) = r :: stored events := rfl
@[simp] theorem stored_called : stored (.called c :: events) = stored events := rfl
@[simp] theorem stored_resumed : stored (.resumed c :: events) = stored events := rfl
@[simp] theorem called_stored : called (.stored r :: events) = called events := rfl
@[simp] theorem called_called : called (.called c :: events) = c :: called events := rfl
@[simp] theorem called_resumed : called (.resumed c :: events) = called events := rfl
@[simp] theorem resumed_stored : resumed (.stored r :: events) = resumed events := rfl
@[simp] theorem resumed_called : resumed (.called c :: events) = resumed events := rfl
@[simp] theorem resumed_resumed : resumed (.resumed c :: events) = c :: resumed events := rfl

@[simp] theorem handedIn_append (calls calls' : List (Call τ φ ε)) :
    handedIn (calls ++ calls') = handedIn calls ++ handedIn calls' := List.flatMap_append

@[simp] theorem handedIn_nil : handedIn ([] : List (Call τ φ ε)) = [] := rfl

@[simp] theorem handedIn_cons (calls : List (Call τ φ ε)) :
    handedIn (c :: calls) = c.1.nested ++ handedIn calls := List.flatMap_cons

end Projections

end FoloXray.Core
