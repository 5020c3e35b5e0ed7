import FoloXray.Core.Instance
import Mathlib.Algebra.Order.Group.Multiset
import Mathlib.Tactic.Abel

/-! # What becomes of callbacks

A callback that is handed in is called at once or stored.  One that is stored is pending until a feature is
added with which it can be called.  But `AddFeature` puts the callbacks that it has found pending in place of
all that are stored: those that were handed in by a callback meanwhile are lost.  If a callback fails,
`AddFeature` returns at once, and those that it has called stay pending.
-/

namespace FoloXray.Core

variable {τ φ ε : Type}

section Resolving

variable (w : World τ φ ε)

/-- A parameter of the callback has a type that no feature is registered under. -/
def Missing (features : List φ) (r : Callback τ φ ε) : Prop := ∃ t ∈ r.deps, ∀ f ∈ features, w.type f ≠ t

/-- The callback was called with registered features, one for each of its parameters. -/
def Served (features : List φ) (c : Call τ φ ε) : Prop :=
  List.Forall₂ (fun f t => w.assignable f t = true ∧ f ∈ features) c.2 c.1.deps

variable {w}

theorem Served.mono {features features' : List φ} {c : Call τ φ ε} (h : Served w features c)
    (hmem : ∀ f ∈ features, f ∈ features') : Served w features' c :=
  List.Forall₂.imp (fun f _ hf => ⟨hf.1, hmem f hf.2⟩) h

/-- Either one of the types is missing, or the features found have all of them. -/
theorem mapM_getFeature [DecidableEq τ] (features : List φ) (deps : List τ) :
    (deps.mapM (getFeature w features) = none ∧ ∃ t ∈ deps, ∀ f ∈ features, w.type f ≠ t) ∨
      ∃ fs, deps.mapM (getFeature w features) = some fs ∧ (∀ f ∈ fs, f ∈ features) ∧
        ∀ t ∈ deps, ∃ f ∈ fs, w.type f = t := by
  induction deps with
  | nil => exact .inr ⟨[], rfl, List.forall_mem_nil _, List.forall_mem_nil _⟩
  | cons t ts ih =>
    cases hget : getFeature w features t with
    | none =>
      refine .inl ⟨by simp [hget], t, List.mem_cons_self, ?_⟩
      intro f hf
      simpa using List.find?_eq_none.mp hget f hf
    | some f =>
      have hmem : f ∈ features := List.mem_of_find?_eq_some hget
      have htype : w.type f = t := by simpa using List.find?_some hget
      rcases ih with ⟨hnone, t', ht', hmissing⟩ | ⟨fs, hsome, hfs, hts⟩
      · exact .inl ⟨by simp [hget, hnone], t', List.mem_cons_of_mem _ ht', hmissing⟩
      · refine .inr ⟨f :: fs, by simp [hget, hsome], List.forall_mem_cons.mpr ⟨hmem, hfs⟩, ?_⟩
        refine List.forall_mem_cons.mpr ⟨⟨f, List.mem_cons_self, htype⟩, ?_⟩
        intro t' ht'
        obtain ⟨g, hg, hgt⟩ := hts t' ht'
        exact ⟨g, List.mem_cons_of_mem _ hg, hgt⟩

theorem forall₂_inputs {fs features : List φ} (hfs : ∀ f ∈ fs, f ∈ features) {deps : List τ}
    (hdeps : ∀ t ∈ deps, ∃ f ∈ fs, w.assignable f t = true) :
    List.Forall₂ (fun f t => w.assignable f t = true ∧ f ∈ features) (inputs w fs deps) deps := by
  induction deps with
  | nil => exact .nil
  | cons t ts ih =>
    obtain ⟨⟨f, hf, hassign⟩, hts⟩ := List.forall_mem_cons.mp hdeps
    have hfound : (fs.find? fun f => w.assignable f t).isSome = true :=
      List.find?_isSome.mpr ⟨f, hf, hassign⟩
    obtain ⟨g, hg⟩ := Option.isSome_iff_exists.mp hfound
    have hg' : w.assignable g t = true := List.find?_some (p := fun f => w.assignable f t) hg
    have hinputs : inputs w fs (t :: ts) = g :: inputs w fs ts := List.filterMap_cons_some hg
    rw [hinputs]
    exact .cons ⟨hg', hfs g (List.mem_of_find?_eq_some hg)⟩ (ih hts)

end Resolving

section Handing

/-- What comes of callbacks that are handed in one after the other, and of those that they hand in. -/
structure Handed (w : World τ φ ε) (s : Instance τ φ ε) (rs : List (Callback τ φ ε)) (s' : Instance τ φ ε)
    (events : List (Event τ φ ε)) : Prop where
  state : s' = s.store (stored events)
  accounted : (↑(stored events) + ↑((called events).map Prod.fst) : Multiset (Callback τ φ ε)) =
    ↑rs + ↑(handedIn (called events))
  resumed : resumed events = []
  served : ∀ c ∈ called events, Served w s.features c
  missing : ∀ r ∈ stored events, Missing w s.features r

variable {w : World τ φ ε} {s s' s'' : Instance τ φ ε} {r : Callback τ φ ε} {rs rs' : List (Callback τ φ ε)}
variable {events events' : List (Event τ φ ε)} {input : List φ}

theorem store_store (s : Instance τ φ ε) (rs rs' : List (Callback τ φ ε)) :
    (s.store rs).store rs' = s.store (rs ++ rs') := by
  simp only [Instance.store, List.append_assoc]

theorem handed_nil : Handed w s [] s [] where
  state := by simp [Instance.store, stored]
  accounted := rfl
  resumed := rfl
  served := List.forall_mem_nil _
  missing := List.forall_mem_nil _

theorem handed_stored (h : Missing w s.features r) : Handed w s [r] (s.store [r]) [.stored r] where
  state := rfl
  accounted := rfl
  resumed := rfl
  served := List.forall_mem_nil _
  missing := List.forall_mem_singleton.mpr h

/-- The callbacks that a callback hands in are taken care of before it returns. -/
theorem Handed.called (h : Handed w s r.nested s' events) (hserved : Served w s.features (r, input)) :
    Handed w s [r] s' (.called (r, input) :: events) where
  state := h.state
  accounted := by
    simp only [stored_called, called_called, List.map_cons, handedIn_cons, ← Multiset.cons_coe,
      ← Multiset.coe_add, Multiset.add_cons, h.accounted, Multiset.coe_nil, Multiset.cons_add, zero_add]
  resumed := h.resumed
  served := List.forall_mem_cons.mpr ⟨hserved, h.served⟩
  missing := h.missing

theorem Handed.trans (h : Handed w s rs s' events) (h' : Handed w s' rs' s'' events') :
    Handed w s (rs ++ rs') s'' (events ++ events') := by
  have hfeatures : s'.features = s.features := by rw [h.state]; rfl
  constructor
  · rw [h'.state, h.state, store_store, stored_append]
  · simp only [stored_append, called_append, List.map_append, handedIn_append, ← Multiset.coe_add]
    rw [add_add_add_comm, h.accounted, h'.accounted, add_add_add_comm]
  · rw [resumed_append, h.resumed, h'.resumed, List.append_nil]
  · rw [called_append]
    exact List.forall_mem_append.mpr ⟨h.served, hfeatures ▸ h'.served⟩
  · rw [stored_append]
    exact List.forall_mem_append.mpr ⟨h.missing, hfeatures ▸ h'.missing⟩

variable [DecidableEq τ]

mutual

/-- A callback waits for a feature, or it can be called. -/
theorem resolve_spec (hw : ∀ f, w.assignable f (w.type f) = true) :
    ∀ (r : Callback τ φ ε) (s : Instance τ φ ε),
    r.resolve w s = .unfinished ∧ Missing w s.features r ∨
      ∃ input s' events err, r.resolve w s = .finished input s' events err ∧
        Served w s.features (r, input) ∧ Handed w s r.nested s' events
  | .mk deps nested fails, s => by
    rcases mapM_getFeature (w := w) s.features deps with ⟨hnone, hmissing⟩ | ⟨fs, hsome, hfs, hdeps⟩
    · exact .inl ⟨by rw [Callback.resolve, hnone], hmissing⟩
    · have hserved : Served w s.features (.mk deps nested fails, inputs w fs deps) :=
        forall₂_inputs hfs fun t ht => by
          obtain ⟨f, hf, rfl⟩ := hdeps t ht
          exact ⟨f, hf, hw f⟩
      have hlength : (inputs w fs deps).length = deps.length := hserved.length_eq
      obtain ⟨s', events, hnested, hhanded⟩ := requireAll_spec hw nested s
      refine .inr ⟨_, s', events, fails (inputs w fs deps), ?_, hserved, hhanded⟩
      rw [Callback.resolve, hsome]
      dsimp only
      rw [if_neg (not_not.mpr hlength), hnested]

theorem requireAll_spec (hw : ∀ f, w.assignable f (w.type f) = true) :
    ∀ (rs : List (Callback τ φ ε)) (s : Instance τ φ ε),
    ∃ s' events, requireAll w s rs = some (s', events) ∧ Handed w s rs s' events
  | [], s => ⟨s, [], by rw [requireAll], handed_nil⟩
  | r :: rs, s => by
    rcases resolve_spec hw r s with ⟨hresolve, hmissing⟩ |
      ⟨input, s', events, err, hresolve, hserved, hnested⟩
    · obtain ⟨s'', events', hrest, hhanded⟩ := requireAll_spec hw rs (s.store [r])
      refine ⟨s'', .stored r :: events', ?_, (handed_stored hmissing).trans hhanded⟩
      rw [requireAll, hresolve]
      simp [hrest]
    · obtain ⟨s'', events', hrest, hhanded⟩ := requireAll_spec hw rs s'
      refine ⟨s'', .called (r, input) :: events ++ events', ?_, (hnested.called hserved).trans hhanded⟩
      rw [requireAll, hresolve]
      simp [hrest]

end

theorem requireFeatures_spec (hw : ∀ f, w.assignable f (w.type f) = true) (s : Instance τ φ ε)
    (r : Callback τ φ ε) :
    ∃ x, requireFeatures w s r = some x ∧ Handed w s [r] x.state x.events := by
  unfold requireFeatures
  rcases resolve_spec hw r s with ⟨hresolve, hmissing⟩ | ⟨input, s', events, err, hresolve, hserved, hnested⟩
  · rw [hresolve]
    exact ⟨_, rfl, handed_stored hmissing⟩
  · rw [hresolve]
    exact ⟨_, rfl, hnested.called hserved⟩

end Handing

section Loop

/-- What the loop of `AddFeature` does to the callbacks that it goes over, and to those that are handed in
meanwhile. -/
structure Resumed (w : World τ φ ε) (s : Instance τ φ ε) (rs : List (Callback τ φ ε))
    (x : Result τ φ ε (Except ε (List (Callback τ φ ε)))) : Prop where
  state : x.state = s.store (stored x.events)
  accounted : (↑(stored x.events) + ↑((called x.events).map Prod.fst) : Multiset (Callback τ φ ε)) =
    ↑(handedIn (called x.events)) + ↑(handedIn (resumed x.events))
  served : ∀ c ∈ called x.events ++ resumed x.events, Served w s.features c
  pending : ∀ rs', x.value = .ok rs' → (∀ r ∈ rs', Missing w s.features r) ∧
    (↑rs : Multiset (Callback τ φ ε)) = ↑rs' + ↑((resumed x.events).map Prod.fst)

variable {w : World τ φ ε} {s s' : Instance τ φ ε} {r : Callback τ φ ε} {rs : List (Callback τ φ ε)}
variable {events : List (Event τ φ ε)} {input : List φ}
variable {x : Result τ φ ε (Except ε (List (Callback τ φ ε)))}

theorem resumed_nil : Resumed w s [] ⟨s, [], .ok []⟩ where
  state := by simp [Instance.store, stored]
  accounted := rfl
  served := List.forall_mem_nil _
  pending := by
    rintro rs' heq
    cases heq
    exact ⟨List.forall_mem_nil _, rfl⟩

theorem Resumed.wait (h : Resumed w s rs x) (hmissing : Missing w s.features r) :
    Resumed w s (r :: rs) ⟨x.state, x.events, x.value.map (r :: ·)⟩ where
  state := h.state
  accounted := h.accounted
  served := h.served
  pending := by
    rintro rs' heq
    cases hvalue : x.value with
    | error e =>
      rw [hvalue] at heq
      cases heq
    | ok rs₀ =>
      rw [hvalue] at heq
      obtain rfl : r :: rs₀ = rs' := Except.ok.inj heq
      obtain ⟨hmiss, hcount⟩ := h.pending rs₀ hvalue
      refine ⟨List.forall_mem_cons.mpr ⟨hmissing, hmiss⟩, ?_⟩
      rw [← Multiset.cons_coe, ← Multiset.cons_coe, hcount, Multiset.cons_add]

/-- The callback is called; the loop goes on if it does not fail. -/
theorem Resumed.resume (hnested : Handed w s r.nested s' events) (hserved : Served w s.features (r, input))
    (h : Resumed w s' rs x) :
    Resumed w s (r :: rs) ⟨x.state, .resumed (r, input) :: events ++ x.events, x.value⟩ := by
  have hfeatures : s'.features = s.features := by rw [hnested.state]; rfl
  constructor
  · simp only [List.cons_append, stored_resumed, stored_append]
    rw [h.state, hnested.state, store_store]
  · simp only [List.cons_append, stored_resumed, called_resumed, resumed_resumed, stored_append,
      called_append, resumed_append, hnested.resumed, List.nil_append, List.map_append, handedIn_append,
      handedIn_cons, ← Multiset.coe_add]
    rw [add_add_add_comm, hnested.accounted, h.accounted]
    abel
  · simp only [List.cons_append, called_resumed, resumed_resumed, called_append, resumed_append,
      hnested.resumed, List.nil_append, List.forall_mem_append, List.forall_mem_cons]
    have hrest := List.forall_mem_append.mp (hfeatures ▸ h.served)
    exact ⟨⟨hnested.served, hrest.1⟩, hserved, hrest.2⟩
  · rintro rs' heq
    obtain ⟨hmiss, hcount⟩ := h.pending rs' heq
    refine ⟨hfeatures ▸ hmiss, ?_⟩
    simp only [List.cons_append, resumed_resumed, resumed_append, hnested.resumed, List.nil_append,
      List.map_cons, ← Multiset.cons_coe, hcount, Multiset.add_cons]

theorem resumed_failed (hnested : Handed w s r.nested s' events) (hserved : Served w s.features (r, input))
    (e : ε) : Resumed w s (r :: rs) ⟨s', .resumed (r, input) :: events, .error e⟩ where
  state := hnested.state
  accounted := by
    simp only [stored_resumed, called_resumed, resumed_resumed, hnested.resumed, handedIn_cons,
      handedIn_nil, List.append_nil, hnested.accounted]
    exact add_comm _ _
  served := by
    simp only [called_resumed, resumed_resumed, hnested.resumed, List.forall_mem_append,
      List.forall_mem_singleton]
    exact ⟨hnested.served, hserved⟩
  pending := nofun

variable [DecidableEq τ] (hw : ∀ f, w.assignable f (w.type f) = true)
include hw

theorem resolvePending_spec (rs : List (Callback τ φ ε)) (s : Instance τ φ ε) :
    ∃ x, resolvePending w s rs = some x ∧ Resumed w s rs x := by
  induction rs generalizing s with
  | nil => exact ⟨_, rfl, resumed_nil⟩
  | cons r rs ih =>
    rcases resolve_spec hw r s with ⟨hresolve, hmissing⟩ |
      ⟨input, s', events, err, hresolve, hserved, hnested⟩
    · obtain ⟨x, hrest, hx⟩ := ih s
      exact ⟨_, by rw [resolvePending, hresolve]; simp [hrest], hx.wait hmissing⟩
    · cases err with
      | some e => exact ⟨_, by rw [resolvePending, hresolve], resumed_failed hnested hserved e⟩
      | none =>
        obtain ⟨x, hrest, hx⟩ := ih s'
        exact ⟨_, by rw [resolvePending, hresolve]; simp [hrest], hx.resume hnested hserved⟩

end Loop

section Runs

def required (as : List (Action τ φ ε)) : List (Callback τ φ ε) :=
  as.filterMap fun
    | .requireFeatures r => some r
    | _ => none

def Entry.added : Entry τ φ ε → Bool
  | ⟨.addFeature _, _, []⟩ => true
  | _ => false

def eventsOf (log : List (Entry τ φ ε)) : List (Event τ φ ε) := log.flatMap Entry.events

/-- The callbacks that were pending and have been called for good. -/
def settled (log : List (Entry τ φ ε)) : List (Callback τ φ ε) :=
  (resumed (eventsOf (log.filter Entry.added))).map Prod.fst

/-- The callbacks that were stored while a feature was added. -/
def lost (log : List (Entry τ φ ε)) : List (Callback τ φ ε) := stored (eventsOf (log.filter Entry.added))

/-- From `s` to `s'`: each callback that is handed in is called or stored, and each that is stored is
pending, settled or lost. -/
structure Performs (w : World τ φ ε) (s : Instance τ φ ε) (as : List (Action τ φ ε)) (s' : Instance τ φ ε)
    (log : List (Entry τ φ ε)) : Prop where
  grows : ∀ f ∈ s.features, f ∈ s'.features
  handed : (↑(stored (eventsOf log)) + ↑((called (eventsOf log)).map Prod.fst) :
      Multiset (Callback τ φ ε)) =
    ↑(required as) + (↑(handedIn (called (eventsOf log))) + ↑(handedIn (resumed (eventsOf log))))
  kept : (↑s.featureResolutions + ↑(stored (eventsOf log)) : Multiset (Callback τ φ ε)) =
    ↑s'.featureResolutions + (↑(settled log) + ↑(lost log))
  served : ∀ c ∈ called (eventsOf log) ++ resumed (eventsOf log), Served w s'.features c
  missing : (∀ e ∈ log, ∀ f, e.action = .addFeature f → e.errors = []) → .start ∉ as → s.running = false →
    (∀ r ∈ s.featureResolutions, Missing w s.features r) →
      s'.running = false ∧ ∀ r ∈ s'.featureResolutions, Missing w s'.features r

variable {w : World τ φ ε} {s s' s'' : Instance τ φ ε} {a : Action τ φ ε} {as as' : List (Action τ φ ε)}
variable {log log' : List (Entry τ φ ε)} {events : List (Event τ φ ε)} {errors : List ε}

theorem Performs.trans (h : Performs w s as s' log) (h' : Performs w s' as' s'' log') :
    Performs w s (as ++ as') s'' (log ++ log') := by
  have hevents : eventsOf (log ++ log') = eventsOf log ++ eventsOf log' := List.flatMap_append
  have hsettled : settled (log ++ log') = settled log ++ settled log' := by
    simp [settled, eventsOf, List.flatMap_append]
  have hlost : lost (log ++ log') = lost log ++ lost log' := by
    simp [lost, eventsOf, List.flatMap_append]
  have hrequired : required (as ++ as') = required as ++ required as' := List.filterMap_append
  constructor
  · exact fun f hf => h'.grows f (h.grows f hf)
  · simp only [hevents, hrequired, stored_append, called_append, resumed_append, List.map_append,
      handedIn_append, ← Multiset.coe_add]
    rw [add_add_add_comm, h.handed, h'.handed]
    abel
  · simp only [hevents, hsettled, hlost, stored_append, ← Multiset.coe_add]
    rw [← add_assoc, h.kept, add_right_comm, h'.kept]
    abel
  · have hfirst := List.forall_mem_append.mp h.served
    have hsecond := List.forall_mem_append.mp h'.served
    simp only [hevents, called_append, resumed_append, List.forall_mem_append]
    exact ⟨⟨fun c hc => (hfirst.1 c hc).mono h'.grows, hsecond.1⟩,
      fun c hc => (hfirst.2 c hc).mono h'.grows, hsecond.2⟩
  · intro hadds hstart hrunning hmissing
    rw [List.forall_mem_append] at hadds
    rw [List.mem_append, not_or] at hstart
    obtain ⟨hrunning', hmissing'⟩ := h.missing hadds.1 hstart.1 hrunning hmissing
    exact h'.missing hadds.2 hstart.2 hrunning' hmissing'

theorem performs_nil : Performs w s [] s [] where
  grows := fun _ hf => hf
  handed := rfl
  kept := rfl
  served := List.forall_mem_nil _
  missing := fun _ _ hrunning hmissing => ⟨hrunning, hmissing⟩

theorem performs_quiet (hrequired : required [a] = [])
    (hsame : s'.featureResolutions = s.featureResolutions) (hgrows : ∀ f ∈ s.features, f ∈ s'.features)
    (hmissing : a ≠ .start → s.running = false → (∀ r ∈ s.featureResolutions, Missing w s.features r) →
      s'.running = false ∧ ∀ r ∈ s.featureResolutions, Missing w s'.features r) :
    Performs w s [a] s' [⟨a, [], errors⟩] where
  grows := hgrows
  handed := by
    rw [hrequired]
    rfl
  kept := by
    have hnothing : settled [(⟨a, [], errors⟩ : Entry τ φ ε)] = [] ∧
        lost [(⟨a, [], errors⟩ : Entry τ φ ε)] = [] := by
      unfold settled lost
      cases hadded : (⟨a, [], errors⟩ : Entry τ φ ε).added <;> simp [hadded, eventsOf, resumed, stored]
    rw [hnothing.1, hnothing.2, hsame]
    rfl
  served := List.forall_mem_nil _
  missing := by
    rw [hsame]
    exact fun _ hstart => hmissing fun h => hstart (h ▸ List.mem_singleton_self _)

theorem performs_required {r : Callback τ φ ε} (h : Handed w s [r] s' events) :
    Performs w s [.requireFeatures r] s' [⟨.requireFeatures r, events, errors⟩] := by
  have hevents : eventsOf [(⟨.requireFeatures r, events, errors⟩ : Entry τ φ ε)] = events :=
    List.append_nil _
  have hfeatures : s'.features = s.features := by rw [h.state]; rfl
  constructor
  · exact fun f hf => hfeatures ▸ hf
  · rw [hevents, h.resumed, h.accounted, handedIn_nil, Multiset.coe_nil, add_zero]
    rfl
  · rw [hevents, h.state, Instance.store, ← Multiset.coe_add]
    exact (add_zero _).symm
  · rw [hevents, h.resumed, List.append_nil, hfeatures]
    exact h.served
  · intro _ _ hrunning hmissing
    rw [hfeatures, h.state]
    exact ⟨hrunning, List.forall_mem_append.mpr ⟨hmissing, h.missing⟩⟩

section Adding

variable {f : φ} {rs : List (Callback τ φ ε)}

/-- A feature is added, and the callbacks that can be called now are. -/
theorem performs_added {x : Result τ φ ε (Except ε (List (Callback τ φ ε)))}
    (h : Resumed w { s with features := s.features ++ [f] } s.featureResolutions x)
    (hvalue : x.value = .ok rs) :
    Performs w s [.addFeature f] { x.state with featureResolutions := rs }
      [⟨.addFeature f, x.events, []⟩] := by
  have hevents : eventsOf [(⟨.addFeature f, x.events, []⟩ : Entry τ φ ε)] = x.events := List.append_nil _
  have hfeatures : x.state.features = s.features ++ [f] := by rw [h.state]; rfl
  obtain ⟨hmissing, hcount⟩ := h.pending rs hvalue
  constructor
  · intro g hg
    dsimp only
    rw [hfeatures]
    exact List.mem_append_left _ hg
  · rw [hevents, h.accounted]
    exact (zero_add _).symm
  · have hsettled : settled [(⟨.addFeature f, x.events, []⟩ : Entry τ φ ε)] =
        (resumed x.events).map Prod.fst :=
      congrArg (fun l => (resumed l).map Prod.fst) hevents
    have hlost : lost [(⟨.addFeature f, x.events, []⟩ : Entry τ φ ε)] = stored x.events :=
      congrArg stored hevents
    rw [hevents, hsettled, hlost, hcount]
    exact add_assoc _ _ _
  · rw [hevents]
    dsimp only
    rw [hfeatures]
    exact h.served
  · intro _ _ hrunning _
    dsimp only
    rw [hfeatures]
    exact ⟨by rw [h.state]; exact hrunning, hmissing⟩

/-- The order of the callbacks that are pending does not matter. -/
theorem Performs.perm (h : Performs w s as { s' with featureResolutions := rs } log)
    (hperm : rs.Perm s'.featureResolutions) : Performs w s as s' log where
  grows := h.grows
  handed := h.handed
  kept := h.kept.trans (congrArg (· + _) (Multiset.coe_eq_coe.mpr hperm))
  served := h.served
  missing := by
    intro hadds hstart hrunning hmissing
    obtain ⟨hrunning', hmissing'⟩ := h.missing hadds hstart hrunning hmissing
    exact ⟨hrunning', fun r hr => hmissing' r (hperm.mem_iff.mpr hr)⟩

theorem performs_failed {x : Result τ φ ε (Except ε (List (Callback τ φ ε)))}
    (h : Resumed w { s with features := s.features ++ [f] } s.featureResolutions x) (e : ε) :
    Performs w s [.addFeature f] x.state [⟨.addFeature f, x.events, [e]⟩] := by
  have hevents : eventsOf [(⟨.addFeature f, x.events, [e]⟩ : Entry τ φ ε)] = x.events := List.append_nil _
  have hfeatures : x.state.features = s.features ++ [f] := by rw [h.state]; rfl
  constructor
  · intro g hg
    rw [hfeatures]
    exact List.mem_append_left _ hg
  · rw [hevents, h.accounted]
    exact (zero_add _).symm
  · rw [hevents, h.state, Instance.store, ← Multiset.coe_add]
    exact (add_zero _).symm
  · rw [hevents, hfeatures]
    exact h.served
  · intro hadds
    have hnone := hadds _ (List.mem_singleton_self _) f rfl
    cases hnone

/-- No callback was called and none was stored: those that are pending are those that were. -/
theorem performs_unresolved {x : Result τ φ ε (Except ε (List (Callback τ φ ε)))}
    (h : Resumed w { s with features := s.features ++ [f] } s.featureResolutions x)
    (hvalue : x.value = .ok rs) (hmore : ¬ rs.length < x.state.featureResolutions.length) :
    Performs w s [.addFeature f] x.state [⟨.addFeature f, x.events, []⟩] := by
  have hcount := (h.pending rs hvalue).2
  have hcard := congrArg Multiset.card hcount
  rw [h.state, Instance.store, List.length_append] at hmore
  simp only [Multiset.card_add, Multiset.coe_card, List.length_map] at hcard
  dsimp only at hmore
  have hresumed : resumed x.events = [] := List.length_eq_zero_iff.mp (by omega)
  have hstored : stored x.events = [] := List.length_eq_zero_iff.mp (by omega)
  refine (performs_added h hvalue).perm (Multiset.coe_eq_coe.mp ?_)
  rw [h.state, hstored, Instance.store, List.append_nil, hcount, hresumed]
  exact (add_zero _).symm

variable [DecidableEq τ] (hw : ∀ f, w.assignable f (w.type f) = true)
include hw

theorem addFeature_spec (s : Instance τ φ ε) (f : φ) :
    ∃ x, addFeature w s f = some x ∧
      Performs w s [.addFeature f] x.state [⟨.addFeature f, x.events, x.value.toList⟩] := by
  have hgrows : ∀ g ∈ s.features, g ∈ s.features ++ [f] := fun g hg => List.mem_append_left _ hg
  unfold addFeature
  dsimp only
  by_cases hrunning : s.running = true
  · rw [if_pos hrunning]
    refine ⟨_, rfl, performs_quiet rfl rfl hgrows ?_⟩
    intro _ hstopped
    rw [hrunning] at hstopped
    cases hstopped
  · rw [if_neg hrunning]
    by_cases hempty : s.featureResolutions.length = 0
    · rw [if_pos hempty]
      refine ⟨_, rfl, performs_quiet rfl rfl hgrows ?_⟩
      intro _ hstopped _
      rw [List.length_eq_zero_iff.mp hempty]
      exact ⟨hstopped, List.forall_mem_nil _⟩
    · rw [if_neg hempty]
      obtain ⟨x, hresolve, hx⟩ := resolvePending_spec hw s.featureResolutions
        { s with features := s.features ++ [f] }
      rw [hresolve]
      cases hvalue : x.value with
      | error e => exact ⟨⟨x.state, x.events, some e⟩, by simp [hvalue], performs_failed hx e⟩
      | ok rs =>
        have hadded := performs_added hx hvalue
        by_cases hdone : rs.length = 0
        · obtain rfl := List.length_eq_zero_iff.mp hdone
          exact ⟨⟨{ x.state with featureResolutions := [] }, x.events, none⟩, by simp [hvalue], hadded⟩
        · by_cases hless : rs.length < x.state.featureResolutions.length
          · exact ⟨⟨{ x.state with featureResolutions := rs }, x.events, none⟩,
              by simp [hvalue, List.length_eq_zero_iff.not.mp hdone, hless], hadded⟩
          · exact ⟨⟨x.state, x.events, none⟩,
              by simp [hvalue, List.length_eq_zero_iff.not.mp hdone, hless],
              performs_unresolved hx hvalue hless⟩

end Adding

variable [DecidableEq τ] (hw : ∀ f, w.assignable f (w.type f) = true)
include hw

theorem step_spec (s : Instance τ φ ε) (a : Action τ φ ε) :
    ∃ x, step w s a = some x ∧ Performs w s [a] x.state [⟨a, x.events, x.value⟩] := by
  cases a with
  | requireFeatures r =>
    obtain ⟨x, hx, hhanded⟩ := requireFeatures_spec hw s r
    exact ⟨_, by rw [step, hx]; rfl, performs_required hhanded⟩
  | addFeature f =>
    obtain ⟨x, hx, hperforms⟩ := addFeature_spec hw s f
    exact ⟨_, by rw [step, hx]; rfl, hperforms⟩
  | start =>
    exact ⟨_, rfl, performs_quiet rfl rfl (fun _ hf => hf) fun hstart => absurd rfl hstart⟩
  | close =>
    exact ⟨_, rfl, performs_quiet rfl rfl (fun _ hf => hf) fun _ _ hmissing => ⟨rfl, hmissing⟩⟩

theorem perform_spec (s : Instance τ φ ε) (as : List (Action τ φ ε)) :
    ∃ s' log, perform w s as = some (s', log) ∧ Performs w s as s' log := by
  induction as generalizing s with
  | nil => exact ⟨s, [], rfl, performs_nil⟩
  | cons a as ih =>
    obtain ⟨x, hx, hfirst⟩ := step_spec hw s a
    obtain ⟨s', log, hrest, hperforms⟩ := ih x.state
    exact ⟨s', _, by rw [perform, hx]; simp [hrest], hfirst.trans hperforms⟩

end Runs

variable [DecidableEq τ] {w : World τ φ ε}

/-- In every run of a new instance whose features can be passed for the type they are registered under, no
operation panics.  Each callback that was handed in, from outside or by one that was called, has been called
at once or stored, and each that was stored is still pending, was called by an `AddFeature` that returned
without an error, or was stored during one and is lost.  Each was called with registered features, one for
each parameter; and as long as the instance has not been started and no `AddFeature` has failed, a callback is
only pending if one of its types is not registered. -/
theorem callbacks_accounted (hw : ∀ f, w.assignable f (w.type f) = true) (as : List (Action τ φ ε)) :
    ∃ s log, perform w newInstance as = some (s, log) ∧
      (↑(stored (eventsOf log)) + ↑((called (eventsOf log)).map Prod.fst) : Multiset (Callback τ φ ε)) =
        ↑(required as) + (↑(handedIn (called (eventsOf log))) + ↑(handedIn (resumed (eventsOf log)))) ∧
      (↑(stored (eventsOf log)) : Multiset (Callback τ φ ε)) =
        ↑s.featureResolutions + (↑(settled log) + ↑(lost log)) ∧
      (∀ c ∈ called (eventsOf log) ++ resumed (eventsOf log), Served w s.features c) ∧
      ((∀ e ∈ log, ∀ f, e.action = .addFeature f → e.errors = []) → .start ∉ as →
        ∀ r ∈ s.featureResolutions, Missing w s.features r) := by
  obtain ⟨s, log, hrun, hperforms⟩ := perform_spec hw newInstance as
  have hkept := hperforms.kept
  rw [newInstance, Multiset.coe_nil, zero_add] at hkept
  exact ⟨s, log, hrun, hperforms.handed, hkept, hperforms.served, fun hadds hstart =>
    (hperforms.missing hadds hstart rfl (List.forall_mem_nil _)).2⟩

inductive Part where
  | dispatcher
  | inboundManager
  | outboundManager
  | dns
  | policy
  | router
  | stats
  | fakeDNS
  deriving DecidableEq

def partWorld : World Part Part Unit where
  type f := f
  assignable f t := f = t
  start _ := none
  close _ := none

/-- The callback with which the dispatcher asks for an engine of fake addresses. -/
def fakeDNSCallback : Callback Part Part Unit := .mk [.fakeDNS] [] fun _ => none

def dispatcherCallback : Callback Part Part Unit :=
  .mk [.outboundManager, .router, .policy, .stats, .dns] [fakeDNSCallback] fun _ => none

/-- `initInstanceWithConfig` for the features of a profile and those that it adds itself, and then the
engine. -/
def startUp : List (Action Part Part Unit) :=
  [.requireFeatures dispatcherCallback, .addFeature .dispatcher, .addFeature .inboundManager,
    .addFeature .outboundManager, .addFeature .stats, .addFeature .dns, .addFeature .policy,
    .addFeature .router, .addFeature .fakeDNS]

/-- All dependencies count as resolved, but the engine never reaches the dispatcher. -/
theorem callbacks_accounted_startUp :
    ∃ s log, perform partWorld newInstance startUp = some (s, log) ∧ s.featureResolutions = [] ∧
      (lost log).map Callback.deps = [[.fakeDNS]] ∧
      (called (eventsOf log) ++ resumed (eventsOf log)).map (fun c => c.1.deps) =
        [[.outboundManager, .router, .policy, .stats, .dns]] ∧
      (↑(stored (eventsOf log)) : Multiset (Callback Part Part Unit)) = ↑(settled log) + ↑(lost log) := by
  have hlawful (f : Part) : partWorld.assignable f (partWorld.type f) = true := decide_eq_true rfl
  obtain ⟨s, log, hrun, -, hstored, -, -⟩ := callbacks_accounted hlawful startUp
  have hfinal : (perform partWorld newInstance startUp).all (fun x => x.1.featureResolutions.length = 0 ∧
      (lost x.2).map Callback.deps = [[.fakeDNS]] ∧
      (called (eventsOf x.2) ++ resumed (eventsOf x.2)).map (fun c => c.1.deps) =
        [[.outboundManager, .router, .policy, .stats, .dns]]) = true := by decide +kernel
  rw [hrun, Option.all_some, decide_eq_true_eq] at hfinal
  have hnone := List.length_eq_zero_iff.mp hfinal.1
  rw [hnone, Multiset.coe_nil, zero_add] at hstored
  exact ⟨s, log, hrun, hnone, hfinal.2.1, hfinal.2.2, hstored⟩

end FoloXray.Core
