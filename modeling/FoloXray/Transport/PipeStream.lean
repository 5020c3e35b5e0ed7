import FoloXray.Transport.PipeSteps
import Mathlib.Algebra.Order.BigOperators.Group.List
import Mathlib.Algebra.Order.Ring.Int

/-! # The stream through the pipe

What the pipe takes from its writers comes out at its readers in the order of the lock, once and without
gaps, whatever the interleaving of the callers; only an interrupt drops buffers.  With one writer and one
reader that order is the order of their calls.
-/

namespace FoloXray.Transport

open Foundation

variable {κ β ε : Type} {size : β → Int32} {opt : PipeOption}

/-- What a caller holds is explained by the pipe: buffers on their way in are not empty, and an error has
its cause. -/
def Call.Sound (size : β → Int32) (state : PipeState) (data : Option (List β)) : Call β ε → Prop
  | .writing mb | .writeWait mb => multiEmpty size mb = false
  | .readNotify (.failed e) | .readReturned (.failed e) =>
    state = .closed ∧ data = none ∧ e = .eof ∨ state = .errord ∧ e = .closedPipe
  | .writeNotify (some e) | .writeReturned (some e) => state ≠ .opened ∧ e = .closedPipe
  | _ => True

structure PipeSystem.Sound (size : β → Int32) (s : PipeSystem κ β ε) : Prop where
  stream : s.accepted = s.delivered ++ (s.pipe.buffered ++ s.discarded)
  discarded : s.discarded ≠ [] → s.pipe.state = .errord
  done : s.pipe.done = true ↔ s.pipe.state ≠ .opened
  data : ∀ mb, s.pipe.data = some mb → multiEmpty size mb = false
  calls : ∀ k, (s.calls k).Sound size s.pipe.state s.pipe.data

/-- A pipe that is over stays so, and a drained one stays drained. -/
theorem Call.Sound.mono {state state' : PipeState} {data data' : Option (List β)} {c : Call β ε}
    (h : c.Sound size state data) (hstate : state ≠ .opened → state' = state)
    (hdata : state ≠ .opened → data = none → data' = none) : c.Sound size state' data' := by
  cases state with
  | opened =>
    rcases c with _ | _ | _ | (_ | _ | _ | _) | (_ | _ | _ | _) | _ | _ | (_ | _) | (_ | _) <;>
      simp_all [Call.Sound]
  | closed | errord =>
    obtain rfl := hstate (by decide)
    rcases c with _ | _ | _ | (_ | _ | _ | _) | (_ | _ | _ | _) | _ | _ | (_ | _) | (_ | _) <;>
      simp_all [Call.Sound]

namespace PipeSystem

variable {s t : PipeSystem κ β ε} {a : PipeAction κ β ε} {k : κ} {c : Call β ε}

theorem sound_new : (PipeSystem.new : PipeSystem κ β ε).Sound size where
  stream := rfl
  discarded h := absurd rfl h
  done := by simp [PipeSystem.new]
  data mb h := by cases h
  calls _ := trivial

theorem Sound.finish (h : s.Sound size) (hopened : s.pipe.state = .opened) (p : Pipe β ε)
    (dropped : List β) (hover : p.state ≠ .opened) (hdone : p.done = true)
    (hdata : ∀ mb, p.data = some mb → s.pipe.data = some mb)
    (hstream : s.pipe.buffered = p.buffered ++ dropped) (hdropped : dropped ≠ [] → p.state = .errord) :
    Sound size { s with pipe := p, discarded := s.discarded ++ dropped } := by
  have hdiscarded : s.discarded = [] := by
    by_contra hne
    have herrord := h.discarded hne
    rw [hopened] at herrord
    cases herrord
  exact {
    stream := by simp [h.stream, hstream, hdiscarded]
    discarded := by simpa [hdiscarded] using hdropped
    done := by simp [hdone, hover]
    data := fun mb hmb => h.data mb (hdata mb hmb)
    calls := fun j =>
      (h.calls j).mono (fun hne => absurd hopened hne) (fun hne => absurd hopened hne) }

variable [DecidableEq κ]

theorem forall_calls_set {P : κ → Call β ε → Prop} (hs : ∀ j, P j (s.calls j)) (hc : P k c) (j : κ) :
    P j ((s.set k c).calls j) := by
  by_cases hj : j = k
  · subst hj
    rwa [calls_set_self]
  · rw [calls_set_of_ne hj]
    exact hs j

/-- A caller moves on, and the notifiers and the error slot change, but not the data. -/
theorem Sound.move (h : s.Sound size) (hc : c.Sound size s.pipe.state s.pipe.data) (r w : Bool)
    (x : Option ε) :
    Sound size { s.set k c with
      pipe := { s.pipe with readSignal := r, writeSignal := w, errChan := x } } where
  stream := h.stream
  discarded := h.discarded
  done := h.done
  data := h.data
  calls := forall_calls_set h.calls hc

theorem Sound.takeBuffers (h : s.Sound size) {mb : List β} (hdata : s.pipe.data = some mb) :
    Sound size { s.set k (.readNotify (.buffers mb)) with
      pipe := { s.pipe with data := none }
      delivered := s.delivered ++ mb } where
  stream := by
    have hstream := h.stream
    simp only [Pipe.buffered, hdata, Option.getD_some] at hstream
    simpa [Pipe.buffered, PipeSystem.set] using hstream
  discarded := h.discarded
  done := h.done
  data _ hmb := by cases hmb
  calls := forall_calls_set (fun j => (h.calls j).mono (fun _ => rfl) (fun _ _ => rfl)) trivial

theorem Sound.putBuffers (h : s.Sound size) {mb : List β} (hk : s.calls k = .writing mb)
    (hstate : s.pipe.getState size opt false = none) :
    Sound size { s.set k (.writeNotify none) with
      pipe := { s.pipe with data := some (s.pipe.buffered ++ mb) }
      accepted := s.accepted ++ mb } := by
  have hopened := (Pipe.getState_write_eq_none hstate).1
  -- nothing was dropped before, so the new buffers come behind the last ones
  have hdiscarded : s.discarded = [] := by
    by_contra hne
    have herrord := h.discarded hne
    rw [hopened] at herrord
    cases herrord
  have hmb : multiEmpty size mb = false := by
    have hcall := h.calls k
    rwa [hk] at hcall
  exact {
    stream := by
      have hstream := h.stream
      rw [hdiscarded, List.append_nil] at hstream
      simp [Pipe.buffered, PipeSystem.set, hstream, hdiscarded]
    discarded := h.discarded
    done := h.done
    data := by
      rintro _ ⟨⟩
      rw [multiEmpty_append, hmb, Bool.and_false]
    calls := forall_calls_set
      (fun j => (h.calls j).mono (fun _ => rfl) (fun hne => absurd hopened hne)) trivial }

theorem Sound.step (h : s.Sound size) (hmove : PipeMove size opt s a t) : t.Sound size := by
  cases hmove with
  | read | writeNothing | takeNothing | putDropped | wakeReader | doneReader | wakeError | expire
  | collectRead | collectWrite =>
    refine h.move ?_ _ _ _
    trivial
  | write hk hmb =>
    refine h.move ?_ _ _ _
    exact hmb
  | takeFailed hk he =>
    refine h.move ?_ _ _ _
    obtain ⟨hclosed, hempty, rfl⟩ | ⟨herrord, rfl⟩ := Pipe.getState_read_eq_some he
    · refine .inl ⟨hclosed, ?_, rfl⟩
      -- data that is left would not be empty
      cases hdata : s.pipe.data with
      | none => rfl
      | some mb =>
        rw [Pipe.buffered, hdata, Option.getD_some, h.data mb hdata] at hempty
        cases hempty
    · exact .inr ⟨herrord, rfl⟩
  | takeBuffers hk hstate hdata => exact h.takeBuffers hdata
  | putBuffers hk hstate => exact h.putBuffers hk hstate
  | @putFull k mb hk hstate | @wakeWriter k mb hk =>
    have hcall := h.calls k
    rw [hk] at hcall
    refine h.move ?_ _ _ _
    exact hcall
  | putFailed hk hstate =>
    obtain ⟨-, -, ⟨⟩⟩ | ⟨hover, -⟩ := Pipe.getState_write_eq_some hstate
    refine h.move ?_ _ _ _
    exact ⟨hover, rfl⟩
  | @notifyWriters k r hk =>
    have hcall := h.calls k
    rw [hk] at hcall
    refine h.move ?_ _ _ _
    cases r <;> exact hcall
  | @notifyReaders k e hk =>
    have hcall := h.calls k
    rw [hk] at hcall
    refine h.move ?_ _ _ _
    cases e <;> exact hcall
  | doneWriter hk hdone =>
    refine h.move ?_ _ _ _
    exact ⟨h.done.mp hdone, rfl⟩
  | close hopened =>
    simpa using h.finish hopened { s.pipe with state := .closed, done := true } [] (by simp) rfl
      (fun mb hmb => hmb) (by simp [Pipe.buffered]) (by simp)
  | interrupt hopened hempty =>
    simpa using h.finish hopened { s.pipe with state := .errord, done := true } [] (by simp) rfl
      (fun mb hmb => hmb) (by simp [Pipe.buffered]) (by simp)
  | interruptData hopened hempty =>
    exact h.finish hopened _ _ (by simp) rfl (fun mb hmb => by cases hmb) (by simp [Pipe.buffered])
      (fun _ => rfl)
  | closeOver | interruptOver => exact h
  | returnAnError | recover => exact ⟨h.stream, h.discarded, h.done, h.data, h.calls⟩

theorem Sound.of_run {as : List (PipeAction κ β ε)}
    (hrun : run (pipeStep size opt) PipeSystem.new as = some s) : s.Sound size :=
  run_invariant (fun _ _ _ h hstep => h.step (.of_step hstep)) sound_new hrun

end PipeSystem

/-- What the callers see: a writing call begins, and calls come back. -/
inductive PipeEvent (κ β ε : Type) where
  | writes (k : κ) (mb : List β)
  | wrote (k : κ) (e : Option PipeError)
  | got (k : κ) (r : ReadResult β ε)

def pipeEvents (s : PipeSystem κ β ε) : PipeAction κ β ε → List (PipeEvent κ β ε)
  | .write k mb => [.writes k mb]
  | .collect k =>
    match s.calls k with
    | .writeReturned e => [.wrote k e]
    | .readReturned r => [.got k r]
    | _ => []
  | _ => []

/-- The buffers given to `WriteMultiBuffer`, without the calls that have nothing to write. -/
def sent (size : β → Int32) (trace : List (PipeEvent κ β ε)) : List β :=
  trace.flatMap fun
    | .writes _ mb => if multiEmpty size mb then [] else mb
    | _ => []

def received (trace : List (PipeEvent κ β ε)) : List β :=
  trace.flatMap fun
    | .got _ (.buffers mb) => mb
    | _ => []

def Refused (trace : List (PipeEvent κ β ε)) : Prop := ∃ k e, .wrote k (some e) ∈ trace

namespace Call

/-- The buffers of a writing call that the pipe does not have yet. -/
def pending : Call β ε → List β
  | .writing mb | .writeWait mb => mb
  | _ => []

/-- The buffers of a reading call that its caller does not have yet. -/
def held : Call β ε → List β
  | .readNotify (.buffers mb) | .readReturned (.buffers mb) => mb
  | _ => []

/-- A writing call that is about to come back with an error. -/
def refused : Call β ε → Bool
  | .writeNotify (some _) | .writeReturned (some _) => true
  | _ => false

/-- A writing call is one of `w`, and a reading call one of `r`. -/
def By (w r k : κ) : Call β ε → Prop
  | .idle => True
  | .reading _ | .readWait _ | .readNotify _ | .readReturned _ => k = r
  | .writing _ | .writeWait _ | .writeNotify _ | .writeReturned _ => k = w

end Call

/-- Only `w` writes and only `r` reads. -/
def PipeAction.By (w r : κ) : PipeAction κ β ε → Prop
  | .write k _ => k = w
  | .read k _ => k = r
  | _ => True

variable {trace trace' : List (PipeEvent κ β ε)}

theorem sent_append : sent size (trace ++ trace') = sent size trace ++ sent size trace' :=
  List.flatMap_append

theorem received_append : received (trace ++ trace') = received trace ++ received trace' :=
  List.flatMap_append

theorem Refused.append (h : Refused trace) : Refused (trace ++ trace') := by
  obtain ⟨k, e, hmem⟩ := h
  exact ⟨k, e, List.mem_append_left _ hmem⟩

namespace PipeSystem

variable {s t : PipeSystem κ β ε} {a : PipeAction κ β ε} {w r k : κ} {c : Call β ε}

/-- What was given to the pipe is what the pipe took and what the call of `w` still holds, up to the
first call that is refused. -/
def Sent (size : β → Int32) (w : κ) (s : PipeSystem κ β ε) (trace : List (PipeEvent κ β ε)) : Prop :=
  ∃ rest, sent size trace = s.accepted ++ rest ∧
    (Refused trace ∨ (s.calls w).refused = true ∨ rest = (s.calls w).pending)

/-- What the pipe gave out is what came back to `r` and what the call of `r` still holds. -/
def Received (r : κ) (s : PipeSystem κ β ε) (trace : List (PipeEvent κ β ε)) : Prop :=
  s.delivered = received trace ++ (s.calls r).held

theorem Sent.keep (h : s.Sent size w trace) (hsent : sent size trace' = [])
    (haccepted : t.accepted = s.accepted)
    (hcall : Refused trace' ∨ (t.calls w).refused = true ∨
      (t.calls w).pending = (s.calls w).pending ∧ (t.calls w).refused = (s.calls w).refused) :
    t.Sent size w (trace ++ trace') := by
  obtain ⟨rest, hl, hrest⟩ := h
  refine ⟨rest, by rw [sent_append, hl, hsent, List.append_nil, haccepted], ?_⟩
  rcases hcall with ⟨k, e, hmem⟩ | hrefused | ⟨hpending, hsame⟩
  · exact .inl ⟨k, e, List.mem_append_right _ hmem⟩
  · exact .inr (.inl hrefused)
  · rw [hpending, hsame]
    exact hrest.imp_left Refused.append

theorem Received.keep (h : s.Received r trace) (hreceived : received trace' = [])
    (hdelivered : t.delivered = s.delivered) (hheld : (t.calls r).held = (s.calls r).held) :
    t.Received r (trace ++ trace') := by
  rw [Received, hdelivered, hheld, received_append, hreceived, List.append_nil]
  exact h

/-- A writing call comes back with an error from a pipe that is over. -/
theorem over_of_refused (hsound : s.Sound size) (h : (s.calls k).refused = true) :
    s.pipe.state ≠ .opened := by
  have hcall := hsound.calls k
  cases hk : s.calls k <;> rw [hk] at h hcall
  case writeNotify e | writeReturned e =>
    cases e with
    | none => cases h
    | some e => exact hcall.1
  all_goals cases h

theorem calls_of_wrote_mem {e : Option PipeError} (h : .wrote k e ∈ pipeEvents s a) :
    s.calls k = .writeReturned e := by
  cases a with
  | collect j =>
    simp only [pipeEvents] at h
    split at h
    · next e' hj =>
      simp only [List.mem_singleton, PipeEvent.wrote.injEq] at h
      rw [h.1, h.2, hj]
    all_goals simp at h
  | _ => simp [pipeEvents] at h

variable [DecidableEq κ]

theorem By.step (hs : ∀ k, (s.calls k).By w r k) (ha : a.By w r) (hmove : PipeMove size opt s a t) :
    ∀ k, (t.calls k).By w r k := by
  cases hmove with
  | read hk | write hk | writeNothing hk => exact forall_calls_set hs ha
  | collectRead | collectWrite => exact forall_calls_set hs trivial
  | @takeFailed k _ _ hk | @takeBuffers k _ _ hk | @takeNothing k _ hk | @putBuffers k _ hk
  | @putDropped k _ hk | @putFull k _ hk | @putFailed k _ hk | @notifyWriters k _ hk
  | @notifyReaders k _ hk | @wakeReader k _ hk | @wakeWriter k _ hk | @doneReader k _ hk
  | @doneWriter k _ hk | @wakeError k _ hk | @expire k hk =>
    have hby := hs k
    rw [hk] at hby
    exact forall_calls_set hs hby
  | close | interrupt | interruptData | closeOver | interruptOver | returnAnError | recover => exact hs

/-- A step of one caller that does not change `f` changes it for nobody. -/
theorem apply_calls_set {τ : Type} {f : Call β ε → τ} (hc : f c = f (s.calls k)) (j : κ) :
    f ((s.set k c).calls j) = f (s.calls j) := by
  by_cases hj : j = k
  · subst hj
    rw [calls_set_self, hc]
  · rw [calls_set_of_ne hj]

theorem Refused.step (hsound : s.Sound size) (h : Refused trace → s.pipe.state ≠ .opened)
    (hmove : PipeMove size opt s a t) (ht : Refused (trace ++ pipeEvents s a)) :
    t.pipe.state ≠ .opened := by
  have hs : s.pipe.state ≠ .opened := by
    obtain ⟨k, e, hmem⟩ := ht
    rcases List.mem_append.mp hmem with hmem | hmem
    · exact h ⟨k, e, hmem⟩
    · refine over_of_refused (k := k) hsound ?_
      rw [calls_of_wrote_mem hmem]
      rfl
  cases hmove with
  | close | interrupt | interruptData => simp
  | _ => exact hs

theorem Sent.step (hdrop : opt.discardOverflow = false) (hby : ∀ k, (s.calls k).By w r k)
    (hover : Refused trace → s.pipe.state ≠ .opened)
    (h : s.Sent size w trace) (ha : a.By w r) (hmove : PipeMove size opt s a t) :
    t.Sent size w (trace ++ pipeEvents s a) := by
  cases hmove with
  | @write k mb hk hmb =>
    obtain rfl : k = w := ha
    obtain ⟨rest, hsent, hrest⟩ := h
    refine ⟨rest ++ mb, ?_, ?_⟩
    · rw [sent_append, hsent, List.append_assoc]
      simp [sent, pipeEvents, hmb, PipeSystem.set]
    · rw [calls_set_self]
      rw [hk] at hrest
      rcases hrest with hrefused | hrefused | rfl
      · exact .inl hrefused.append
      · cases hrefused
      · exact .inr (.inr rfl)
  | @putBuffers k mb hk hstate =>
    have hw := hby k
    rw [hk] at hw
    obtain rfl : k = w := hw
    obtain ⟨rest, hsent, hrest⟩ := h
    rw [hk] at hrest
    rcases hrest with hrefused | hrefused | rfl
    · exact absurd (Pipe.getState_write_eq_none hstate).1 (hover hrefused)
    · cases hrefused
    · refine ⟨[], ?_, .inr (.inr ?_)⟩
      · rw [sent_append, hsent]
        simp [sent, pipeEvents]
      · simp [PipeSystem.set, Call.pending]
  | putDropped hk htrue => rw [hdrop] at htrue; cases htrue
  | @putFailed k mb hk | @doneWriter k mb hk =>
    have hw := hby k
    rw [hk] at hw
    obtain rfl : k = w := hw
    refine h.keep rfl rfl (.inr (.inl ?_))
    rw [calls_set_self]
    rfl
  | @writeNothing k mb hk hmb =>
    refine h.keep (by simp [sent, pipeEvents, hmb]) rfl (.inr (.inr ?_))
    exact ⟨apply_calls_set (by rw [hk]; rfl) w, apply_calls_set (by rw [hk]; rfl) w⟩
  | @collectWrite k e hk =>
    have hevents : pipeEvents s (.collect k) = [.wrote k e] := by simp [pipeEvents, hk]
    rw [hevents]
    refine h.keep rfl rfl ?_
    cases e with
    | some e => exact .inl ⟨k, e, List.mem_cons_self⟩
    | none => exact .inr (.inr ⟨apply_calls_set (by rw [hk]; rfl) w, apply_calls_set (by rw [hk]; rfl) w⟩)
  | @collectRead k res hk =>
    have hevents : pipeEvents s (.collect k) = [.got k res] := by simp [pipeEvents, hk]
    rw [hevents]
    refine h.keep rfl rfl (.inr (.inr ?_))
    exact ⟨apply_calls_set (by rw [hk]; rfl) w, apply_calls_set (by rw [hk]; rfl) w⟩
  | @notifyReaders k e hk =>
    refine h.keep rfl rfl (.inr (.inr ?_))
    exact ⟨apply_calls_set (by rw [hk]; rfl) w, apply_calls_set (by rw [hk]; cases e <;> rfl) w⟩
  | read hk | takeFailed hk | takeBuffers hk | takeNothing hk | putFull hk | notifyWriters hk
  | wakeReader hk | wakeWriter hk | doneReader hk | wakeError hk | expire hk =>
    refine h.keep rfl rfl (.inr (.inr ?_))
    exact ⟨apply_calls_set (by rw [hk]; rfl) w, apply_calls_set (by rw [hk]; rfl) w⟩
  | close | interrupt | interruptData | closeOver | interruptOver | returnAnError | recover =>
    exact h.keep rfl rfl (.inr (.inr ⟨rfl, rfl⟩))

theorem Received.step (hby : ∀ k, (s.calls k).By w r k) (h : s.Received r trace)
    (hmove : PipeMove size opt s a t) : t.Received r (trace ++ pipeEvents s a) := by
  cases hmove with
  | @takeBuffers k timed mb hk hstate hdata =>
    have hr := hby k
    rw [hk] at hr
    obtain rfl : k = r := hr
    rw [Received, hk] at h
    simpa [Received, PipeSystem.set, Call.held, pipeEvents] using h
  | @collectRead k res hk =>
    have hr := hby k
    rw [hk] at hr
    obtain rfl : k = r := hr
    have hevents : pipeEvents s (.collect k) = [.got k res] := by simp [pipeEvents, hk]
    rw [Received, hk] at h
    rw [Received, received_append, hevents, calls_set_self]
    cases res <;> simpa [received, PipeSystem.set, Call.held] using h
  | @collectWrite k e hk =>
    have hevents : pipeEvents s (.collect k) = [.wrote k e] := by simp [pipeEvents, hk]
    rw [hevents]
    exact h.keep rfl rfl (apply_calls_set (by rw [hk]; rfl) r)
  | @notifyWriters k res hk =>
    exact h.keep rfl rfl (apply_calls_set (by rw [hk]; cases res <;> rfl) r)
  | read hk | write hk | writeNothing hk | takeFailed hk | takeNothing hk | putBuffers hk
  | putDropped hk | putFull hk | putFailed hk | notifyReaders hk | wakeReader hk | wakeWriter hk
  | doneReader hk | doneWriter hk | wakeError hk | expire hk =>
    exact h.keep rfl rfl (apply_calls_set (by rw [hk]; rfl) r)
  | close | interrupt | interruptData | closeOver | interruptOver | returnAnError | recover =>
    exact h.keep rfl rfl rfl

structure Carried (size : β → Int32) (w r : κ) (s : PipeSystem κ β ε) (trace : List (PipeEvent κ β ε)) :
    Prop where
  sound : s.Sound size
  callers : ∀ k, (s.calls k).By w r k
  refused : Refused trace → s.pipe.state ≠ .opened
  sent : s.Sent size w trace
  received : s.Received r trace

theorem Carried.of_run (hdrop : opt.discardOverflow = false) {as : List (PipeAction κ β ε)}
    (has : ∀ a ∈ as, a.By w r) (hrun : run (pipeStep size opt) PipeSystem.new as = some s) :
    s.Carried size w r (emits (pipeStep size opt) pipeEvents PipeSystem.new as) := by
  have hnew : (PipeSystem.new : PipeSystem κ β ε).Carried size w r [] := {
    sound := sound_new
    callers := fun _ => trivial
    refused := fun ⟨_, _, h⟩ => by cases h
    sent := ⟨[], rfl, .inr (.inr rfl)⟩
    received := rfl }
  refine emits_invariant_of_meets (C := fun _ a => a.By w r) ?_ hnew
    (meets_of_forall (fun a ha _ => has a ha) _) hrun
  intro s trace a t h ha hstep
  have hmove : PipeMove size opt s a t := .of_step hstep
  exact {
    sound := h.sound.step hmove
    callers := By.step h.callers ha hmove
    refused := Refused.step h.sound h.refused hmove
    sent := h.sent.step hdrop h.callers h.refused ha hmove
    received := h.received.step h.callers hmove }

end PipeSystem

variable [DecidableEq κ] {s : PipeSystem κ β ε} {as : List (PipeAction κ β ε)} {w r : κ}

/-- Between one writer and one reader, on a pipe that does not drop what overflows it: what the reader's
calls have come back with is a front part of what the writer's calls were given, buffer by buffer and in
their order.  Once the reader is told of the end of the stream, and no call of the writer was refused
or is under way, it has all of it. -/
theorem pipe_carries_stream (hdrop : opt.discardOverflow = false) (has : ∀ a ∈ as, a.By w r)
    (hrun : run (pipeStep size opt) PipeSystem.new as = some s) :
    let trace := emits (pipeStep size opt) pipeEvents PipeSystem.new as
    received trace <+: sent size trace ∧
      (s.calls r = .readReturned (.failed .eof) → ¬ Refused trace → s.calls w = .idle →
        received trace = sent size trace) := by
  intro trace
  have h := PipeSystem.Carried.of_run hdrop has hrun
  obtain ⟨rest, hsent, hrest⟩ := h.sent
  have hstream : sent size trace =
      received trace ++ ((s.calls r).held ++ (s.pipe.buffered ++ s.discarded) ++ rest) := by
    rw [hsent, h.sound.stream, h.received]
    simp [trace]
  refine ⟨⟨_, hstream.symm⟩, ?_⟩
  intro heof hrefused hidle
  have hcause := h.sound.calls r
  rw [heof] at hcause
  obtain ⟨hclosed, hdata, -⟩ | ⟨-, ⟨⟩⟩ := hcause
  have hdiscarded : s.discarded = [] := by
    by_contra hne
    have herrord := h.sound.discarded hne
    rw [hclosed] at herrord
    cases herrord
  have hnothing : rest = [] := by
    rw [hidle] at hrest
    rcases hrest with hcase | hcase | hcase
    · exact absurd hcase hrefused
    · cases hcase
    · exact hcase
  rw [hstream, heof, hdiscarded, hnothing, Pipe.buffered, hdata]
  simp [Call.held]

/-- One write, the close, and two reads, the second of them told of the end. -/
def shortStream : List (PipeAction Bool Int32 Unit) :=
  [.write true [1, 2], .put true, .read false true, .notify true, .close, .take false, .collect true,
    .notify false, .collect false, .read false false, .take false, .notify false]

theorem shortStream_carried :
    ∃ s, run (pipeStep id ⟨0, false⟩) PipeSystem.new shortStream = some s ∧
      received (emits (pipeStep id ⟨0, false⟩) pipeEvents PipeSystem.new shortStream) =
        sent id (emits (pipeStep id ⟨0, false⟩) pipeEvents PipeSystem.new shortStream) := by
  refine ⟨_, rfl, (pipe_carries_stream (w := true) (r := false) rfl ?_ rfl).2 rfl ?_ rfl⟩
  · simp [shortStream, PipeAction.By]
  · rintro ⟨k, e, hmem⟩
    have htrace : emits (pipeStep id ⟨0, false⟩) pipeEvents PipeSystem.new shortStream =
        [.writes true [1, 2], .wrote true none, .got false (.buffers [1, 2])] := rfl
    simp [htrace] at hmem

/-- The number of bytes in the buffers, which `MultiBuffer.Len` is modulo `2 ^ 32`. -/
def content (size : β → Int32) (mb : List β) : ℤ := (mb.map fun b => (size b).toInt).sum

theorem content_append (mb mb' : List β) :
    content size (mb ++ mb') = content size mb + content size mb' := by
  rw [content, List.map_append, List.sum_append]
  rfl

theorem toInt_multiLen (mb : List β) : (multiLen size mb).toInt = (content size mb).bmod (2 ^ 32) := by
  have hfold (n : Int32) :
      (mb.foldl (fun n b => n + size b) n).toInt = (n.toInt + content size mb).bmod (2 ^ 32) := by
    induction mb generalizing n with
    | nil => simp [content]
    | cons b mb ih =>
      rw [List.foldl_cons, ih, Int32.toInt_add, Int.bmod_add_bmod, Int.add_assoc]
      rfl
  rw [multiLen, hfold, Int32.toInt_zero, Int.zero_add]

/-- Buffers of at most `m` bytes, none of them with its end before its start. -/
structure Sized (size : β → Int32) (m : ℤ) (mb : List β) : Prop where
  nonneg : ∀ b ∈ mb, 0 ≤ (size b).toInt
  le : content size mb ≤ m

theorem sized_nil {m : ℤ} (hm : 0 ≤ m) : Sized size m [] := ⟨by simp, hm⟩

theorem Sized.content_nonneg {m : ℤ} {mb : List β} (h : Sized size m mb) : 0 ≤ content size mb := by
  refine List.sum_nonneg ?_
  rintro n hn
  rcases List.mem_map.mp hn with ⟨b, hb, rfl⟩
  exact h.nonneg b hb

theorem Sized.append {m n : ℤ} {mb mb' : List β} (h : Sized size m mb) (hle : content size mb ≤ n)
    {m' : ℤ} (h' : Sized size m' mb') : Sized size (n + m') (mb ++ mb') := by
  constructor
  · simpa [or_imp, forall_and] using ⟨h.nonneg, h'.nonneg⟩
  · rw [content_append]
    exact Int.add_le_add hle h'.le

theorem Sized.toInt_multiLen {m : ℤ} {mb : List β} (h : Sized size m mb) (hm : m < 2 ^ 31) :
    (multiLen size mb).toInt = content size mb := by
  have hnonneg := h.content_nonneg
  have hle := h.le
  rw [Transport.toInt_multiLen]
  exact Int.bmod_eq_of_le (by omega) (by omega)

/-- What is queued, and what the calls still hold, is bounded. -/
structure PipeSystem.Bounded (size : β → Int32) (opt : PipeOption) (m : ℕ) (s : PipeSystem κ β ε) :
    Prop where
  queue : Sized size (opt.limit.toInt + m) s.pipe.buffered
  calls : ∀ k, Sized size m (s.calls k).pending

section Bound

variable {m : ℕ} (hlimit : 0 ≤ opt.limit)

omit [DecidableEq κ] in
include hlimit in
theorem PipeSystem.bounded_new : (PipeSystem.new : PipeSystem κ β ε).Bounded size opt m := by
  have hnonneg : 0 ≤ opt.limit.toInt := Int32.le_iff_toInt_le.mp hlimit
  exact ⟨sized_nil (by omega), fun _ => sized_nil (by omega)⟩

include hlimit in
theorem PipeSystem.Bounded.step {t : PipeSystem κ β ε} {a : PipeAction κ β ε}
    (hroom : opt.limit.toInt + m < 2 ^ 31) (h : s.Bounded size opt m)
    (ha : ∀ k mb, a = .write k mb → Sized size m mb) (hmove : PipeMove size opt s a t) :
    t.Bounded size opt m := by
  have hempty : (PipeSystem.new : PipeSystem κ β ε).Bounded size opt m := bounded_new hlimit
  have hnil : Sized size m ([] : List β) := sized_nil (by omega)
  have hset {k : κ} {c : Call β ε} (hc : Sized size m c.pending) :
      ∀ j, Sized size m ((s.set k c).calls j).pending :=
    forall_calls_set (P := fun _ c => Sized size m c.pending) h.calls hc
  cases hmove with
  | write hk hmb => exact ⟨h.queue, hset (ha _ _ rfl)⟩
  | @putBuffers k mb hk hstate =>
    refine ⟨?_, hset hnil⟩
    -- the length has not wrapped, so the limit bounds what was there when the pipe was not full
    have hfull := (Pipe.getState_write_eq_none hstate).2
    simp only [PipeOption.isFull, hlimit, decide_true, Bool.true_and, decide_eq_false_iff_not,
      Int32.lt_iff_toInt_lt, h.queue.toInt_multiLen hroom, Int.not_lt] at hfull
    have hmb := h.calls k
    rw [hk] at hmb
    exact h.queue.append hfull hmb
  | @putFull k mb hk | @wakeWriter k mb hk =>
    have hmb := h.calls k
    rw [hk] at hmb
    exact ⟨h.queue, hset hmb⟩
  | takeBuffers => exact ⟨hempty.queue, hset hnil⟩
  | interruptData => exact ⟨hempty.queue, h.calls⟩
  | close | interrupt | closeOver | interruptOver | returnAnError | recover => exact ⟨h.queue, h.calls⟩
  | _ => exact ⟨h.queue, hset hnil⟩

end Bound

/-- With a size limit, a pipe never holds more than the limit and one write, as long as that fits into
the `int32` that the lengths are counted in; a pipe with the largest limit, for one, is never full. -/
theorem pipe_bounded (hlimit : 0 ≤ opt.limit) {m : ℕ} (hroom : opt.limit.toInt + m < 2 ^ 31)
    (has : ∀ k mb, .write k mb ∈ as → (∀ b ∈ mb, 0 ≤ (size b).toInt) ∧ content size mb ≤ m)
    (hrun : run (pipeStep size opt) PipeSystem.new as = some s) :
    content size s.pipe.buffered ≤ opt.limit.toInt + m := by
  refine (run_invariant_of_meets (C := fun _ a => ∀ k mb, a = .write k mb → Sized size m mb) ?_
    (PipeSystem.bounded_new hlimit) (meets_of_forall ?_ _) hrun).queue.le
  · exact fun _ _ _ h ha hstep => h.step hlimit hroom ha (.of_step hstep)
  · rintro a hmem - k mb rfl
    exact ⟨(has k mb hmem).1, (has k mb hmem).2⟩

/-- The bound is met: a write into an empty pipe is taken whole, whatever its size. -/
theorem shortStream_fills :
    ∃ s, run (pipeStep id ⟨0, false⟩) PipeSystem.new (shortStream.take 2) = some s ∧
      content id s.pipe.buffered = 3 ∧ content id s.pipe.buffered ≤ 0 + (3 : ℕ) := by
  have hwrites (k : Bool) (mb : List Int32) (hmem : .write k mb ∈ shortStream.take 2) :
      (∀ b ∈ mb, 0 ≤ (id b).toInt) ∧ content id mb ≤ (3 : ℕ) := by
    simp only [shortStream, List.take_succ_cons, List.take_zero, List.mem_cons, PipeAction.write.injEq,
      reduceCtorEq, List.not_mem_nil, or_false] at hmem
    rw [hmem.2, List.forall_mem_cons, List.forall_mem_singleton]
    decide
  have hrun : ∃ s, run (pipeStep id ⟨0, false⟩) PipeSystem.new (shortStream.take 2) = some s ∧
      content id s.pipe.buffered = 3 := ⟨_, rfl, rfl⟩
  obtain ⟨s, hrun, hfills⟩ := hrun
  exact ⟨s, hrun, hfills, pipe_bounded (by decide) (by decide) hwrites hrun⟩

end FoloXray.Transport
