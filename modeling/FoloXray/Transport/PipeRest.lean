import FoloXray.Transport.PipeStream
import FoloXray.Foundation.Wakeup
import Mathlib.Algebra.Order.BigOperators.Group.Finset
import Mathlib.Algebra.Group.Action.Defs

/-! # The pipe at rest

A notifier of the pipe holds one token, and a token is lost on a full slot.  No wake-up is lost for it:
when no call of the pipe can move on, a reader still waits only for data and a writer only for a reader.
-/

namespace FoloXray.Transport

open Foundation

variable {κ β ε : Type} {size : β → Int32} {opt : PipeOption}

def Call.readerStance : Call β ε → Stance
  | .reading _ => .awake
  | .readWait _ => .parked
  | .writeNotify _ => .signalling
  | _ => .away

def Call.writerStance : Call β ε → Stance
  | .writing _ => .awake
  | .writeWait _ => .parked
  | .readNotify _ => .signalling
  | _ => .away

namespace PipeSystem

variable {s t : PipeSystem κ β ε} {a : PipeAction κ β ε} {k : κ} {c : Call β ε}

def ReadersAttended (s : PipeSystem κ β ε) : Prop :=
  Attended (s.pipe.state = .opened ∧ s.pipe.data ≠ none) s.pipe.readSignal
    (Call.readerStance ∘ s.calls)

def WritersAttended (s : PipeSystem κ β ε) : Prop :=
  Attended (s.pipe.state = .opened ∧ s.pipe.data = none) s.pipe.writeSignal
    (Call.writerStance ∘ s.calls)

theorem opened_of_full (h : s.pipe.getState size opt false = some .bufferFull) : s.pipe.data ≠ none := by
  obtain ⟨-, hfull, -⟩ | ⟨-, ⟨⟩⟩ := Pipe.getState_write_eq_some h
  exact Pipe.data_ne_none_of_isFull hfull

theorem over_of_failed {e : PipeError} (h : s.pipe.getState size opt true = some e) :
    s.pipe.state ≠ .opened := by
  obtain ⟨hstate, -⟩ | ⟨hstate, -⟩ := Pipe.getState_read_eq_some h <;> simp [hstate]

theorem opened_of_nothing (h : s.pipe.getState size opt true = none) (hdata : s.pipe.data = none) :
    s.pipe.state = .opened := by
  rw [Pipe.getState, Pipe.buffered, hdata] at h
  split at h <;> simp_all [multiEmpty]

/-- What is left to do for a caller.  A reader at its select may be woken twice by a pipe that is over. -/
def work (done : Bool) : Call β ε → ℕ
  | .reading _ | .writing _ => 4
  | .readWait _ | .writeWait _ => if done then 5 else 3
  | .readNotify _ | .writeNotify _ => 3
  | _ => 0

/-- What is left to do for all callers, with the tokens that may still wake one of them. -/
def totalWork [Fintype κ] (s : PipeSystem κ β ε) : ℕ :=
  ∑ k, work s.pipe.done (s.calls k) + 2 * s.pipe.readSignal.toNat + 2 * s.pipe.writeSignal.toNat

theorem work_le (done : Bool) (c : Call β ε) : work done c ≤ 5 := by
  cases c <;> cases done <;> simp [work]

theorem totalWork_le [Fintype κ] (s : PipeSystem κ β ε) : s.totalWork ≤ 5 * Fintype.card κ + 4 := by
  have hsum : ∑ k, work s.pipe.done (s.calls k) ≤ Fintype.card κ • 5 :=
    Finset.sum_le_card_nsmul _ _ _ (fun k _ => work_le _ _)
  have hread := s.pipe.readSignal.toNat_le
  have hwrite := s.pipe.writeSignal.toNat_le
  rw [smul_eq_mul] at hsum
  rw [totalWork]
  omega

variable [DecidableEq κ]

section Stances

variable {f : Call β ε → Stance} {ready ready' : Prop} {token token' : Bool}

theorem comp_calls_set : f ∘ (s.set k c).calls = Function.update (f ∘ s.calls) k (f c) :=
  Function.comp_update ..

theorem attended_set (hc : f c = .awake ∨ f c = .signalling) :
    Attended ready token (f ∘ (s.set k c).calls) := by
  rw [comp_calls_set]
  exact attended_update k hc

theorem attended_set_away (h : Attended ready token (f ∘ s.calls))
    (hk : f (s.calls k) = .away ∨ f (s.calls k) = .parked) (hc : f c = .away)
    (hready : ready' → ready) (htoken : token = true → token' = true) :
    Attended ready' token' (f ∘ (s.set k c).calls) := by
  rw [comp_calls_set, hc]
  exact h.leave hk hready htoken

end Stances

theorem ReadersAttended.step (h : s.ReadersAttended) (hmove : PipeMove size opt s a t) :
    t.ReadersAttended := by
  cases hmove with
  -- the caller looks at the data again, or is about to send the token
  | read | wakeReader | doneReader => exact attended_set (.inl rfl)
  | putBuffers | putFailed => exact attended_set (.inr rfl)
  | notifyReaders => exact attended_of_token _
  -- there is no data, or the pipe is over
  | takeFailed hk he => exact attended_of_not (fun hready => over_of_failed he hready.1)
  | takeBuffers => exact attended_of_not (fun hready => hready.2 rfl)
  | takeNothing hk hstate hdata => exact attended_of_not (fun hready => hready.2 hdata)
  | close | interrupt | interruptData =>
    refine attended_of_not (fun hready => ?_)
    cases hready.1
  -- the caller had nothing to do with the data, or gives up waiting for it
  | write hk | writeNothing hk | putDropped hk | putFull hk | notifyWriters hk | wakeWriter hk
  | doneWriter hk | collectRead hk | collectWrite hk =>
    exact attended_set_away h (.inl (by rw [hk]; rfl)) rfl id id
  | wakeError hk | expire hk => exact attended_set_away h (.inr (by rw [hk]; rfl)) rfl id id
  | closeOver | interruptOver | returnAnError | recover => exact h

theorem WritersAttended.step (hsound : s.Sound size) (h : s.WritersAttended)
    (hmove : PipeMove size opt s a t) : t.WritersAttended := by
  cases hmove with
  -- the caller looks at the room again, or is about to send the token
  | write | wakeWriter => exact attended_set (.inl rfl)
  | takeFailed | takeBuffers => exact attended_set (.inr rfl)
  | notifyWriters => exact attended_of_token _
  -- there is data, or the pipe is over
  | putBuffers =>
    refine attended_of_not (fun hready => ?_)
    cases hready.2
  | putDropped hk _ hstate | putFull hk hstate =>
    exact attended_of_not (fun hready => opened_of_full hstate hready.2)
  | putFailed hk hstate =>
    obtain ⟨-, -, ⟨⟩⟩ | ⟨hover, -⟩ := Pipe.getState_write_eq_some hstate
    exact attended_of_not (fun hready => hover hready.1)
  | doneWriter hk hdone => exact attended_of_not (fun hready => hsound.done.mp hdone hready.1)
  | close | interrupt | interruptData =>
    refine attended_of_not (fun hready => ?_)
    cases hready.1
  -- the caller had nothing to do with the room
  | read hk | writeNothing hk | takeNothing hk | notifyReaders hk | wakeReader hk | doneReader hk
  | wakeError hk | expire hk | collectRead hk | collectWrite hk =>
    exact attended_set_away h (.inl (by rw [hk]; rfl)) rfl id id
  | closeOver | interruptOver | returnAnError | recover => exact h

theorem attended_of_run {as : List (PipeAction κ β ε)}
    (hrun : run (pipeStep size opt) PipeSystem.new as = some s) :
    s.Sound size ∧ s.ReadersAttended ∧ s.WritersAttended := by
  refine run_invariant (P := fun s => s.Sound size ∧ s.ReadersAttended ∧ s.WritersAttended) ?_ ?_ hrun
  · rintro s a t ⟨hsound, hreaders, hwriters⟩ hstep
    have hmove : PipeMove size opt s a t := .of_step hstep
    exact ⟨hsound.step hmove, hreaders.step hmove, hwriters.step hsound hmove⟩
  · refine ⟨sound_new, ?_, ?_⟩
    all_goals
      rintro - ⟨k, hk⟩
      cases hk

/-- No call that has been made can move on by itself. -/
def AtRest (size : β → Int32) (opt : PipeOption) (s : PipeSystem κ β ε) : Prop :=
  ∀ a : PipeAction κ β ε, a.internal = true → pipeStep size opt s a = none

/-- At rest, a caller is outside the pipe, at a select or behind its return. -/
theorem AtRest.calls (h : s.AtRest size opt) (k : κ) :
    (s.calls k).readerStance ≠ .awake ∧ (s.calls k).readerStance ≠ .signalling ∧
      (s.calls k).writerStance ≠ .awake ∧ (s.calls k).writerStance ≠ .signalling := by
  have htake := h (.take k) rfl
  have hput := h (.put k) rfl
  have hnotify := h (.notify k) rfl
  cases hk : s.calls k <;> simp [pipeStep, hk] at htake hput hnotify <;>
    simp [Call.readerStance, Call.writerStance]

theorem AtRest.opened (h : s.AtRest size opt) (hsound : s.Sound size)
    (hk : (s.calls k).readerStance = .parked ∨ (s.calls k).writerStance = .parked) :
    s.pipe.state = .opened := by
  by_contra hover
  have hdone := hsound.done.mpr hover
  have hwake := h (.wakeDone k) rfl
  cases hcall : s.calls k <;> simp [pipeStep, hcall, hdone] at hwake <;>
    simp [hcall, Call.readerStance, Call.writerStance] at hk

theorem AtRest.reader (h : s.AtRest size opt) (hsound : s.Sound size) (hattended : s.ReadersAttended)
    {timed : Bool} (hk : s.calls k = .readWait timed) :
    s.pipe.state = .opened ∧ s.pipe.data = none ∧ (timed = false → s.pipe.errChan = none) := by
  have hparked : (s.calls k).readerStance = .parked := by rw [hk]; rfl
  have hopened := h.opened hsound (.inl hparked)
  have htoken : s.pipe.readSignal ≠ true := by
    intro htrue
    have hwake := h (.wake k) rfl
    simp [pipeStep, hk, htrue] at hwake
  have hready := hattended.not_ready hparked (fun j => ⟨(h.calls j).1, (h.calls j).2.1⟩) htoken
  refine ⟨hopened, by_contra fun hdata => hready ⟨hopened, hdata⟩, ?_⟩
  rintro rfl
  have herror := h (.wakeError k) rfl
  cases herrChan : s.pipe.errChan with
  | none => rfl
  | some e => simp [pipeStep, hk, herrChan] at herror

theorem AtRest.writer (h : s.AtRest size opt) (hsound : s.Sound size) (hattended : s.WritersAttended)
    {mb : List β} (hk : s.calls k = .writeWait mb) :
    s.pipe.state = .opened ∧ s.pipe.data ≠ none := by
  have hparked : (s.calls k).writerStance = .parked := by rw [hk]; rfl
  have hopened := h.opened hsound (.inr hparked)
  have htoken : s.pipe.writeSignal ≠ true := by
    intro htrue
    have hwake := h (.wake k) rfl
    simp [pipeStep, hk, htrue] at hwake
  have hready := hattended.not_ready hparked (fun j => (h.calls j).2.2) htoken
  exact ⟨hopened, fun hdata => hready ⟨hopened, hdata⟩⟩

variable [Fintype κ]

theorem sum_calls_set (f : Call β ε → ℕ) :
    ∑ j, f ((s.set k c).calls j) + f (s.calls k) = ∑ j, f (s.calls j) + f c := by
  have hothers : ∑ j ∈ Finset.univ.erase k, f ((s.set k c).calls j) =
      ∑ j ∈ Finset.univ.erase k, f (s.calls j) := by
    refine Finset.sum_congr rfl (fun j hj => ?_)
    rw [calls_set_of_ne (Finset.ne_of_mem_erase hj)]
  rw [← Finset.add_sum_erase _ _ (Finset.mem_univ k), hothers, calls_set_self,
    ← Finset.add_sum_erase (a := k) _ (fun j => f (s.calls j)) (Finset.mem_univ k)]
  omega

/-- A step of `k` that leaves the end of the pipe alone uses up work if `k` does, tokens included. -/
theorem totalWork_lt_of_set (hcalls : t.calls = (s.set k c).calls) (hdone : t.pipe.done = s.pipe.done)
    (hless : work s.pipe.done c + 2 * t.pipe.readSignal.toNat + 2 * t.pipe.writeSignal.toNat <
      work s.pipe.done (s.calls k) + 2 * s.pipe.readSignal.toNat + 2 * s.pipe.writeSignal.toNat) :
    t.totalWork < s.totalWork := by
  have hsum := sum_calls_set (s := s) (k := k) (c := c) (work s.pipe.done)
  rw [totalWork, totalWork, hcalls, hdone]
  omega

theorem totalWork_lt (hsound : s.Sound size) (ha : a.internal = true)
    (hmove : PipeMove size opt s a t) : t.totalWork < s.totalWork := by
  -- a caller that finds the pipe open does not go to its select at a pipe that is over
  have hopen (hopened : s.pipe.state = .opened) : s.pipe.done = false := by
    by_contra hdone
    exact hsound.done.mp (Bool.eq_true_of_not_eq_false hdone) hopened
  cases hmove with
  | read | write | writeNothing | expire | collectRead | collectWrite | close | interrupt
  | interruptData | closeOver | interruptOver | returnAnError | recover => cases ha
  | takeFailed hk | takeBuffers hk | putBuffers hk | putFailed hk | putDropped hk =>
    refine totalWork_lt_of_set rfl rfl ?_
    simp only [hk, work, pipe_set]
    omega
  | takeNothing hk hstate hdata =>
    refine totalWork_lt_of_set rfl rfl ?_
    simp [hk, work, hopen (opened_of_nothing hstate hdata)]
  | putFull hk hstate =>
    refine totalWork_lt_of_set rfl rfl ?_
    obtain ⟨hopened, -⟩ | ⟨-, ⟨⟩⟩ := Pipe.getState_write_eq_some hstate
    simp [hk, work, hopen hopened]
  | notifyWriters hk | notifyReaders hk =>
    refine totalWork_lt_of_set rfl rfl ?_
    simp [hk, work]
    omega
  | wakeReader hk hsignal | wakeWriter hk hsignal =>
    refine totalWork_lt_of_set rfl rfl ?_
    simp only [hk, work, hsignal, Bool.toNat_true, Bool.toNat_false]
    split <;> omega
  | doneReader hk hdone | doneWriter hk hdone =>
    refine totalWork_lt_of_set rfl rfl ?_
    simp [hk, work, hdone]
  | wakeError hk =>
    refine totalWork_lt_of_set rfl rfl ?_
    cases s.pipe.done <;> simp [hk, work]

end PipeSystem

variable [DecidableEq κ] {s : PipeSystem κ β ε} {as : List (PipeAction κ β ε)}

section Settling

variable [Fintype κ]

/-- Left to themselves, the calls of a pipe come to rest: from every reachable state some of their steps
lead to one where none can move on, and no more than five for each caller and four for the tokens do. -/
theorem pipe_settles (hrun : run (pipeStep size opt) PipeSystem.new as = some s) :
    (∃ bs t, (∀ a ∈ bs, a.internal = true) ∧ run (pipeStep size opt) s bs = some t ∧
        t.AtRest size opt) ∧
      ∀ bs t, (∀ a ∈ bs, a.internal = true) → run (pipeStep size opt) s bs = some t →
        bs.length ≤ 5 * Fintype.card κ + 4 := by
  have hP : ∀ (s : PipeSystem κ β ε) a t, s.Sound size → pipeStep size opt s a = some t → t.Sound size :=
    fun _ _ _ h hstep => h.step (.of_step hstep)
  have hwork : ∀ (s : PipeSystem κ β ε) (a : PipeAction κ β ε) t, s.Sound size → a.internal = true →
      pipeStep size opt s a = some t → t.totalWork < s.totalWork :=
    fun _ _ _ h ha hstep => PipeSystem.totalWork_lt h ha (.of_step hstep)
  have hsound := PipeSystem.Sound.of_run hrun
  refine ⟨exists_run_to_rest hP hwork hsound, ?_⟩
  intro bs t hbs hbsrun
  have hlength := length_add_work_le_of_invariant hP hwork hsound hbs hbsrun
  have htotal := s.totalWork_le
  omega

end Settling

/-- When no call can move on by itself, every caller is outside, behind its return or at its select; a
reader that waits does so at an open pipe without data, and a writer that waits does so at an open pipe
with data, so that a reader would wake it. -/
theorem pipe_at_rest (hrun : run (pipeStep size opt) PipeSystem.new as = some s)
    (hrest : s.AtRest size opt) (k : κ) :
    match s.calls k with
    | .idle | .readReturned _ | .writeReturned _ => True
    | .readWait timed =>
      s.pipe.state = .opened ∧ s.pipe.data = none ∧ (timed = false → s.pipe.errChan = none)
    | .writeWait _ => s.pipe.state = .opened ∧ s.pipe.data ≠ none
    | _ => False := by
  obtain ⟨hsound, hreaders, hwriters⟩ := PipeSystem.attended_of_run hrun
  have hcalls := hrest.calls k
  cases hk : s.calls k <;> rw [hk] at hcalls
  case idle | readReturned | writeReturned => trivial
  case readWait timed => exact hrest.reader hsound hreaders hk
  case writeWait mb => exact hrest.writer hsound hwriters hk
  all_goals simp [Call.readerStance, Call.writerStance] at hcalls

/-- A second write to a pipe that is full with the first. -/
def overfull : List (PipeAction Bool Int32 Unit) :=
  [.write true [1], .put true, .notify true, .collect true, .write true [2], .put true]

theorem overfull_at_rest :
    ∃ s, run (pipeStep id ⟨0, false⟩) PipeSystem.new overfull = some s ∧
      s.calls true = .writeWait [2] ∧ s.pipe.state = .opened ∧ s.pipe.data ≠ none := by
  have hrun : run (pipeStep id ⟨0, false⟩) PipeSystem.new overfull = some _ := rfl
  refine ⟨_, hrun, rfl, pipe_at_rest hrun ?_ true⟩
  intro a ha
  cases a with
  | take k | put k | notify k | wake k | wakeDone k | wakeError k => cases k <;> rfl
  | _ => cases ha

theorem overfull_settles :
    ∃ s, run (pipeStep id ⟨0, false⟩) PipeSystem.new overfull = some s ∧
      ∃ bs t, (∀ a ∈ bs, a.internal = true) ∧ run (pipeStep id ⟨0, false⟩) s bs = some t ∧
        t.AtRest id ⟨0, false⟩ := by
  have hrun : run (pipeStep id ⟨0, false⟩) PipeSystem.new overfull = some _ := rfl
  exact ⟨_, hrun, (pipe_settles hrun).1⟩

end FoloXray.Transport
