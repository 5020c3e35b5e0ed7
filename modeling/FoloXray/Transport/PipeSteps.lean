import FoloXray.Transport.Pipe

/-! # What one step of the pipe does

Every step of a pipe with its callers is one of the moves below.
-/

namespace FoloXray.Transport

section Sections

variable {β ε : Type} {size : β → Int32} {opt : PipeOption} {p : Pipe β ε} {e : PipeError}

/-- Reading fails on a pipe that is over, with the end of the stream once it is drained. -/
theorem Pipe.getState_read_eq_some (h : p.getState size opt true = some e) :
    p.state = .closed ∧ multiEmpty size p.buffered = true ∧ e = .eof ∨
      p.state = .errord ∧ e = .closedPipe := by
  rw [Pipe.getState] at h
  split at h <;> simp_all

/-- Writing fails on a full pipe, and on one that is over. -/
theorem Pipe.getState_write_eq_some (h : p.getState size opt false = some e) :
    p.state = .opened ∧ opt.isFull (multiLen size p.buffered) = true ∧ e = .bufferFull ∨
      p.state ≠ .opened ∧ e = .closedPipe := by
  rw [Pipe.getState] at h
  split at h <;> simp_all

theorem Pipe.getState_write_eq_none (h : p.getState size opt false = none) :
    p.state = .opened ∧ opt.isFull (multiLen size p.buffered) = false := by
  rw [Pipe.getState] at h
  split at h <;> simp_all

theorem Pipe.data_ne_none_of_isFull (h : opt.isFull (multiLen size p.buffered) = true) :
    p.data ≠ none := by
  intro hdata
  simp only [PipeOption.isFull, Pipe.buffered, hdata, Option.getD_none, multiLen, List.foldl_nil,
    Bool.and_eq_true, decide_eq_true_eq] at h
  exact Int32.lt_irrefl (Int32.lt_of_le_of_lt h.1 h.2)

theorem multiEmpty_append (mb mb' : List β) :
    multiEmpty size (mb ++ mb') = (multiEmpty size mb && multiEmpty size mb') :=
  List.all_append

end Sections

variable {κ β ε : Type} [DecidableEq κ] (size : β → Int32) (opt : PipeOption)

/-- What one step does to the pipe and to the caller that takes it. -/
inductive PipeMove (s : PipeSystem κ β ε) : PipeAction κ β ε → PipeSystem κ β ε → Prop where
  | read {k timed} (hk : s.calls k = .idle) : PipeMove s (.read k timed) (s.set k (.reading timed))
  | write {k mb} (hk : s.calls k = .idle) (hmb : multiEmpty size mb = false) :
    PipeMove s (.write k mb) (s.set k (.writing mb))
  | writeNothing {k mb} (hk : s.calls k = .idle) (hmb : multiEmpty size mb = true) :
    PipeMove s (.write k mb) (s.set k (.writeReturned none))
  | takeFailed {k timed e} (hk : s.calls k = .reading timed)
    (he : s.pipe.getState size opt true = some e) :
    PipeMove s (.take k) (s.set k (.readNotify (.failed e)))
  | takeBuffers {k timed mb} (hk : s.calls k = .reading timed)
    (hstate : s.pipe.getState size opt true = none) (hdata : s.pipe.data = some mb) :
    PipeMove s (.take k) { s.set k (.readNotify (.buffers mb)) with
      pipe := { s.pipe with data := none }
      delivered := s.delivered ++ mb }
  | takeNothing {k timed} (hk : s.calls k = .reading timed)
    (hstate : s.pipe.getState size opt true = none) (hdata : s.pipe.data = none) :
    PipeMove s (.take k) (s.set k (.readWait timed))
  | putBuffers {k mb} (hk : s.calls k = .writing mb)
    (hstate : s.pipe.getState size opt false = none) :
    PipeMove s (.put k) { s.set k (.writeNotify none) with
      pipe := { s.pipe with data := some (s.pipe.buffered ++ mb) }
      accepted := s.accepted ++ mb }
  | putDropped {k mb} (hk : s.calls k = .writing mb) (hdrop : opt.discardOverflow = true)
    (hstate : s.pipe.getState size opt false = some .bufferFull) :
    PipeMove s (.put k) (s.set k (.writeReturned none))
  | putFull {k mb} (hk : s.calls k = .writing mb)
    (hstate : s.pipe.getState size opt false = some .bufferFull) :
    PipeMove s (.put k) (s.set k (.writeWait mb))
  | putFailed {k mb} (hk : s.calls k = .writing mb)
    (hstate : s.pipe.getState size opt false = some .closedPipe) :
    PipeMove s (.put k) (s.set k (.writeNotify (some .closedPipe)))
  | notifyWriters {k r} (hk : s.calls k = .readNotify r) :
    PipeMove s (.notify k) { s.set k (.readReturned r) with
      pipe := { s.pipe with writeSignal := true } }
  | notifyReaders {k e} (hk : s.calls k = .writeNotify e) :
    PipeMove s (.notify k) { s.set k (.writeReturned e) with
      pipe := { s.pipe with readSignal := true } }
  | wakeReader {k timed} (hk : s.calls k = .readWait timed) (hsignal : s.pipe.readSignal = true) :
    PipeMove s (.wake k) { s.set k (.reading timed) with
      pipe := { s.pipe with readSignal := false } }
  | wakeWriter {k mb} (hk : s.calls k = .writeWait mb) (hsignal : s.pipe.writeSignal = true) :
    PipeMove s (.wake k) { s.set k (.writing mb) with
      pipe := { s.pipe with writeSignal := false } }
  | doneReader {k timed} (hk : s.calls k = .readWait timed) (hdone : s.pipe.done = true) :
    PipeMove s (.wakeDone k) (s.set k (.reading timed))
  | doneWriter {k mb} (hk : s.calls k = .writeWait mb) (hdone : s.pipe.done = true) :
    PipeMove s (.wakeDone k) (s.set k (.writeReturned (some .closedPipe)))
  | wakeError {k e} (hk : s.calls k = .readWait false) :
    PipeMove s (.wakeError k) { s.set k (.readReturned (.injected e)) with
      pipe := { s.pipe with errChan := none } }
  | expire {k} (hk : s.calls k = .readWait true) :
    PipeMove s (.expire k) (s.set k (.readReturned .timeout))
  | collectRead {k r} (hk : s.calls k = .readReturned r) : PipeMove s (.collect k) (s.set k .idle)
  | collectWrite {k e} (hk : s.calls k = .writeReturned e) : PipeMove s (.collect k) (s.set k .idle)
  | close (hstate : s.pipe.state = .opened) :
    PipeMove s .close { s with pipe := { s.pipe with state := .closed, done := true } }
  | interrupt (hstate : s.pipe.state = .opened) (hempty : multiEmpty size s.pipe.buffered = true) :
    PipeMove s .interrupt { s with pipe := { s.pipe with state := .errord, done := true } }
  | interruptData (hstate : s.pipe.state = .opened) (hempty : multiEmpty size s.pipe.buffered = false) :
    PipeMove s .interrupt { s with
      pipe := { s.pipe with state := .errord, data := none, done := true }
      discarded := s.discarded ++ s.pipe.buffered }
  | closeOver : PipeMove s .close s
  | interruptOver : PipeMove s .interrupt s
  | returnAnError {e} :
    PipeMove s (.returnAnError e) { s with pipe := { s.pipe with errChan := some e } }
  | recover : PipeMove s .recover { s with pipe := { s.pipe with errChan := none } }

variable {size opt} {s t : PipeSystem κ β ε}

namespace PipeSystem

variable {k : κ} {c : Call β ε}

@[simp] theorem pipe_set : (s.set k c).pipe = s.pipe := rfl

@[simp] theorem calls_set_self : (s.set k c).calls k = c := Function.update_self ..

theorem calls_set_of_ne {j : κ} (hj : j ≠ k) : (s.set k c).calls j = s.calls j :=
  Function.update_of_ne hj ..

end PipeSystem

theorem PipeMove.of_take {k : κ} {timed : Bool} (hk : s.calls k = .reading timed) :
    PipeMove size opt s (.take k) (s.take size opt k timed) := by
  rw [PipeSystem.take]
  cases hstate : s.pipe.getState size opt true with
  | some e =>
    simp only [Pipe.readInternal, hstate]
    exact .takeFailed hk hstate
  | none =>
    simp only [Pipe.readInternal, hstate]
    cases hdata : s.pipe.data with
    | none =>
      have h := PipeMove.takeNothing hk hstate hdata
      have hp : { s.pipe with data := none } = s.pipe := by rw [← hdata]
      simpa only [hp] using h
    | some mb => exact .takeBuffers hk hstate hdata

theorem PipeMove.of_put {k : κ} {mb : List β} (hk : s.calls k = .writing mb) :
    PipeMove size opt s (.put k) (s.put size opt k mb) := by
  rw [PipeSystem.put]
  cases hstate : s.pipe.getState size opt false with
  | none =>
    have h := PipeMove.putBuffers hk hstate
    simp only [Pipe.writeInternal, hstate]
    rw [Pipe.buffered] at h
    cases hdata : s.pipe.data with
    | none => rw [hdata] at h; exact h
    | some data => rw [hdata] at h; exact h
  | some e =>
    simp only [Pipe.writeInternal, hstate]
    obtain ⟨-, -, rfl⟩ | ⟨-, rfl⟩ := Pipe.getState_write_eq_some hstate
    · dsimp only
      split
      · next hdrop => exact .putDropped hk hdrop hstate
      · exact .putFull hk hstate
    · exact .putFailed hk hstate

theorem PipeMove.of_interrupt : PipeMove size opt s .interrupt (s.interrupt size) := by
  rw [PipeSystem.interrupt, Pipe.interrupt]
  by_cases hstate : s.pipe.state = .opened
  · cases hempty : multiEmpty size s.pipe.buffered with
    | true => simpa [hstate] using PipeMove.interrupt hstate hempty
    | false => simpa [hstate] using PipeMove.interruptData hstate hempty
  · simpa [hstate] using PipeMove.interruptOver

theorem PipeMove.of_step {a : PipeAction κ β ε} (h : pipeStep size opt s a = some t) :
    PipeMove size opt s a t := by
  cases a with
  | read k timed =>
    simp only [pipeStep] at h
    split at h
    · next hk => cases h; exact .read hk
    · cases h
  | write k mb =>
    simp only [pipeStep] at h
    split at h
    · next hk =>
      cases h
      cases hmb : multiEmpty size mb with
      | true => exact .writeNothing hk hmb
      | false => exact .write hk hmb
    · cases h
  | take k =>
    simp only [pipeStep] at h
    split at h
    · next timed hk => cases h; exact .of_take hk
    · cases h
  | put k =>
    simp only [pipeStep] at h
    split at h
    · next mb hk => cases h; exact .of_put hk
    · cases h
  | notify k =>
    simp only [pipeStep] at h
    split at h
    · next r hk => cases h; exact .notifyWriters hk
    · next e hk => cases h; exact .notifyReaders hk
    · cases h
  | wake k =>
    simp only [pipeStep] at h
    split at h
    · next timed hk hsignal => cases h; exact .wakeReader hk hsignal
    · next mb hk hsignal => cases h; exact .wakeWriter hk hsignal
    · cases h
  | wakeDone k =>
    simp only [pipeStep] at h
    split at h
    · next timed hk hdone => cases h; exact .doneReader hk hdone
    · next mb hk hdone => cases h; exact .doneWriter hk hdone
    · cases h
  | wakeError k =>
    simp only [pipeStep] at h
    split at h
    · next e hk _ => cases h; exact .wakeError hk
    · cases h
  | expire k =>
    simp only [pipeStep] at h
    split at h
    · next hk => cases h; exact .expire hk
    · cases h
  | collect k =>
    simp only [pipeStep] at h
    split at h
    · next r hk => cases h; exact .collectRead hk
    · next e hk => cases h; exact .collectWrite hk
    · cases h
  | close =>
    cases h
    rw [Pipe.close]
    split
    · next hstate => exact .close hstate
    · exact .closeOver
  | interrupt => cases h; exact .of_interrupt
  | returnAnError e =>
    simp only [pipeStep] at h
    split at h
    · cases h; exact .returnAnError
    · cases h
  | recover => cases h; exact .recover

end FoloXray.Transport
