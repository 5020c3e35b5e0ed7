import FoloXray.Foundation.Runs
import Mathlib.Algebra.BigOperators.Group.List.Basic
import Mathlib.Algebra.Ring.Int.Defs

/-! # The pipe between a dialler and its outbound

`transport/pipe`: a queue of buffers with an optional size limit, two one-slot notifiers, a flag that
is closed at the end and a slot for one injected error.  Any number of callers are inside
`ReadMultiBuffer`, `ReadMultiBufferTimeout` and `WriteMultiBuffer` at the same time; each is cut at its
locked section, at its notification and at its `select`.
-/

namespace FoloXray.Transport

structure PipeOption where
  limit : Int32
  discardOverflow : Bool
  deriving DecidableEq, Repr

def PipeOption.isFull (o : PipeOption) (curSize : Int32) : Bool := 0 ≤ o.limit && o.limit < curSize

inductive PipeState where
  | opened
  | closed
  | errord
  deriving DecidableEq, Repr

/-- The errors of the pipe's own: `io.EOF`, `io.ErrClosedPipe`, `errBufferFull` and `errSlowDown`. -/
inductive PipeError where
  | eof
  | closedPipe
  | bufferFull
  | slowDown
  deriving DecidableEq, Repr

/-- The fields of a pipe, over buffers `β` and injected errors `ε`; no data is `nil`. -/
structure Pipe (β ε : Type) where
  data : Option (List β)
  readSignal : Bool
  writeSignal : Bool
  done : Bool
  errChan : Option ε
  state : PipeState
  deriving DecidableEq, Repr

section Sections

variable {β ε : Type} (size : β → Int32)

/-- `MultiBuffer.Len`, which wraps around. -/
def multiLen (mb : List β) : Int32 := mb.foldl (fun n b => n + size b) 0

def multiEmpty (mb : List β) : Bool := mb.all fun b => size b == 0

variable (opt : PipeOption) (p : Pipe β ε)

def Pipe.buffered : List β := p.data.getD []

def Pipe.getState (forRead : Bool) : Option PipeError :=
  match p.state with
  | .opened => if !forRead && opt.isFull (multiLen size p.buffered) then some .bufferFull else none
  | .closed =>
    if !forRead then some .closedPipe
    else if !multiEmpty size p.buffered then none
    else some .eof
  | .errord => some .closedPipe

def Pipe.readInternal : Except PipeError (Option (List β)) × Pipe β ε :=
  match p.getState size opt true with
  | some e => (.error e, p)
  | none => (.ok p.data, { p with data := none })

def Pipe.writeInternal (mb : List β) : Option PipeError × Pipe β ε :=
  match p.getState size opt false with
  | some e => (some e, p)
  | none =>
    match p.data with
    | none => (none, { p with data := some mb })
    | some data => (some .slowDown, { p with data := some (data ++ mb) })

def Pipe.close : Pipe β ε :=
  if p.state = .opened then { p with state := .closed, done := true } else p

def Pipe.interrupt : Pipe β ε :=
  if p.state = .opened then
    { p with
      state := .errord
      data := if multiEmpty size p.buffered then p.data else none
      done := true }
  else p

end Sections

/-- What a reading call returns: buffers, an error of the pipe, an injected error or
`buf.ErrReadTimeout`. -/
inductive ReadResult (β ε : Type) where
  | buffers (mb : List β)
  | failed (e : PipeError)
  | injected (e : ε)
  | timeout
  deriving DecidableEq, Repr

/-- Where a caller is: outside, before its locked section, at its `select`, before its notification, or
behind its return. -/
inductive Call (β ε : Type) where
  | idle
  | reading (timed : Bool)
  | readWait (timed : Bool)
  | readNotify (r : ReadResult β ε)
  | readReturned (r : ReadResult β ε)
  | writing (mb : List β)
  | writeWait (mb : List β)
  | writeNotify (e : Option PipeError)
  | writeReturned (e : Option PipeError)
  deriving DecidableEq, Repr

/-- A pipe with its callers, and what it took from writers, gave to readers and dropped when it was
interrupted, each in the order of the lock. -/
structure PipeSystem (κ β ε : Type) where
  pipe : Pipe β ε
  calls : κ → Call β ε
  accepted : List β
  delivered : List β
  discarded : List β

inductive PipeAction (κ β ε : Type) where
  | read (k : κ) (timed : Bool)
  | write (k : κ) (mb : List β)
  | take (k : κ)
  | put (k : κ)
  | notify (k : κ)
  | wake (k : κ)
  | wakeDone (k : κ)
  | wakeError (k : κ)
  | expire (k : κ)
  | collect (k : κ)
  | close
  | interrupt
  | returnAnError (e : ε)
  | recover
  deriving DecidableEq, Repr

/-- A step of a call that has been made; the others are new calls, timers and the two ends. -/
def PipeAction.internal {κ β ε : Type} : PipeAction κ β ε → Bool
  | .take _ | .put _ | .notify _ | .wake _ | .wakeDone _ | .wakeError _ => true
  | _ => false

section System

variable {κ β ε : Type} [DecidableEq κ]

/-- `New`: an open pipe without callers. -/
def PipeSystem.new : PipeSystem κ β ε where
  pipe := ⟨none, false, false, false, none, .opened⟩
  calls _ := .idle
  accepted := []
  delivered := []
  discarded := []

variable (size : β → Int32) (opt : PipeOption) (s : PipeSystem κ β ε)

def PipeSystem.set (k : κ) (c : Call β ε) : PipeSystem κ β ε :=
  { s with calls := Function.update s.calls k c }

def PipeSystem.take (k : κ) (timed : Bool) : PipeSystem κ β ε :=
  let s' := { s with pipe := (s.pipe.readInternal size opt).2 }
  match (s.pipe.readInternal size opt).1 with
  | .error e => s'.set k (.readNotify (.failed e))
  | .ok (some mb) => { s'.set k (.readNotify (.buffers mb)) with delivered := s.delivered ++ mb }
  | .ok none => s'.set k (.readWait timed)

/-- The locked section of a writing call, with what the loop makes of its result. -/
def PipeSystem.put (k : κ) (mb : List β) : PipeSystem κ β ε :=
  let s' := { s with pipe := (s.pipe.writeInternal size opt mb).2 }
  match (s.pipe.writeInternal size opt mb).1 with
  | none | some .slowDown => { s'.set k (.writeNotify none) with accepted := s.accepted ++ mb }
  | some .bufferFull =>
    if opt.discardOverflow then s'.set k (.writeReturned none) else s'.set k (.writeWait mb)
  | some e => s'.set k (.writeNotify (some e))

def PipeSystem.interrupt : PipeSystem κ β ε :=
  { s with
    pipe := s.pipe.interrupt size
    discarded :=
      if s.pipe.state = .opened ∧ ¬ multiEmpty size s.pipe.buffered then
        s.discarded ++ s.pipe.buffered
      else s.discarded }

def pipeStep : PipeAction κ β ε → Option (PipeSystem κ β ε)
  | .read k timed =>
    match s.calls k with
    | .idle => some (s.set k (.reading timed))
    | _ => none
  | .write k mb =>
    match s.calls k with
    | .idle => some (s.set k (if multiEmpty size mb then .writeReturned none else .writing mb))
    | _ => none
  | .take k =>
    match s.calls k with
    | .reading timed => some (s.take size opt k timed)
    | _ => none
  | .put k =>
    match s.calls k with
    | .writing mb => some (s.put size opt k mb)
    | _ => none
  | .notify k =>
    match s.calls k with
    | .readNotify r => some { s.set k (.readReturned r) with pipe := { s.pipe with writeSignal := true } }
    | .writeNotify e => some { s.set k (.writeReturned e) with pipe := { s.pipe with readSignal := true } }
    | _ => none
  | .wake k =>
    match s.calls k, s.pipe.readSignal, s.pipe.writeSignal with
    | .readWait timed, true, _ =>
      some { s.set k (.reading timed) with pipe := { s.pipe with readSignal := false } }
    | .writeWait mb, _, true =>
      some { s.set k (.writing mb) with pipe := { s.pipe with writeSignal := false } }
    | _, _, _ => none
  | .wakeDone k =>
    match s.calls k, s.pipe.done with
    | .readWait timed, true => some (s.set k (.reading timed))
    | .writeWait _, true => some (s.set k (.writeReturned (some .closedPipe)))
    | _, _ => none
  | .wakeError k =>
    -- only `ReadMultiBuffer` receives from the error channel
    match s.calls k, s.pipe.errChan with
    | .readWait false, some e =>
      some { s.set k (.readReturned (.injected e)) with pipe := { s.pipe with errChan := none } }
    | _, _ => none
  | .expire k =>
    match s.calls k with
    | .readWait true => some (s.set k (.readReturned .timeout))
    | _ => none
  | .collect k =>
    match s.calls k with
    | .readReturned _ | .writeReturned _ => some (s.set k .idle)
    | _ => none
  | .close => some { s with pipe := s.pipe.close }
  | .interrupt => some (s.interrupt size)
  | .returnAnError e =>
    if s.pipe.errChan.isNone then some { s with pipe := { s.pipe with errChan := some e } } else none
  | .recover => some { s with pipe := { s.pipe with errChan := none } }

end System

end FoloXray.Transport
