import FoloXray.Foundation.Copying
import FoloXray.Foundation.Runs
import FoloXray.Netstack.TCPTarget

/-! # The TCP relay

`proxyTCP` behind the choice of its outbound connection: the first read is written out, and then two
goroutines copy, one in each direction.  At the end of its stream a goroutine closes the writing side of
the connection it writes to; the connection of the Xray dispatcher cannot do that and is closed as a
whole, which interrupts the pipe that the other goroutine reads from.  The peers and the goroutines take
their steps in any order; no read or write fails of itself and no deadline fires.
-/

namespace FoloXray.Netstack
open Foundation Routing

/-- The dynamic type of the outbound connection: a `net.TCPConn` or a `cnc` connection. -/
inductive OutboundConn where
  | tcp
  | cnc
  deriving DecidableEq, Repr

def TCPOutbound.conn : TCPOutbound → Option OutboundConn
  | .blocked => none
  | .direct _ _ => some .tcp
  | .xray _ _ => some .cnc

/-- From the client to the outbound connection: what the client has sent behind the first read, whether
that was all, what of it is not read yet, the goroutine, and what the outbound connection was given. -/
structure Upward where
  request : Bytes
  clientEnded : Bool
  fromClient : Bytes
  loop : CopyLoop UInt8
  toServer : Bytes
  deriving DecidableEq, Repr

inductive UpEvent where
  | clientSends (bytes : Bytes)
  | clientEnds
  | read (n : ℕ)
  | write
  | ends
  | close
  deriving DecidableEq, Repr

def Upward.step (u : Upward) : UpEvent → Option Upward
  | .clientSends bytes =>
    if u.clientEnded then none
    else some { u with request := u.request ++ bytes, fromClient := u.fromClient ++ bytes }
  | .clientEnds => if u.clientEnded then none else some { u with clientEnded := true }
  | .read n =>
    if u.loop = .reading ∧ u.fromClient ≠ [] ∧ 0 < n then
      some { u with loop := .writing (u.fromClient.take n), fromClient := u.fromClient.drop n }
    else none
  | .write =>
    match u.loop with
    | .writing chunk => some { u with loop := .reading, toServer := u.toServer ++ chunk }
    | _ => none
  | .ends =>
    if u.loop = .reading ∧ u.fromClient = [] ∧ u.clientEnded = true then
      some { u with loop := .closing }
    else none
  | .close => if u.loop = .closing then some { u with loop := .finished } else none

/-- The state of the pipe behind a `cnc` connection; a socket is open until its peer ends. -/
inductive PipeState where
  | opened
  | closed
  | errord
  deriving DecidableEq, Repr

def PipeState.ended : PipeState → Bool
  | .opened => false
  | _ => true

/-- From the outbound connection to the client: what the outbound side has delivered, the pipe and what
stands in it, what the buffered reader of a `cnc` connection has taken out, the goroutine, and what the
inbound connection was given. -/
structure Downward where
  response : Bytes
  pipe : PipeState
  unread : Bytes
  buffered : Bytes
  loop : CopyLoop UInt8
  toClient : Bytes
  deriving DecidableEq, Repr

inductive DownEvent where
  | serverSends (bytes : Bytes)
  | serverEnds
  | read (n : ℕ)
  | write
  | ends
  | close
  deriving DecidableEq, Repr

def Downward.available (d : Downward) : OutboundConn → Bytes
  | .tcp => d.unread
  | .cnc => d.buffered ++ d.unread

/-- A read of at most `n` bytes from the outbound connection.  A buffered reader empties the pipe and
keeps what the caller has no room for. -/
def Downward.readChunk (d : Downward) (n : ℕ) : OutboundConn → Downward
  | .tcp => { d with loop := .writing (d.unread.take n), unread := d.unread.drop n }
  | .cnc =>
    if d.buffered ≠ [] then
      { d with loop := .writing (d.buffered.take n), buffered := d.buffered.drop n }
    else { d with loop := .writing (d.unread.take n), buffered := d.unread.drop n, unread := [] }

def Downward.step (conn : OutboundConn) (d : Downward) : DownEvent → Option Downward
  | .serverSends bytes =>
    if d.pipe = .opened then some { d with response := d.response ++ bytes, unread := d.unread ++ bytes }
    else none
  | .serverEnds => if d.pipe = .opened then some { d with pipe := .closed } else none
  | .read n =>
    if d.loop = .reading ∧ d.available conn ≠ [] ∧ 0 < n then some (d.readChunk n conn) else none
  | .write =>
    match d.loop with
    | .writing chunk => some { d with loop := .reading, toClient := d.toClient ++ chunk }
    | _ => none
  | .ends =>
    -- the end of the stream, or the error of an interrupted pipe: either ends the copying
    if d.loop = .reading ∧ d.available conn = [] ∧ d.pipe ≠ .opened then some { d with loop := .closing }
    else none
  | .close => if d.loop = .closing then some { d with loop := .finished } else none

/-- `pipe.Interrupt`: an open pipe loses what stands in it. -/
def Downward.interrupt (d : Downward) : Downward :=
  if d.pipe = .opened then { d with pipe := .errord, unread := [] } else d

/-- What the close of the outbound connection, or of its writing side, does to the way back. -/
def Downward.outboundClosed (d : Downward) : OutboundConn → Downward
  | .tcp => d
  | .cnc => d.interrupt

structure TCPRelay where
  up : Upward
  down : Downward
  deriving DecidableEq, Repr

inductive TCPEvent where
  | up (e : UpEvent)
  | down (e : DownEvent)
  deriving DecidableEq, Repr

def UpEvent.own : UpEvent → Bool
  | .clientSends _ | .clientEnds => false
  | _ => true

def DownEvent.own : DownEvent → Bool
  | .serverSends _ | .serverEnds => false
  | _ => true

def TCPEvent.ofProgram : TCPEvent → Prop
  | .up e => e.own = true
  | .down e => e.own = true

def tcpStep (conn : OutboundConn) (s : TCPRelay) : TCPEvent → Option TCPRelay
  | .up e => (s.up.step e).map fun u => ⟨u, if e = .close then s.down.outboundClosed conn else s.down⟩
  | .down e => (s.down.step conn e).map fun d => ⟨s.up, d⟩

def TCPRelay.start (peeked : Bytes) : TCPRelay where
  up := ⟨[], false, [], .reading, peeked⟩
  down := ⟨[], .opened, [], [], .reading, []⟩

def TCPRelay.Complete (s : TCPRelay) : Prop := s.up.loop = .finished ∧ s.down.loop = .finished

/-- The direction towards the server as a copying loop whose sink already has the first read. -/
def Upward.copying (peeked : Bytes) (u : Upward) : Copying UInt8 :=
  ⟨peeked ++ u.request, u.clientEnded, u.fromClient, u.loop, u.toServer⟩

def Downward.copying (conn : OutboundConn) (d : Downward) : Copying UInt8 :=
  ⟨d.response, d.pipe.ended, d.available conn, d.loop, d.toClient⟩

variable {conn : OutboundConn} {peeked lost : Bytes} {s t : TCPRelay} {e : TCPEvent}

theorem take_ne_nil {s : Bytes} {n : ℕ} (hs : s ≠ []) (hn : 0 < n) : s.take n ≠ [] := by
  rw [Ne, List.take_eq_nil_iff, not_or]
  exact ⟨hn.ne', hs⟩

theorem Upward.step_copying {u v : Upward} {e : UpEvent} (hstep : u.step e = some v) :
    Copying.Step e.own (u.copying peeked) (v.copying peeked) := by
  cases e with
  | clientSends bytes =>
    simp only [Upward.step] at hstep
    split at hstep
    · cases hstep
    · rename_i hopen
      cases hstep
      have hdeliver : Copying.Step false (u.copying peeked) _ :=
        .deliver bytes (Bool.eq_false_iff.mpr hopen)
      simpa only [Upward.copying, UpEvent.own, List.append_assoc] using hdeliver
  | clientEnds =>
    simp only [Upward.step] at hstep
    split at hstep
    · cases hstep
    · cases hstep
      exact .finish
  | read n =>
    simp only [Upward.step] at hstep
    split at hstep
    · rename_i hguard
      cases hstep
      exact .read _ _ hguard.1 (List.take_append_drop n u.fromClient).symm
        (take_ne_nil hguard.2.1 hguard.2.2)
    · cases hstep
  | write =>
    simp only [Upward.step] at hstep
    split at hstep
    · rename_i chunk hloop
      cases hstep
      exact .write chunk hloop
    · cases hstep
  | ends =>
    simp only [Upward.step] at hstep
    split at hstep
    · rename_i hguard
      cases hstep
      exact .ends hguard.1 hguard.2.1 hguard.2.2
    · cases hstep
  | close =>
    simp only [Upward.step] at hstep
    split at hstep
    · rename_i hguard
      cases hstep
      exact .close hguard
    · cases hstep

theorem PipeState.ended_eq_true {p : PipeState} : p.ended = true ↔ p ≠ .opened := by
  cases p <;> decide

/-- A read takes what it returns from the front of what can be read. -/
theorem readChunk_copying {d : Downward} {n : ℕ} (h : d.available conn ≠ []) (hn : 0 < n) :
    ∃ chunk rest, chunk ≠ [] ∧ d.available conn = chunk ++ rest ∧
      (d.readChunk n conn).copying conn = { d.copying conn with loop := .writing chunk, left := rest } := by
  cases conn with
  | tcp =>
    exact ⟨_, _, take_ne_nil h hn, (List.take_append_drop n d.unread).symm, rfl⟩
  | cnc =>
    by_cases hbuffered : d.buffered = []
    · have hall : d.available .cnc = d.unread := by
        rw [Downward.available, hbuffered, List.nil_append]
      rw [hall] at h ⊢
      refine ⟨_, _, take_ne_nil h hn, (List.take_append_drop n d.unread).symm, ?_⟩
      rw [Downward.readChunk, if_neg (not_not_intro hbuffered)]
      simp only [Downward.copying, Downward.available, List.append_nil]
    · refine ⟨d.buffered.take n, d.buffered.drop n ++ d.unread, take_ne_nil hbuffered hn, ?_, ?_⟩
      · rw [← List.append_assoc, List.take_append_drop]
        rfl
      · rw [Downward.readChunk, if_pos hbuffered]
        rfl

theorem Downward.step_copying {d d' : Downward} {e : DownEvent} (hstep : d.step conn e = some d') :
    Copying.Step e.own (d.copying conn) (d'.copying conn) := by
  cases e with
  | serverSends bytes =>
    simp only [Downward.step] at hstep
    split at hstep
    · rename_i hopen
      cases hstep
      have hdeliver : Copying.Step false (d.copying conn) _ :=
        .deliver bytes (congrArg PipeState.ended hopen)
      cases conn with
      | tcp => exact hdeliver
      | cnc =>
        simpa only [Downward.copying, Downward.available, DownEvent.own, List.append_assoc] using hdeliver
    · cases hstep
  | serverEnds =>
    simp only [Downward.step] at hstep
    split at hstep
    · cases hstep
      cases conn <;> exact .finish
    · cases hstep
  | read n =>
    simp only [Downward.step] at hstep
    split at hstep
    · rename_i hguard
      cases hstep
      obtain ⟨chunk, rest, hchunk, hleft, hread⟩ := readChunk_copying hguard.2.1 hguard.2.2
      rw [hread]
      exact .read chunk rest hguard.1 hleft hchunk
    · cases hstep
  | write =>
    simp only [Downward.step] at hstep
    split at hstep
    · rename_i chunk hloop
      cases hstep
      cases conn <;> exact .write chunk hloop
    · cases hstep
  | ends =>
    simp only [Downward.step] at hstep
    split at hstep
    · rename_i hguard
      cases hstep
      have hends : Copying.Step true (d.copying conn) _ :=
        .ends hguard.1 hguard.2.1 (PipeState.ended_eq_true.mpr hguard.2.2)
      cases conn <;> exact hends
    · cases hstep
  | close =>
    simp only [Downward.step] at hstep
    split at hstep
    · rename_i hguard
      cases hstep
      cases conn <;> exact .close hguard
    · cases hstep

/-- An interrupt cuts the source off behind what the buffered reader has taken out. -/
theorem interrupt_copying {d : Downward} (hopen : d.pipe = .opened) :
    d.interrupt.copying .cnc = (d.copying .cnc).cut d.buffered := by
  rw [Downward.interrupt, if_pos hopen]
  simp only [Downward.copying, Downward.available, Copying.cut, List.append_nil]
  rfl

/-- The close behind the client's stream is one of a `cnc` connection whose pipe is open. -/
def Interrupts (conn : OutboundConn) (s : TCPRelay) (e : TCPEvent) : Prop :=
  e = .up .close ∧ conn = .cnc ∧ s.down.pipe = .opened

instance (conn : OutboundConn) (s : TCPRelay) (e : TCPEvent) : Decidable (Interrupts conn s e) :=
  inferInstanceAs (Decidable (_ ∧ _ ∧ _))

def discarded (conn : OutboundConn) (s : TCPRelay) (e : TCPEvent) : Bytes :=
  if Interrupts conn s e then s.down.unread else []

theorem outboundClosed_of_not_interrupts {d : Downward} (h : ¬ (conn = .cnc ∧ d.pipe = .opened)) :
    d.outboundClosed conn = d := by
  cases conn with
  | tcp => rfl
  | cnc => exact if_neg fun hopen => h ⟨rfl, hopen⟩

/-- A step moves one of the directions; the other one notices an interrupt only. -/
theorem tcpStep_eq_some (h : tcpStep conn s e = some t) :
    (∃ e', e = .up e' ∧ s.up.step e' = some t.up ∧
      t.down = if Interrupts conn s e then s.down.interrupt else s.down) ∨
    ∃ e', e = .down e' ∧ s.down.step conn e' = some t.down ∧ t.up = s.up := by
  cases e with
  | up e' =>
    obtain ⟨u, hu, ht⟩ := Option.map_eq_some_iff.mp h
    subst ht
    refine .inl ⟨e', rfl, hu, ?_⟩
    by_cases hint : Interrupts conn s (.up e')
    · have hclose : e' = .close := TCPEvent.up.inj hint.1
      have hconn := hint.2.1
      rw [if_pos hint]
      subst hclose hconn
      rfl
    · rw [if_neg hint]
      show (if e' = .close then s.down.outboundClosed conn else s.down) = s.down
      split
      · rename_i hclose
        exact outboundClosed_of_not_interrupts fun h => hint ⟨congrArg _ hclose, h⟩
      · rfl
  | down e' =>
    obtain ⟨d, hd, ht⟩ := Option.map_eq_some_iff.mp h
    subst ht
    exact .inr ⟨e', rfl, hd, rfl⟩

theorem not_interrupts_down {e' : DownEvent} (he : e = .down e') : ¬ Interrupts conn s e := by
  intro hint
  rw [he] at hint
  cases hint.1

/-- Both directions carry their streams; of the response some bytes may be lost. -/
structure TCPRelay.Sound (conn : OutboundConn) (peeked : Bytes) (s : TCPRelay) (lost : Bytes) : Prop where
  up : (s.up.copying peeked).Sound []
  down : (s.down.copying conn).Sound lost

theorem start_sound (conn : OutboundConn) (peeked : Bytes) :
    (TCPRelay.start peeked).Sound conn peeked [] where
  up := ⟨rfl, fun _ => rfl, nofun⟩
  down := ⟨by cases conn <;> rfl, fun _ => rfl, nofun⟩

theorem TCPRelay.Sound.step (h : s.Sound conn peeked lost) (hstep : tcpStep conn s e = some t) :
    t.Sound conn peeked (lost ++ discarded conn s e) := by
  rcases tcpStep_eq_some hstep with ⟨e', -, hup, hdown⟩ | ⟨e', he, hdown, hup⟩
  · refine ⟨h.up.step (Upward.step_copying hup), ?_⟩
    rw [hdown, discarded]
    split
    · rename_i hint
      obtain ⟨-, hconn, hopen⟩ := hint
      subst hconn
      have hended : (s.down.copying .cnc).ended = false := congrArg PipeState.ended hopen
      rw [h.down.kept hended, interrupt_copying hopen]
      exact h.down.cut hended rfl
    · rw [List.append_nil]
      exact h.down
  · rw [discarded, if_neg (not_interrupts_down he), List.append_nil]
    refine ⟨?_, h.down.step (Downward.step_copying hdown)⟩
    rw [hup]
    exact h.up

/-- In every run what is lost is what the interrupts discard. -/
theorem sound_of_run {events : List TCPEvent}
    (h : run (tcpStep conn) (.start peeked) events = some s) :
    s.Sound conn peeked (emits (tcpStep conn) (discarded conn) (.start peeked) events) :=
  emits_invariant (P := TCPRelay.Sound conn peeked) (fun _ _ _ _ h hstep => h.step hstep)
    (start_sound conn peeked) h

theorem readChunk_pipe (d : Downward) (n : ℕ) : (d.readChunk n conn).pipe = d.pipe := by
  cases conn with
  | tcp => rfl
  | cnc =>
    rw [Downward.readChunk]
    split <;> rfl

/-- The pipe changes in a step of its own direction only when the outbound side closes it. -/
theorem Downward.step_pipe {d d' : Downward} {e : DownEvent} (hstep : d.step conn e = some d') :
    d'.pipe = d.pipe ∨ (d.pipe = .opened ∧ d'.pipe = .closed) := by
  cases e with
  | serverEnds =>
    simp only [Downward.step] at hstep
    split at hstep
    · rename_i hopen
      cases hstep
      exact .inr ⟨hopen, rfl⟩
    · cases hstep
  | read n =>
    simp only [Downward.step] at hstep
    split at hstep
    · cases hstep
      exact .inl (readChunk_pipe d n)
    · cases hstep
  | serverSends | write | ends | close =>
    simp only [Downward.step] at hstep
    split at hstep
    · cases hstep
      exact .inl rfl
    · cases hstep

/-- A pipe is in the error state once it was interrupted, and only then. -/
theorem tcpStep_errord (hstep : tcpStep conn s e = some t) :
    t.down.pipe = .errord ↔ s.down.pipe = .errord ∨ Interrupts conn s e := by
  rcases tcpStep_eq_some hstep with ⟨e', -, -, hdown⟩ | ⟨e', he, hdown, -⟩
  · rw [hdown]
    split
    · rename_i hint
      rw [Downward.interrupt, if_pos hint.2.2]
      exact iff_of_true rfl (.inr hint)
    · rename_i hint
      exact (or_iff_left hint).symm
  · rw [or_iff_left (not_interrupts_down he)]
    rcases Downward.step_pipe hdown with hpipe | ⟨hopen, hclosed⟩
    · rw [hpipe]
    · rw [hopen, hclosed]
      exact iff_of_false nofun nofun

/-- What the goroutines have to do once both streams have ended. -/
def TCPRelay.work (conn : OutboundConn) (s : TCPRelay) : ℕ :=
  s.up.loop.work s.up.fromClient.length + s.down.loop.work (s.down.available conn).length

theorem interrupt_work_le {d : Downward} (hopen : d.pipe = .opened) :
    (d.interrupt.copying .cnc).work ≤ (d.copying .cnc).work := by
  rw [interrupt_copying hopen]
  exact Copying.cut_work_le rfl

theorem TCPRelay.work_lt (he : e.ofProgram) (hstep : tcpStep conn s e = some t) :
    t.work conn < s.work conn := by
  rcases tcpStep_eq_some hstep with ⟨e', he', hup, hdown⟩ | ⟨e', he', hdown, hup⟩
  · rw [he'] at he
    have hcopies := @Upward.step_copying [] _ _ _ hup
    rw [he] at hcopies
    have hle : (t.down.copying conn).work ≤ (s.down.copying conn).work := by
      rw [hdown]
      split
      · rename_i hint
        obtain ⟨-, hconn, hopen⟩ := hint
        subst hconn
        exact interrupt_work_le hopen
      · exact le_rfl
    exact add_lt_add_of_lt_of_le (Copying.work_lt hcopies) hle
  · rw [he'] at he
    have hcopies := Downward.step_copying hdown
    rw [he] at hcopies
    rw [TCPRelay.work, TCPRelay.work, hup]
    exact Nat.add_lt_add_left (Copying.work_lt hcopies) _

/-- A goroutine that has not ended has a step behind the end of its stream. -/
theorem Upward.exists_step {u : Upward} (hended : u.clientEnded = true) (h : u.loop ≠ .finished) :
    ∃ e : UpEvent, e.own = true ∧ (u.step e).isSome := by
  cases hloop : u.loop with
  | reading =>
    by_cases hleft : u.fromClient = []
    · exact ⟨.ends, rfl, by simp [Upward.step, hloop, hleft, hended]⟩
    · exact ⟨.read 1, rfl, by simp [Upward.step, hloop, hleft]⟩
  | writing chunk => exact ⟨.write, rfl, by simp [Upward.step, hloop]⟩
  | closing => exact ⟨.close, rfl, by simp [Upward.step, hloop]⟩
  | finished => exact absurd hloop h

theorem Downward.exists_step {d : Downward} (hended : d.pipe ≠ .opened) (h : d.loop ≠ .finished) :
    ∃ e : DownEvent, e.own = true ∧ (d.step conn e).isSome := by
  cases hloop : d.loop with
  | reading =>
    by_cases hleft : d.available conn = []
    · exact ⟨.ends, rfl, by simp [Downward.step, hloop, hleft, hended]⟩
    · exact ⟨.read 1, rfl, by simp [Downward.step, hloop, hleft]⟩
  | writing chunk => exact ⟨.write, rfl, by simp [Downward.step, hloop]⟩
  | closing => exact ⟨.close, rfl, by simp [Downward.step, hloop]⟩
  | finished => exact absurd hloop h

def TCPRelay.Ended (s : TCPRelay) : Prop := s.up.clientEnded = true ∧ s.down.pipe ≠ .opened

theorem TCPRelay.Ended.step (h : s.Ended) (hstep : tcpStep conn s e = some t) : t.Ended := by
  rcases tcpStep_eq_some hstep with ⟨e', -, hup, hdown⟩ | ⟨e', -, hdown, hup⟩
  · refine ⟨Copying.ended_of_step h.1 (@Upward.step_copying [] _ _ _ hup), ?_⟩
    rw [hdown, Downward.interrupt, if_neg h.2, ite_self]
    exact h.2
  · have hended := Copying.ended_of_step (PipeState.ended_eq_true.mpr h.2) (Downward.step_copying hdown)
    refine ⟨?_, PipeState.ended_eq_true.mp hended⟩
    rw [hup]
    exact h.1

/-- Behind the ends of both streams a relay without a step for its goroutines is complete. -/
theorem TCPRelay.Ended.complete (h : s.Ended) (hstuck : ∀ e, e.ofProgram → tcpStep conn s e = none) :
    s.Complete := by
  by_contra hcomplete
  rcases not_and_or.mp hcomplete with hup | hdown
  · obtain ⟨e, he, hstep⟩ := Upward.exists_step h.1 hup
    obtain ⟨u, hu⟩ := Option.isSome_iff_exists.mp hstep
    have hnone := hstuck (.up e) he
    rw [tcpStep, hu] at hnone
    cases hnone
  · obtain ⟨e, he, hstep⟩ := @Downward.exists_step conn _ h.2 hdown
    obtain ⟨d, hd⟩ := Option.isSome_iff_exists.mp hstep
    have hnone := hstuck (.down e) he
    rw [tcpStep, hd] at hnone
    cases hnone

/-- A byte that stands in the pipe when it is interrupted never arrives. -/
theorem toClient_ne_of_interrupt (h : s.Sound .cnc peeked lost) (hloop : s.up.loop = .closing)
    (hopen : s.down.pipe = .opened) (b : UInt8) :
    ∃ t, run (tcpStep .cnc) s [.down (.serverSends [b]), .up .close] = some t ∧
      ∀ events u, run (tcpStep .cnc) t events = some u → u.down.toClient ≠ u.down.response := by
  let d : Downward :=
    { s.down with response := s.down.response ++ [b], unread := s.down.unread ++ [b] }
  let s₁ : TCPRelay := ⟨s.up, d⟩
  have hsend : tcpStep .cnc s (.down (.serverSends [b])) = some s₁ := by
    simp [tcpStep, Downward.step, hopen, s₁, d]
  have hclose : tcpStep .cnc s₁ (.up .close) = some ⟨{ s.up with loop := .finished }, d.interrupt⟩ := by
    simp [tcpStep, Upward.step, hloop, s₁, Downward.outboundClosed]
  have hint : Interrupts .cnc s₁ (.up .close) := ⟨rfl, rfl, hopen⟩
  refine ⟨_, run_cons_eq_some.mpr ⟨s₁, hsend, run_cons_eq_some.mpr ⟨_, hclose, rfl⟩⟩, ?_⟩
  intro events u hrun
  have hu := emits_invariant (P := TCPRelay.Sound .cnc peeked) (fun _ _ _ _ h hstep => h.step hstep)
    ((h.step hsend).step hclose) hrun
  have hlost : discarded .cnc s₁ (.up .close) = s.down.unread ++ [b] := if_pos hint
  refine hu.down.sent_ne ?_
  rw [hlost]
  simp

/-- In every run the outbound connection receives the first read and the rest of the client's stream.
The client receives the response from its start, and all of it up to the outbound side's own end of stream
exactly if no close of a `cnc` connection finds the pipe open; with an open pipe a byte can be lost for
good.  When the peers have ended the goroutines come to their ends in every order of their steps. -/
theorem response_whole_iff {events : List TCPEvent}
    (h : run (tcpStep conn) (.start peeked) events = some s) :
    (s.up.toServer <+: peeked ++ s.up.request ∧ s.down.toClient <+: s.down.response) ∧
    (s.Complete → s.up.toServer = peeked ++ s.up.request ∧
      (s.down.pipe = .closed ∧ s.down.toClient = s.down.response ↔
        Meets (tcpStep conn) (fun s e => ¬ Interrupts conn s e) (.start peeked) events)) ∧
    (s.up.loop = .closing → conn = .cnc → s.down.pipe = .opened → ∀ b, ∃ t,
      run (tcpStep conn) s [.down (.serverSends [b]), .up .close] = some t ∧
      ∀ events u, run (tcpStep conn) t events = some u → u.down.toClient ≠ u.down.response) ∧
    (s.Ended → ∀ events u, (∀ e ∈ events, e.ofProgram) → run (tcpStep conn) s events = some u →
      events.length ≤ s.work conn ∧ ((∀ e, e.ofProgram → tcpStep conn u e = none) → u.Complete)) := by
  have hsound := sound_of_run h
  refine ⟨⟨hsound.up.sent_prefix, hsound.down.sent_prefix⟩, ?_, ?_, ?_⟩
  · rintro ⟨hup, hdown⟩
    have hserver := hsound.up.sent_append_lost hup
    rw [List.append_nil] at hserver
    have herr : Meets (tcpStep conn) (fun s e => ¬ Interrupts conn s e) (.start peeked) events ↔
        s.down.pipe ≠ .errord := meets_not_iff (fun _ _ _ => tcpStep_errord) PipeState.noConfusion h
    refine ⟨hserver, ?_, ?_⟩
    · rintro ⟨hpipe, -⟩
      rw [herr, hpipe]
      decide
    · intro hmeets
      have hclient := hsound.down.sent_append_lost hdown
      have hlost : emits (tcpStep conn) (discarded conn) (.start peeked) events = [] :=
        emits_eq_nil_of_meets (fun _ _ hint => if_neg hint) hmeets
      rw [hlost, List.append_nil] at hclient
      have hopen := PipeState.ended_eq_true.mp (hsound.down.ended (.inr hdown)).1
      refine ⟨?_, hclient⟩
      cases hpipe : s.down.pipe with
      | opened => exact absurd hpipe hopen
      | closed => rfl
      | errord => exact absurd hpipe (herr.mp hmeets)
  · intro hloop hconn hopen
    subst hconn
    exact toClient_ne_of_interrupt hsound hloop hopen
  · intro hended events u hown hrun
    refine ⟨?_, fun hstuck => ?_⟩
    · have hwork := length_add_work_le (fun _ _ _ he hstep => TCPRelay.work_lt he hstep) hown hrun
      exact Nat.le_of_add_right_le hwork
    · have hu : u.Ended := run_invariant (fun _ _ _ h hstep => h.step hstep) hended hrun
      exact hu.complete hstuck

def directConfig : Config := ⟨modeDirect, [], [], [], [], [], []⟩

def halfClosed : List TCPEvent :=
  [.up .clientEnds, .up .ends, .up .close, .down (.serverSends [1, 2]), .down .serverEnds,
    .down (.read 4096), .down .write, .down .ends, .down .close]

theorem response_whole_iff_direct :
    (proxyTCP (newRouter directConfig) namedRequest (goString "2001:db8::1") 8080).conn = some .tcp ∧
      ∃ s, run (tcpStep .tcp) (.start namedRequest) halfClosed = some s ∧
        s.up.toServer = namedRequest ∧ s.down.response = [1, 2] ∧ s.down.toClient = [1, 2] := by
  refine ⟨by decide +kernel, ?_⟩
  let s : TCPRelay := ⟨⟨[], true, [], .finished, namedRequest⟩, ⟨[1, 2], .closed, [], [], .finished, [1, 2]⟩⟩
  have hrun : run (tcpStep .tcp) (.start namedRequest) halfClosed = some s := rfl
  have hmeets : Meets (tcpStep .tcp) (fun s e => ¬ Interrupts .tcp s e) (.start namedRequest) halfClosed :=
    meets_of_forall (fun _ _ _ hint => nomatch hint.2.1) _
  obtain ⟨hserver, hclient⟩ := (response_whole_iff hrun).2.1 ⟨rfl, rfl⟩
  refine ⟨s, hrun, ?_, rfl, (hclient.mpr hmeets).2⟩
  rw [hserver]
  exact List.append_nil namedRequest

/-- Through the dispatcher the same order of the streams loses what the goroutine has not read when the
other one closes the connection. -/
theorem response_cut_off :
    (proxyTCP (newRouter globalConfig) namedRequest (goString "2001:db8::1") 8080).conn = some .cnc ∧
      ∃ s, run (tcpStep .cnc) (.start namedRequest)
          [.up .clientEnds, .up .ends, .down (.serverSends [1, 2]), .up .close, .down .ends, .down .close] =
            some s ∧
        s.Complete ∧ s.down.response = [1, 2] ∧ s.down.toClient = [] := by
  refine ⟨by decide +kernel, ?_⟩
  exact ⟨⟨⟨[], true, [], .finished, namedRequest⟩, ⟨[1, 2], .errord, [], [], .finished, []⟩⟩, rfl,
    ⟨rfl, rfl⟩, rfl, rfl⟩

end FoloXray.Netstack
