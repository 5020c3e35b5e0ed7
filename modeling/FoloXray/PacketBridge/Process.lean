import FoloXray.PacketBridge.Invariant

/-! # The descriptors behind the bridge

`NewPacketSocketFromFD` wraps the caller's descriptor, duplicates it into a connection and closes it.
The process below runs the bridge together with the descriptor table: every `PacketSocket.Close` of
the interleaved model closes the connection of that socket unless its `closeOnce` has fired, and the
rest of the process opens and closes descriptors of its own.
-/

namespace FoloXray.PacketBridge
open Wrapper Foundation

abbrev Table := ℕ → Option ℕ

/-- What the system answers while a descriptor is attached: the duplicate that `net.FileConn` gets,
whether the file is a socket it can use, and whether closing the original reports an error. -/
structure Answers where
  duplicate : Option ℕ
  isSocket : Bool
  closeFails : Bool
  deriving DecidableEq, Repr

/-- A connection: its descriptor and the file that was adopted with it. -/
structure Endpoint where
  descriptor : ℕ
  file : ℕ
  deriving DecidableEq, Repr

inductive AttachError where
  | invalid
  | notSocketCloseFailed
  | notSocket
  | closeFailed
  deriving DecidableEq, Repr

/-- `net.FileConn`: it duplicates an open descriptor, and gives the duplicate up again when the file
is not a socket. -/
def fileConn (t : Table) (fd : ℕ) (answers : Answers) : Option Endpoint × Table :=
  match t fd, answers.duplicate with
  | some file, some d =>
    if t d = none ∧ answers.isSocket then (some ⟨d, file⟩, Function.update t d (some file))
    else (none, t)
  | _, _ => (none, t)

/-- `File.Close`: the error it reports and the table without the descriptor. -/
def closeFile (t : Table) (fd : ℕ) (answers : Answers) : Bool × Table :=
  if t fd = none then (true, t) else (answers.closeFails, Function.update t fd none)

/-- `NewPacketSocketFromFD`.  `os.NewFile` wraps every descriptor that is not negative. -/
def newPacketSocketFromFD (t : Table) (fd : ℤ) (answers : Answers) :
    Except AttachError Endpoint × Table :=
  if fd < 0 then (.error .invalid, t)
  else
    let conn := fileConn t fd.toNat answers
    let closed := closeFile conn.2 fd.toNat answers
    match conn.1 with
    | none => (.error (if closed.1 then .notSocketCloseFailed else .notSocket), closed.2)
    | some e =>
      if closed.1 then (.error .closeFailed, Function.update closed.2 e.descriptor none)
      else (.ok e, closed.2)

/-- The bridge, the descriptor table, the connections of the sockets, which descriptors belong to an
open connection, and how often `conn.Close` ran for each socket. -/
structure Process where
  bridge : State
  table : Table
  endpoint : ℕ → Option Endpoint
  adopted : ℕ → Bool
  closes : ℕ → ℕ

def initialProcess (table : Table) : Process where
  bridge := initial
  table := table
  endpoint := fun _ => none
  adopted := fun _ => false
  closes := fun _ => 0

inductive ProcessAction where
  | attach (i : ℕ) (fd : ℤ) (answers : Answers)
  | bridge (a : Action)
  | openFile (d file : ℕ)
  | closeFile (d : ℕ)
  deriving DecidableEq, Repr

/-- The socket whose `Close` a step of the bridge calls. -/
def closing (s : State) : Action → Option ℕ
  | .startTail i =>
    match s.start i with
    | .rejecting => some i
    | _ => none
  | .stopClose j =>
    match s.stop j with
    | .closing i _ => some i
    | _ => none
  | .pumpClose i =>
    match s.pump i with
    | .closing _ => some i
    | _ => none
  | _ => none

/-- `PacketSocket.Close`: `closeOnce` lets the first call through to `conn.Close`. -/
def Process.closeSocket (p : Process) (i : ℕ) : Process :=
  if p.bridge.closed i then p
  else
    match p.endpoint i with
    | some e => { p with
        table := Function.update p.table e.descriptor none
        adopted := Function.update p.adopted e.descriptor false
        closes := Function.update p.closes i (p.closes i + 1) }
    | none => p

/-- The calls of `Close` that a step of the bridge makes. -/
def Process.closeFor (p : Process) (a : Action) : Process :=
  match closing p.bridge a with
  | some i => p.closeSocket i
  | none => p

def processStep (p : Process) : ProcessAction → Option Process
  | .attach i fd answers =>
    match newPacketSocketFromFD p.table fd answers with
    | (.ok e, table) => (startOpen p.bridge i true).map fun bridge => { p with
        bridge := bridge
        table := table
        endpoint := Function.update p.endpoint i (some e)
        adopted := Function.update p.adopted e.descriptor true }
    | (.error _, table) => (startOpen p.bridge i false).map fun bridge => { p with
        bridge := bridge
        table := table }
  | .bridge (.startOpen _ _) => none
  | .bridge a => (step p.bridge a).map fun bridge => { p.closeFor a with bridge := bridge }
  | .openFile d file =>
    if p.table d = none then some { p with table := Function.update p.table d (some file) }
    else none
  | .closeFile d => some { p with table := Function.update p.table d none }

/-- `FoloXrayPacketBridgeStart` as call `i`, with no step of another party in between: the process
after it and the returned status. -/
def Process.start (p : Process) (i : ℕ) (fd : ℤ) (answers : Answers) : Option (Process × Status) :=
  (processStep p (.attach i fd answers)).bind fun p =>
    (processStep p (.bridge (.startLocked i))).bind fun p =>
      match p.bridge.start i with
      | .returned code => some (p, code)
      | _ =>
        (processStep p (.bridge (.startTail i))).bind fun p =>
          match p.bridge.start i with
          | .returned code => some (p, code)
          | _ => none

/-- The system lets an open descriptor be attached: a duplicate is free, the file is a socket, and
the original closes without an error. -/
def Attachable (t : Table) (answers : Answers) : Prop :=
  (∃ d, answers.duplicate = some d ∧ t d = none) ∧ answers.isSocket = true ∧
    answers.closeFails = false

/-- `packetBridge` refuses another bridge. -/
def Bridge.Occupied (b : Bridge) : Prop := b.socket.isSome = true ∨ b.state = .running

section Attach

variable {t : Table} {answers : Answers} {n file : ℕ}

theorem attach_negative (answers : Answers) {fd : ℤ} (h : fd < 0) :
    newPacketSocketFromFD t fd answers = (.error .invalid, t) := by
  simp [newPacketSocketFromFD, h]

/-- A descriptor that is not open is refused and nothing is closed. -/
theorem attach_unopened (answers : Answers) (h : t n = none) :
    ∃ e, newPacketSocketFromFD t n answers = (.error e, t) := by
  have hconn : fileConn t n answers = (none, t) := by simp [fileConn, h]
  exact ⟨_, by simp [newPacketSocketFromFD, hconn, closeFile, h]; rfl⟩

/-- `net.FileConn` on an open descriptor takes a free one, or leaves the table alone. -/
theorem fileConn_cases (answers : Answers) (h : t n = some file) :
    (∃ d, answers.duplicate = some d ∧ t d = none ∧ n ≠ d ∧ answers.isSocket = true ∧
      fileConn t n answers = (some ⟨d, file⟩, Function.update t d (some file))) ∨
    ¬ Attachable t answers ∧ fileConn t n answers = (none, t) := by
  cases hd : answers.duplicate with
  | none => exact .inr ⟨by simp [Attachable, hd], by simp [fileConn, h, hd]⟩
  | some d =>
    by_cases hok : t d = none ∧ answers.isSocket = true
    · have hne : n ≠ d := by
        rintro rfl
        rw [h] at hok
        cases hok.1
      exact .inl ⟨d, rfl, hok.1, hne, hok.2, by simp [fileConn, h, hd, hok]⟩
    · right
      constructor
      · rintro ⟨⟨d', hd', hfree⟩, hsocket, -⟩
        rw [hd] at hd'
        cases hd'
        exact hok ⟨hfree, hsocket⟩
      · simp [fileConn, h, hd, hok]

theorem attach_attachable (h : t n = some file) (ha : Attachable t answers) :
    ∃ d, t d = none ∧ n ≠ d ∧ newPacketSocketFromFD t n answers =
      (.ok ⟨d, file⟩, Function.update (Function.update t d (some file)) n none) := by
  rcases fileConn_cases answers h with ⟨d, -, hfree, hne, -, hconn⟩ | ⟨hnot, -⟩
  · refine ⟨d, hfree, hne, ?_⟩
    simp [newPacketSocketFromFD, hconn, closeFile, hne, h, ha.2.2]
  · exact absurd ha hnot

/-- An open descriptor that cannot be attached is closed all the same. -/
theorem attach_refused (h : t n = some file) (ha : ¬ Attachable t answers) :
    ∃ e, newPacketSocketFromFD t n answers = (.error e, Function.update t n none) := by
  rcases fileConn_cases answers h with ⟨d, hd, hfree, hne, hsocket, hconn⟩ | ⟨-, hconn⟩
  · have hclose : answers.closeFails = true := by
      by_contra hc
      exact ha ⟨⟨d, hd, hfree⟩, hsocket, by simpa using hc⟩
    have hrestored : Function.update (Function.update (Function.update t d (some file)) n none)
        d none = Function.update t n none := by
      rw [Function.update_comm hne.symm, Function.update_idem]
      apply Function.update_eq_self_iff.mpr
      rw [Function.update_of_ne hne.symm, hfree]
    exact ⟨.closeFailed, by
      simp [newPacketSocketFromFD, hconn, closeFile, hne, h, hclose, hrestored]⟩
  · exact ⟨if answers.closeFails then .notSocketCloseFailed else .notSocket, by
      simp [newPacketSocketFromFD, hconn, closeFile, h]⟩

/-- An attached descriptor was open; its file moves to a free descriptor. -/
theorem attach_ok {fd : ℤ} {e : Endpoint} {t' : Table}
    (h : newPacketSocketFromFD t fd answers = (.ok e, t')) :
    ∃ n : ℕ, fd = n ∧ t n = some e.file ∧ t e.descriptor = none ∧
      t' = Function.update (Function.update t e.descriptor (some e.file)) n none := by
  rcases lt_or_ge fd 0 with hneg | hpos
  · rw [attach_negative answers hneg] at h
    cases h
  · lift fd to ℕ using hpos
    refine ⟨fd, rfl, ?_⟩
    cases hn : t fd with
    | none =>
      rcases attach_unopened answers hn with ⟨e', he'⟩
      rw [he'] at h
      cases h
    | some file =>
      by_cases ha : Attachable t answers
      · rcases attach_attachable hn ha with ⟨d, hfree, -, hd⟩
        rw [hd] at h
        cases h
        exact ⟨rfl, hfree, rfl⟩
      · rcases attach_refused hn ha with ⟨e', hrefused⟩
        rw [hrefused] at h
        cases h

theorem attach_error {fd : ℤ} {e : AttachError} {t' : Table} {k : ℕ}
    (h : newPacketSocketFromFD t fd answers = (.error e, t')) (hk : fd ≠ k) : t' k = t k := by
  rcases lt_or_ge fd 0 with hneg | hpos
  · rw [attach_negative answers hneg] at h
    cases h
    rfl
  · lift fd to ℕ using hpos
    have hne : k ≠ fd := fun heq => hk (congrArg Nat.cast heq.symm)
    cases hn : t fd with
    | none =>
      rcases attach_unopened answers hn with ⟨e', he'⟩
      rw [he'] at h
      cases h
      rfl
    | some file =>
      by_cases ha : Attachable t answers
      · rcases attach_attachable hn ha with ⟨d, -, -, hd⟩
        rw [hd] at h
        cases h
      · rcases attach_refused hn ha with ⟨e', hrefused⟩
        rw [hrefused] at h
        cases h
        rw [Function.update_of_ne hne]

end Attach

section Start

variable {p : Process} {i : ℕ} {fd : ℤ} {answers : Answers} {t : Table}

theorem start_of_error {e : AttachError} (hi : p.bridge.start i = .ready)
    (h : newPacketSocketFromFD p.table fd answers = (.error e, t)) :
    ∃ q, p.start i fd answers = some (q, .invalidArgument) ∧ q.table = t := by
  refine ⟨{ p with
    table := t
    bridge := { p.bridge with
      bridge := { p.bridge.bridge with
        error := (setErrorLocked .invalidArgument "packet socket rejected").1 }
      start := Function.update p.bridge.start i (.returned .invalidArgument) } }, ?_, rfl⟩
  simp [Process.start, processStep, h, startOpen, hi, step, startLocked, Process.closeFor, closing]

theorem closeSocket_table {e : Endpoint} {n : ℕ} (he : p.endpoint i = some e)
    (hn : n ≠ e.descriptor) : (p.closeSocket i).table n = p.table n := by
  unfold Process.closeSocket
  split
  · rfl
  · simp [he, hn]

theorem start_of_occupied {e : Endpoint} (hi : p.bridge.start i = .ready)
    (hb : p.bridge.bridge.Occupied)
    (h : newPacketSocketFromFD p.table fd answers = (.ok e, t)) :
    ∃ q, p.start i fd answers = some (q, .invalidState) ∧
      ∀ n, n ≠ e.descriptor → q.table n = t n := by
  have hlocked : p.bridge.bridge.socket.isSome = true ∨ p.bridge.bridge.state = .running := hb
  have hstart : p.start i fd answers = some ({ Process.closeSocket { p with
      bridge := { p.bridge with start := Function.update p.bridge.start i .rejecting }
      table := t
      endpoint := Function.update p.endpoint i (some e)
      adopted := Function.update p.adopted e.descriptor true } i with
      bridge := { p.bridge with
        closed := Function.update p.bridge.closed i true
        start := Function.update p.bridge.start i (.returned .invalidState) } }, .invalidState) := by
    simp [Process.start, processStep, h, startOpen, hi, step, startLocked, startTail,
      Process.closeFor, closing, hlocked]
  refine ⟨_, hstart, ?_⟩
  intro n hn
  exact closeSocket_table (Function.update_self ..) hn

theorem start_of_free {e : Endpoint} (hi : p.bridge.start i = .ready)
    (hb : ¬ p.bridge.bridge.Occupied)
    (h : newPacketSocketFromFD p.table fd answers = (.ok e, t)) :
    ∃ q, p.start i fd answers = some (q, .ok) := by
  simp only [Bridge.Occupied, not_or] at hb
  simp [Process.start, processStep, h, startOpen, hi, step, startLocked, startTail,
    Process.closeFor, closing, hb]

end Start

end FoloXray.PacketBridge
