import FoloXray.Netstack.Handlers

/-! # Inversion of the handlers' steps

One relation lists what a step can do together with what it records of the traffic on the token
channels and in the work group.  The moves inside one invocation are a relation of their own.  The
life mutex is held as the program counters say, so that `startWork` counts no work once `close` has
set `closed`.
-/

namespace FoloXray.Netstack.Handlers
open Foundation Routing

inductive Event where
  | acquired (transport : Transport) (i : ℕ)
  | released (transport : Transport) (i : ℕ)
  | started (i : ℕ)
  | ended (i : ℕ)
  deriving DecidableEq, Repr

def events (s : State) : Action → List Event
  | .select i =>
    match s.points i with
    | .select transport _ =>
      if s.tokens transport < transport.limit then [.acquired transport i] else []
    | _ => []
  | .exec i =>
    match s.points i with
    | .exit transport (.release :: _) _ => [.released transport i]
    | _ => []
  | .workExec i =>
    match s.works i with
    | .deferred transport (.release :: _) => [.released transport i]
    | .deferred _ [] => [.ended i]
    | _ => []
  | .workAdd i =>
    match s.points i with
    | .workAdd _ => [.started i]
    | _ => []
  | _ => []

/-- The moves of an invocation that touch nothing it shares with others. -/
inductive Local : Point → Point → Prop
  | call {transport id} : Local .absent (.select transport id)
  | selectRefused {transport id} :
      Local (.select transport id) (.exit transport (selectRefused transport) false)
  | tcpCreated {id} : Local (.tcpEndpoint id) (.tcpAddress id)
  | tcpFailed {id} : Local (.tcpEndpoint id) (.exit .tcp (endpointFailed .tcp) false)
  | udpCreated {action} : Local (.udpEndpoint action) (.udpDial action)
  | udpFailed {action} : Local (.udpEndpoint action) (.exit .udp (endpointFailed .udp) false)
  | tcpBadAddress {id} : Local (.tcpAddress id) (.exit .tcp [.release, .closeInbound] false)
  | tcpAddress {id} : Local (.tcpAddress id) (.workLock .tcp)
  | udpBadAddress {id} : Local (.udpAddress id) (.exit .udp [.release] false)
  | udpAddress {id} : Local (.udpAddress id) .udpRoute
  | blocked : Local .udpRoute (.exit .udp [.release] true)
  | routed {action} : Local .udpRoute (.udpEndpoint action)
  | dialed {action} : Local (.udpDial action) (.workLock .udp)
  | dialFailed {action} : Local (.udpDial action) (.exit .udp [.release, .closeInbound] true)
  | workRefused {transport} : Local (.workCheck transport) (.workUnlock transport false)
  | exec {transport statement code answer} (hne : statement ≠ .release) :
      Local (.exit transport (statement :: code) answer) (.exit transport code answer)
  | finish {transport answer} : Local (.exit transport [] answer) (.returned transport answer)

inductive Transition (s : State) : State → List Event → Prop
  | plain {i q} (hq : Local (s.points i) q) : Transition s (s.setPoint i q) []
  | take {i transport id} (hi : s.points i = .select transport id)
      (hlt : s.tokens transport < transport.limit) :
      Transition s
        ({ s with tokens := Function.update s.tokens transport (s.tokens transport + 1) }.setPoint i
          (entry id transport)) [.acquired transport i]
  | give {i transport code answer} (hi : s.points i = .exit transport (.release :: code) answer) :
      Transition s
        ({ s with tokens := Function.update s.tokens transport (s.tokens transport - 1) }.setPoint i
          (.exit transport code answer)) [.released transport i]
  | workLock {i transport m} (hi : s.points i = .workLock transport)
      (hm : s.lifeMu.rLock i = some m) :
      Transition s ({ s with lifeMu := m }.setPoint i (.workCheck transport)) []
  | workCheck {i transport} (hi : s.points i = .workCheck transport) (hopen : s.closed = false) :
      Transition s (s.setPoint i (.workAdd transport)) []
  | workAdd {i transport} (hi : s.points i = .workAdd transport) :
      Transition s (({ s with work := s.work + 1 }.setWork i (.counted transport)).setPoint i
        (.workUnlock transport true)) [.started i]
  | workUnlock {i transport started} (hi : s.points i = .workUnlock transport started) :
      Transition s ({ s with lifeMu := s.lifeMu.rUnlock i }.setPoint i
        (if started then .workGo transport else .exit transport (workRefused transport) true)) []
  | workGo {i transport} (hi : s.points i = .workGo transport) :
      Transition s ((s.setWork i (.running transport)).setPoint i (.returned transport true)) []
  | proxyReturn {i transport} (hi : s.works i = .running transport) :
      Transition s (s.setWork i (.deferred transport (deferredCalls transport))) []
  | workExec {i transport statement code} (hi : s.works i = .deferred transport (statement :: code))
      (hne : statement ≠ .release) : Transition s (s.setWork i (.deferred transport code)) []
  | workGive {i transport code} (hi : s.works i = .deferred transport (.release :: code)) :
      Transition s
        ({ s with tokens := Function.update s.tokens transport (s.tokens transport - 1) }.setWork i
          (.deferred transport code)) [.released transport i]
  | workDone {i transport} (hi : s.works i = .deferred transport []) :
      Transition s ({ s with work := s.work - 1 }.setWork i .done) [.ended i]
  | readerLock {i m} (hm : s.lifeMu.rLock i = some m) :
      Transition s
        { s with lifeMu := m, outer := Function.update s.outer i (s.outer i + 1) } []
  | readerUnlock {i} (hi : s.outer i ≠ 0) :
      Transition s
        { s with
          lifeMu := s.lifeMu.rUnlock i
          outer := Function.update s.outer i (s.outer i - 1) } []
  | closeCall {m} (h : s.closer = .uncalled) (hm : s.lifeMu.request = some m) :
      Transition s { s with lifeMu := m, closer := .waiting } []
  | closeLock {m} (h : s.closer = .waiting) (hm : s.lifeMu.grant = some m) :
      Transition s { s with lifeMu := m, closer := .locked } []
  | closeSet (h : s.closer = .locked) :
      Transition s { s with closed := true, closer := .set } []
  | closeUnlock (h : s.closer = .set) :
      Transition s { s with lifeMu := s.lifeMu.unlock, closer := .unlocked } []
  | closeLink (h : s.closer = .unlocked) : Transition s { s with closer := .draining } []
  | closeWait (h : s.closer = .draining) (hwork : s.work = 0) :
      Transition s { s with closer := .finished } []

theorem execute_some {s t : State} {transport : Transport} {statement : Statement}
    (h : s.execute transport statement = some t) :
    statement = .release ∧
        t = { s with
          tokens := Function.update s.tokens transport (s.tokens transport - 1) } ∨
      statement ≠ .release ∧ t = s := by
  cases statement with
  | release =>
    simp only [State.execute, Option.ite_none_left_eq_some, Option.some.injEq] at h
    exact .inl ⟨rfl, h.2.symm⟩
  | complete reset => exact .inr ⟨by simp, (Option.some.inj h).symm⟩
  | closeInbound => exact .inr ⟨by simp, (Option.some.inj h).symm⟩
  | closeOutbound => exact .inr ⟨by simp, (Option.some.inj h).symm⟩

theorem transition_of_step {s t : State} {a : Action} (h : step s a = some t) :
    Transition s t (events s a) := by
  cases a with
  | call i transport id =>
    simp only [step, Option.ite_none_right_eq_some, Option.some.injEq] at h
    rcases h with ⟨hi, rfl⟩
    exact .plain (by rw [hi]; exact .call)
  | select i =>
    simp only [step] at h
    split at h
    · rename_i transport id hi
      split at h
      · rename_i hlt
        cases h
        simpa [events, hi, hlt] using Transition.take hi hlt
      · rename_i hlt
        cases h
        simp only [events, hi, hlt, if_false]
        exact .plain (by rw [hi]; exact .selectRefused)
    · cases h
  | endpoint i created =>
    simp only [step] at h
    split at h
    · rename_i id hi
      split at h <;> cases h
      · exact .plain (by rw [hi]; exact .tcpCreated)
      · exact .plain (by rw [hi]; exact .tcpFailed)
    · rename_i action hi
      split at h <;> cases h
      · exact .plain (by rw [hi]; exact .udpCreated)
      · exact .plain (by rw [hi]; exact .udpFailed)
    · cases h
  | address i =>
    simp only [step] at h
    split at h
    · rename_i id hi
      split at h <;> cases h
      · exact .plain (by rw [hi]; exact .tcpBadAddress)
      · exact .plain (by rw [hi]; exact .tcpAddress)
    · rename_i id hi
      split at h <;> cases h
      · exact .plain (by rw [hi]; exact .udpBadAddress)
      · exact .plain (by rw [hi]; exact .udpAddress)
    · cases h
  | route i action =>
    simp only [step] at h
    split at h
    · rename_i hi
      split at h <;> cases h
      · exact .plain (by rw [hi]; exact .blocked)
      · exact .plain (by rw [hi]; exact .routed)
    · cases h
  | dial i dialed =>
    simp only [step] at h
    split at h
    · rename_i action hi
      split at h <;> cases h
      · exact .plain (by rw [hi]; exact .dialed)
      · exact .plain (by rw [hi]; exact .dialFailed)
    · cases h
  | workLock i =>
    simp only [step] at h
    split at h
    · rename_i transport hi
      rcases Option.map_eq_some_iff.mp h with ⟨m, hm, rfl⟩
      exact .workLock hi hm
    · cases h
  | workCheck i =>
    simp only [step] at h
    split at h
    · rename_i transport hi
      split at h <;> cases h
      · exact .plain (by rw [hi]; exact .workRefused)
      · rename_i hclosed
        exact .workCheck hi (by simpa using hclosed)
    · cases h
  | workAdd i =>
    simp only [step] at h
    split at h
    · rename_i transport hi
      cases h
      simpa [events, hi] using Transition.workAdd hi
    · cases h
  | workUnlock i =>
    simp only [step] at h
    split at h
    · rename_i transport started hi
      cases h
      exact .workUnlock hi
    · cases h
  | workGo i =>
    simp only [step] at h
    split at h
    · rename_i transport hi
      cases h
      exact .workGo hi
    · cases h
  | exec i =>
    simp only [step] at h
    split at h
    · rename_i transport answer hi
      cases h
      simp only [events, hi]
      exact .plain (by rw [hi]; exact .finish)
    · rename_i transport statement code answer hi
      rcases Option.map_eq_some_iff.mp h with ⟨u, hu, rfl⟩
      rcases execute_some hu with ⟨rfl, rfl⟩ | ⟨hne, rfl⟩
      · simpa [events, hi] using Transition.give hi
      · have hevents : events u (.exec i) = [] := by
          cases statement <;> simp_all [events]
        rw [hevents]
        exact .plain (by rw [hi]; exact .exec hne)
    · cases h
  | proxyReturn i =>
    simp only [step] at h
    split at h
    · rename_i transport hi
      cases h
      exact .proxyReturn hi
    · cases h
  | workExec i =>
    simp only [step] at h
    split at h
    · rename_i transport hi
      simp only [Option.ite_none_left_eq_some, Option.some.injEq] at h
      rcases h with ⟨-, rfl⟩
      simpa [events, hi] using Transition.workDone hi
    · rename_i transport statement code hi
      rcases Option.map_eq_some_iff.mp h with ⟨u, hu, rfl⟩
      rcases execute_some hu with ⟨rfl, rfl⟩ | ⟨hne, rfl⟩
      · simpa [events, hi] using Transition.workGive hi
      · have hevents : events u (.workExec i) = [] := by
          cases statement <;> simp_all [events]
        rw [hevents]
        exact .workExec hi hne
    · cases h
  | readerLock i =>
    rcases Option.map_eq_some_iff.mp h with ⟨m, hm, rfl⟩
    exact .readerLock hm
  | readerUnlock i =>
    simp only [step, Option.ite_none_left_eq_some, Option.some.injEq] at h
    rcases h with ⟨hi, rfl⟩
    exact .readerUnlock hi
  | closeCall =>
    simp only [step, Option.ite_none_right_eq_some] at h
    rcases h with ⟨hcloser, h⟩
    rcases Option.map_eq_some_iff.mp h with ⟨m, hm, rfl⟩
    exact .closeCall hcloser hm
  | closeLock =>
    simp only [step, Option.ite_none_right_eq_some] at h
    rcases h with ⟨hcloser, h⟩
    rcases Option.map_eq_some_iff.mp h with ⟨m, hm, rfl⟩
    exact .closeLock hcloser hm
  | closeSet =>
    simp only [step, Option.ite_none_right_eq_some, Option.some.injEq] at h
    rcases h with ⟨hcloser, rfl⟩
    exact .closeSet hcloser
  | closeUnlock =>
    simp only [step, Option.ite_none_right_eq_some, Option.some.injEq] at h
    rcases h with ⟨hcloser, rfl⟩
    exact .closeUnlock hcloser
  | closeLink =>
    simp only [step, Option.ite_none_right_eq_some, Option.some.injEq] at h
    rcases h with ⟨hcloser, rfl⟩
    exact .closeLink hcloser
  | closeWait =>
    simp only [step, Option.ite_none_right_eq_some, Option.some.injEq] at h
    rcases h with ⟨⟨hcloser, hwork⟩, rfl⟩
    exact .closeWait hcloser hwork

def Point.readLocks : Point → ℕ
  | .workCheck _ | .workAdd _ | .workUnlock _ _ => 1
  | _ => 0

def Closer.writer : Closer → Writer
  | .waiting => .waiting
  | .locked | .set => .holding
  | .uncalled | .unlocked | .draining | .finished => .absent

def Closer.hasSet : Closer → Bool
  | .set | .unlocked | .draining | .finished => true
  | .uncalled | .waiting | .locked => false

/-- The mutex has the locks that the parties hold, `closed` is set by `close`, and an invocation that
is about to count its work has seen it unset and still can. -/
structure Locks (s : State) : Prop where
  held : s.lifeMu.Held (fun i => s.outer i + (s.points i).readLocks) s.closer.writer
  closed : s.closed = s.closer.hasSet
  admitted : ∀ i transport, s.points i = .workAdd transport → s.closed = false

theorem locks_initial : Locks initial := by
  refine ⟨⟨fun i => rfl, rfl⟩, rfl, ?_⟩
  intro i transport hi
  cases hi

theorem Local.readLocks {p q : Point} (h : Local p q) : q.readLocks = p.readLocks := by
  cases h <;> rfl

theorem Local.ne_workAdd {p q : Point} (h : Local p q) (transport : Transport) :
    q ≠ .workAdd transport := by
  cases h <;> simp

section Moves

variable {s t : State} {h l : List Event} {i : ℕ} {q : Point}

theorem points_update_readLocks {points : ℕ → Point} {outer : ℕ → ℕ} (j : ℕ) (hj : j ≠ i) :
    outer j + (Function.update points i q j).readLocks = outer j + (points j).readLocks := by
  rw [Function.update_of_ne hj]

theorem Locks.setPoint (hs : Locks s) (hq : q.readLocks = (s.points i).readLocks)
    (hadmitted : ∀ transport, q = .workAdd transport → s.closed = false) :
    Locks (s.setPoint i q) := by
  constructor
  · apply hs.held.congr
    intro j
    by_cases hji : j = i
    · subst hji
      simp [State.setPoint, hq]
    · simp [State.setPoint, hji]
  · exact hs.closed
  · intro j transport hj
    by_cases hji : j = i
    · subst hji
      exact hadmitted transport (by simpa [State.setPoint] using hj)
    · exact hs.admitted j transport (by simpa [State.setPoint, hji] using hj)

theorem Locks.congr (hs : Locks s) (hmu : t.lifeMu = s.lifeMu) (houter : t.outer = s.outer)
    (hpoints : t.points = s.points) (hclosed : t.closed = s.closed)
    (hwriter : t.closer.writer = s.closer.writer) (hset : t.closer.hasSet = s.closer.hasSet) :
    Locks t := by
  constructor
  · rw [hmu, houter, hpoints, hwriter]
    exact hs.held
  · rw [hclosed, hset]
    exact hs.closed
  · rw [hpoints, hclosed]
    exact hs.admitted

theorem Locks.step (hs : Locks s) (hst : Transition s t l) : Locks t := by
  cases hst with
  | plain hq => exact hs.setPoint hq.readLocks fun transport heq => absurd heq (hq.ne_workAdd transport)
  | @take i transport id hi hlt =>
    have hs' : Locks { s with
        tokens := Function.update s.tokens transport (s.tokens transport + 1) } :=
      hs.congr rfl rfl rfl rfl rfl rfl
    apply hs'.setPoint
    · rw [hi]
      cases transport <;> rfl
    · intro transport' heq
      cases transport <;> cases heq
  | @give i transport code answer hi =>
    have hs' : Locks { s with
        tokens := Function.update s.tokens transport (s.tokens transport - 1) } :=
      hs.congr rfl rfl rfl rfl rfl rfl
    apply hs'.setPoint
    · rw [hi]
      rfl
    · intro transport' heq
      cases heq
  | @workLock i transport m hi hm =>
    constructor
    · apply hs.held.rLock hm
      · simp [State.setPoint, hi, Point.readLocks]
      · exact points_update_readLocks
    · exact hs.closed
    · intro j transport' hj
      by_cases hji : j = i
      · subst hji
        simp [State.setPoint] at hj
      · exact hs.admitted j transport' (by simpa [State.setPoint, hji] using hj)
  | @workCheck i transport hi hopen =>
    exact hs.setPoint (by rw [hi]; rfl) fun _ _ => hopen
  | @workAdd i transport hi =>
    have hs' : Locks ({ s with work := s.work + 1 }.setWork i (.counted transport)) :=
      hs.congr rfl rfl rfl rfl rfl rfl
    apply hs'.setPoint
    · simp [State.setWork, hi, Point.readLocks]
    · intro transport' heq
      cases heq
  | @workUnlock i transport started hi =>
    constructor
    · apply hs.held.rUnlock
      · cases started <;> simp [State.setPoint, hi, Point.readLocks]
      · exact points_update_readLocks
    · exact hs.closed
    · intro j transport' hj
      by_cases hji : j = i
      · subst hji
        cases started <;> simp [State.setPoint] at hj
      · exact hs.admitted j transport' (by simpa [State.setPoint, hji] using hj)
  | @workGo i transport hi =>
    have hs' : Locks (s.setWork i (.running transport)) := hs.congr rfl rfl rfl rfl rfl rfl
    apply hs'.setPoint
    · simp [State.setWork, hi, Point.readLocks]
    · intro transport' heq
      cases heq
  | proxyReturn hi => exact hs.congr rfl rfl rfl rfl rfl rfl
  | workExec hi hne => exact hs.congr rfl rfl rfl rfl rfl rfl
  | workGive hi => exact hs.congr rfl rfl rfl rfl rfl rfl
  | workDone hi => exact hs.congr rfl rfl rfl rfl rfl rfl
  | @readerLock i m hm =>
    refine ⟨hs.held.rLock hm ?_ ?_, hs.closed, hs.admitted⟩
    · simp only [Function.update_self]
      omega
    · intro j hj
      simp only [Function.update_of_ne hj]
  | @readerUnlock i hi =>
    refine ⟨hs.held.rUnlock ?_ ?_, hs.closed, hs.admitted⟩
    · simp only [Function.update_self]
      omega
    · intro j hj
      simp only [Function.update_of_ne hj]
  | closeCall hcloser hm =>
    exact ⟨hs.held.request hm, hs.closed.trans (by rw [hcloser]; rfl), hs.admitted⟩
  | closeLock hcloser hm =>
    exact ⟨hs.held.grant hm, hs.closed.trans (by rw [hcloser]; rfl), hs.admitted⟩
  | closeSet hcloser =>
    have hheld := hs.held
    rw [hcloser] at hheld
    refine ⟨hheld, rfl, ?_⟩
    intro i transport hi
    have hzero := hheld.eq_zero i
    simp only [show s.points i = .workAdd transport from hi, Point.readLocks] at hzero
    omega
  | closeUnlock hcloser =>
    exact ⟨hs.held.unlock, hs.closed.trans (by rw [hcloser]; rfl), hs.admitted⟩
  | closeLink hcloser => exact hs.congr rfl rfl rfl rfl (by rw [hcloser]; rfl) (by rw [hcloser]; rfl)
  | closeWait hcloser hwork =>
    exact hs.congr rfl rfl rfl rfl (by rw [hcloser]; rfl) (by rw [hcloser]; rfl)

theorem Transition.closed (hst : Transition s t l) (hclosed : s.closed) : t.closed := by
  cases hst with
  | closeSet _ => rfl
  | _ => exact hclosed

theorem Locks.not_started (hs : Locks s) (hst : Transition s t l) (hclosed : s.closed) :
    .started i ∉ l := by
  cases hst with
  | workAdd hi =>
    rw [hs.admitted _ _ hi] at hclosed
    cases hclosed
  | _ => simp

theorem Locks.closed_of_finished (hs : Locks s) (hcloser : s.closer = .finished) : s.closed := by
  rw [hs.closed, hcloser]
  rfl

theorem Locks.waited (hs : Locks s) (hst : Transition s t l)
    (hwait : s.closer = .finished → s.work = 0) (hcloser : t.closer = .finished) : t.work = 0 := by
  cases hst with
  | workAdd hi =>
    have hclosed := hs.closed_of_finished hcloser
    rw [hs.admitted _ _ hi] at hclosed
    cases hclosed
  | workDone hi =>
    have hzero := hwait hcloser
    change s.work - 1 = 0
    omega
  | closeWait _ hwork => exact hwork
  | closeCall _ _ | closeLock _ _ | closeSet _ | closeUnlock _ | closeLink _ => cases hcloser
  | _ => exact hwait hcloser

end Moves

end FoloXray.Netstack.Handlers
