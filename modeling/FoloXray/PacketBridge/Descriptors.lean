import FoloXray.PacketBridge.CloseOnce

/-! # Descriptor ownership

The descriptor of a connection refers to the file that was adopted with it until the connection is
closed, as long as the rest of the process closes only what it owns, and every connection comes to
be closed.  A Start call that fails has closed the caller's descriptor all the same, unless the
number was no open descriptor.
-/

namespace FoloXray.PacketBridge
open Wrapper Foundation

/-- The callers and the rest of the process leave the descriptors of open connections alone. -/
def CallerOwned (p : Process) : ProcessAction → Prop
  | .attach _ fd _ => ∀ n : ℕ, fd = n → p.adopted n = false
  | .closeFile d => p.adopted d = false
  | _ => True

/-- The connection of an open socket has a descriptor of its own, and it refers to the file that
was adopted. -/
structure Backed (p : Process) : Prop where
  file : ∀ i e, p.endpoint i = some e → p.bridge.closed i = false →
    p.table e.descriptor = some e.file ∧ p.adopted e.descriptor = true
  sole : ∀ i k e f, p.endpoint i = some e → p.endpoint k = some f → p.bridge.closed i = false →
    p.bridge.closed k = false → e.descriptor = f.descriptor → i = k

theorem backed_initial (table : Table) : Backed (initialProcess table) := by
  constructor <;> simp [initialProcess]

/-- A step that keeps the connections, the sockets and the descriptors they use. -/
theorem Backed.keep {p q : Process} (hp : Backed p) (hend : q.endpoint = p.endpoint)
    (hadopted : q.adopted = p.adopted) (hclosed : q.bridge.closed = p.bridge.closed)
    (htable : ∀ d, p.adopted d = true → p.table d ≠ none → q.table d = p.table d) : Backed q := by
  constructor
  · intro i e he hc
    rw [hend] at he
    rw [hclosed] at hc
    rcases hp.file i e he hc with ⟨hfile, ha⟩
    rw [htable _ ha (by simp [hfile]), hadopted]
    exact ⟨hfile, ha⟩
  · rw [hend, hclosed]
    exact hp.sole

theorem Backed.attached {p : Process} {i : ℕ} {fd : ℤ} {answers : Answers} {e : Endpoint}
    {table : Table} {b : State} (hp : Backed p)
    (howned : ∀ n : ℕ, fd = n → p.adopted n = false)
    (hattach : newPacketSocketFromFD p.table fd answers = (.ok e, table))
    (hclosed : b.closed = p.bridge.closed) :
    Backed { p with
      bridge := b
      table := table
      endpoint := Function.update p.endpoint i (some e)
      adopted := Function.update p.adopted e.descriptor true } := by
  rcases attach_ok hattach with ⟨n, hn, hopen, hfree, rfl⟩
  have hunused (k : ℕ) (f : Endpoint) (hf : p.endpoint k = some f)
      (hc : p.bridge.closed k = false) : f.descriptor ≠ e.descriptor := by
    intro heq
    have := (hp.file k f hf hc).1
    rw [heq, hfree] at this
    cases this
  have hne : e.descriptor ≠ n := by
    rintro rfl
    rw [hfree] at hopen
    cases hopen
  constructor
  · intro k f hf hc
    simp only [hclosed] at hf hc ⊢
    by_cases hk : k = i
    · rw [hk, Function.update_self] at hf
      cases hf
      simp [hne]
    · rw [Function.update_of_ne hk] at hf
      rcases hp.file k f hf hc with ⟨hfile, ha⟩
      have hfn : f.descriptor ≠ n := by
        intro heq
        rw [heq, howned n hn] at ha
        cases ha
      simp [hfn, hunused k f hf hc, hfile, ha]
  · intro k l f g hf hg hck hcl heq
    simp only [hclosed] at hf hg hck hcl
    by_cases hk : k = i
    · by_cases hl : l = i
      · rw [hk, hl]
      · rw [hk, Function.update_self] at hf
        cases hf
        rw [Function.update_of_ne hl] at hg
        exact absurd heq.symm (hunused l g hg hcl)
    · rw [Function.update_of_ne hk] at hf
      by_cases hl : l = i
      · rw [hl, Function.update_self] at hg
        cases hg
        exact absurd heq (hunused k f hf hck)
      · rw [Function.update_of_ne hl] at hg
        exact hp.sole k l f g hf hg hck hcl heq

theorem Backed.close {p : Process} {i : ℕ} {b : State} (hp : Backed p)
    (hclosed : b.closed = Function.update p.bridge.closed i true) :
    Backed { p.closeSocket i with bridge := b } := by
  have hstill (k : ℕ) (hk : b.closed k = false) : k ≠ i ∧ p.bridge.closed k = false := by
    rw [hclosed] at hk
    by_cases hki : k = i
    · rw [hki, Function.update_self] at hk
      cases hk
    · rw [Function.update_of_ne hki] at hk
      exact ⟨hki, hk⟩
  have hend : (p.closeSocket i).endpoint = p.endpoint := by
    unfold Process.closeSocket
    split
    · rfl
    · split <;> rfl
  constructor
  · intro k f hf hc
    simp only [hend] at hf
    rcases hstill k hc with ⟨hki, hk⟩
    have hfile := hp.file k f hf hk
    unfold Process.closeSocket
    split
    · exact hfile
    · rename_i hopen
      split
      · rename_i e he
        have hne : f.descriptor ≠ e.descriptor := by
          intro heq
          exact hki (hp.sole k i f e hf he hk (by simpa using hopen) heq)
        simpa [hne] using hfile
      · exact hfile
  · intro k l f g hf hg hck hcl heq
    simp only [hend] at hf hg
    exact hp.sole k l f g hf hg (hstill k hck).2 (hstill l hcl).2 heq

theorem Backed.step {p q : Process} {a : ProcessAction} (hp : Backed p) (hw : Wired p.bridge)
    (ha : CallerOwned p a) (h : processStep p a = some q) : Backed q := by
  cases processStep_some h with
  | attached hattach hopen =>
    apply hp.attached ha hattach
    rcases startOpen_some hopen with ⟨-, rfl⟩
    rfl
  | refused hattach hopen =>
    rcases startOpen_some hopen with ⟨-, rfl⟩
    refine hp.keep rfl rfl rfl ?_
    intro d hd hopen
    apply attach_error hattach
    intro heq
    rw [ha d heq] at hd
    cases hd
  | @bridge a b hopen hstep =>
    unfold Process.closeFor
    cases hc : closing p.bridge a with
    | none => exact hp.keep rfl rfl (closing_none hc hstep) (fun _ _ _ => rfl)
    | some i => exact hp.close (closing_some hw hc hstep).2
  | openFile hfree =>
    refine hp.keep rfl rfl rfl ?_
    intro k hk hopen
    apply Function.update_of_ne
    rintro rfl
    exact hopen hfree
  | closeFile =>
    refine hp.keep rfl rfl rfl ?_
    intro k hk hopen
    apply Function.update_of_ne
    rintro rfl
    have hfree : p.adopted k = false := ha
    rw [hk] at hfree
    cases hfree

/-- Steps of the bridge alone take pump `i` past its `socket.Close`. -/
def CanClose (s : State) (i : ℕ) : Prop :=
  ∃ as t, (∀ a ∈ as, ∀ k accepted, a ≠ Action.startOpen k accepted) ∧
    run step s as = some t ∧ hasClosed (t.pump i) = true

theorem CanClose.head {s t : State} {i : ℕ} {a : Action}
    (ha : ∀ k accepted, a ≠ .startOpen k accepted) (h : step s a = some t) (ht : CanClose t i) :
    CanClose s i := by
  rcases ht with ⟨as, u, has, hrun, hu⟩
  refine ⟨a :: as, u, ?_, run_cons_eq_some.mpr ⟨t, h, hrun⟩, hu⟩
  intro b hb
  rcases List.mem_cons.mp hb with rfl | hb
  · exact ha
  · exact has b hb

theorem canClose_closing {s : State} {i : ℕ} {err : EchoError} (h : s.pump i = .closing err) :
    CanClose s i := by
  have hstep : step s (.pumpClose i) = some { setPump s i (.sending err) with
      closed := Function.update s.closed i true } := by simp [step, pumpClose, h]
  exact .head (by simp) hstep ⟨[], _, by simp, rfl, by simp [setPump, hasClosed]⟩

theorem canClose_reading {s : State} {i : ℕ} (h : s.pump i = .reading) : CanClose s i := by
  have hstep : step s (.pumpRead i none) = some (setPump s i (.closing .read)) := by
    simp [step, pumpRead, h]
  exact .head (by simp) hstep (canClose_closing (Function.update_self ..))

theorem canClose_select {s : State} {i : ℕ} (h : s.pump i = .select) : CanClose s i := by
  cases hc : s.cancelled i with
  | true =>
    have hstep : step s (.pumpSelect i) = some (setPump s i (.closing .canceled)) := by
      simp [step, pumpSelect, h, hc]
    exact .head (by simp) hstep (canClose_closing (Function.update_self ..))
  | false =>
    have hstep : step s (.pumpSelect i) = some (setPump s i .reading) := by
      simp [step, pumpSelect, h, hc]
    exact .head (by simp) hstep (canClose_reading (Function.update_self ..))

theorem canClose_writing {s : State} {i n : ℕ} (h : s.pump i = .writing n) : CanClose s i := by
  have hstep : step s (.pumpWrite i false) = some (setPump s i (.closing .write)) := by
    simp [step, pumpWrite, h]
  exact .head (by simp) hstep (canClose_closing (Function.update_self ..))

theorem canClose {s : State} {i : ℕ} (h : s.pump i ≠ .absent) : CanClose s i := by
  cases hp : s.pump i with
  | absent => exact absurd hp h
  | select => exact canClose_select hp
  | reading => exact canClose_reading hp
  | countIn n =>
    have hstep : step s (.pumpCountIn i) =
        some { setPump s i (.writing n) with bridge := s.bridge.countIn n } := by
      simp [step, pumpCountIn, hp]
    exact .head (by simp) hstep (canClose_writing (Function.update_self ..))
  | writing n => exact canClose_writing hp
  | countOut n =>
    have hstep : step s (.pumpCountOut i) =
        some { setPump s i .select with bridge := s.bridge.countOut n } := by
      simp [step, pumpCountOut, hp]
    exact .head (by simp) hstep (canClose_select (Function.update_self ..))
  | closing err => exact canClose_closing hp
  | sending err => exact ⟨[], s, by simp, rfl, by rw [hp]; rfl⟩
  | clearing err => exact ⟨[], s, by simp, rfl, by rw [hp]; rfl⟩
  | exited => exact ⟨[], s, by simp, rfl, by rw [hp]; rfl⟩

theorem bridge_run {p : Process} {as : List Action} {t : State}
    (has : ∀ a ∈ as, ∀ k accepted, a ≠ Action.startOpen k accepted)
    (h : run step p.bridge as = some t) :
    ∃ q, run processStep p (as.map .bridge) = some q ∧ q.bridge = t := by
  induction as generalizing p with
  | nil =>
    cases h
    exact ⟨p, rfl, rfl⟩
  | cons a as ih =>
    rcases run_cons_eq_some.mp h with ⟨s, hs, hrest⟩
    have hstep : processStep p (.bridge a) = some { p.closeFor a with bridge := s } := by
      have hopen := has a List.mem_cons_self
      unfold processStep
      split
      · cases ‹ProcessAction.bridge a = _›
      · cases ‹ProcessAction.bridge a = _›
        exact absurd rfl (hopen _ _)
      · cases ‹ProcessAction.bridge a = _›
        rw [hs]
        rfl
      · cases ‹ProcessAction.bridge a = _›
      · cases ‹ProcessAction.bridge a = _›
    rcases ih (p := { p.closeFor a with bridge := s })
      (fun b hb => has b (List.mem_cons_of_mem a hb)) hrest with ⟨q, hq, ht⟩
    exact ⟨q, run_cons_eq_some.mpr ⟨_, hstep, hq⟩, ht⟩

theorem closesOnce_of_run {table : Table} {p : Process} {as : List ProcessAction}
    (h : run processStep (initialProcess table) as = some p) : ClosesOnce p :=
  run_invariant (fun _ _ _ hp hs => hp.step hs) (closesOnce_initial table) h

theorem backed_of_run {table : Table} {p : Process} {as : List ProcessAction}
    (h : run processStep (initialProcess table) as = some p)
    (howned : Meets processStep CallerOwned (initialProcess table) as) : Backed p :=
  (run_invariant_of_meets (P := fun p => ClosesOnce p ∧ Backed p)
    (fun _ _ _ hp ha hs => ⟨hp.1.step hs, hp.2.step hp.1.wired ha hs⟩)
    ⟨closesOnce_initial table, backed_initial table⟩ howned h).2

theorem ClosesOnce.closes_le {p : Process} (hp : ClosesOnce p) (i : ℕ) : p.closes i ≤ 1 := by
  rw [hp.once]
  split <;> omega

theorem ClosesOnce.closes_of_hasClosed {p : Process} {i : ℕ} (hp : ClosesOnce p)
    (hi : hasClosed (p.bridge.pump i) = true) : p.closes i = 1 := by
  rw [hp.once, hp.left i hi]
  rfl

theorem ClosesOnce.can_close {p : Process} {i : ℕ} (hp : ClosesOnce p)
    (hi : p.bridge.start i = .returned .ok) :
    ∃ as q, run processStep p as = some q ∧ q.closes i = 1 := by
  rcases canClose ((hp.wired.spawned i).mpr hi) with ⟨as, t, has, hrun, ht⟩
  rcases bridge_run has hrun with ⟨q, hq, rfl⟩
  exact ⟨as.map .bridge, q, hq,
    (run_invariant (fun _ _ _ hp hs => ClosesOnce.step hp hs) hp hq).closes_of_hasClosed ht⟩

theorem start_keeps_descriptor_iff {p : Process} {i : ℕ} (hi : p.bridge.start i = .ready) (fd : ℤ)
    (answers : Answers) :
    ∃ q code, p.start i fd answers = some (q, code) ∧
      ((code ≠ .ok → ∀ n : ℕ, fd = n → q.table n = p.table n) ↔
        fd < 0 ∨ p.table fd.toNat = none ∨
          Attachable p.table answers ∧ ¬ p.bridge.bridge.Occupied) := by
  rcases lt_or_ge fd 0 with hneg | hpos
  · rcases start_of_error hi (attach_negative answers hneg) with ⟨q, hq, -⟩
    refine ⟨q, _, hq, ?_⟩
    constructor
    · exact fun _ => .inl hneg
    · intro _ _ n hn
      omega
  · lift fd to ℕ using hpos
    cases hn : p.table fd with
    | none =>
      rcases attach_unopened answers hn with ⟨e, he⟩
      rcases start_of_error hi he with ⟨q, hq, htable⟩
      refine ⟨q, _, hq, ?_⟩
      constructor
      · exact fun _ => .inr (.inl (by simpa using hn))
      · intro _ _ n _
        rw [htable]
    | some file =>
      by_cases ha : Attachable p.table answers
      · rcases attach_attachable hn ha with ⟨d, -, hne, hattach⟩
        by_cases hb : p.bridge.bridge.Occupied
        · rcases start_of_occupied hi hb hattach with ⟨q, hq, htable⟩
          refine ⟨q, _, hq, ?_⟩
          constructor
          · intro h
            have hlost := h (by simp) fd rfl
            rw [htable fd hne, Function.update_self, hn] at hlost
            cases hlost
          · rintro (h | h | h)
            · omega
            · simp [hn] at h
            · exact absurd hb h.2
        · rcases start_of_free hi hb hattach with ⟨q, hq⟩
          refine ⟨q, _, hq, ?_⟩
          constructor
          · exact fun _ => .inr (.inr ⟨ha, hb⟩)
          · intro _ hok
            exact absurd rfl hok
      · rcases attach_refused hn ha with ⟨e, hrefused⟩
        rcases start_of_error hi hrefused with ⟨q, hq, htable⟩
        refine ⟨q, _, hq, ?_⟩
        constructor
        · intro h
          have hlost := h (by simp) fd rfl
          rw [htable, Function.update_self, hn] at hlost
          cases hlost
        · rintro (h | h | h)
          · omega
          · simp [hn] at h
          · exact absurd h.1 ha

/-- Start and the caller's descriptor: a failed call leaves it alone exactly when there was nothing to
close or nothing could fail. After a call that returned OK the adopted connection is closed at most
once, has been closed once the pump is past its own `Close`, can always still be closed, and up to
that point its descriptor refers to the adopted file. -/
theorem packetBridge_descriptor_ownership (fd : ℤ) (answers : Answers) (table : Table) :
    (∀ (p : Process) (i : ℕ), p.bridge.start i = .ready →
      ∃ q code, p.start i fd answers = some (q, code) ∧
        ((code ≠ .ok → ∀ n : ℕ, fd = n → q.table n = p.table n) ↔
          fd < 0 ∨ p.table fd.toNat = none ∨
            Attachable p.table answers ∧ ¬ p.bridge.bridge.Occupied)) ∧
    (∀ (as : List ProcessAction) (p : Process) (i : ℕ),
      run processStep (initialProcess table) as = some p → p.bridge.start i = .returned .ok →
      p.closes i ≤ 1 ∧ (hasClosed (p.bridge.pump i) = true → p.closes i = 1) ∧
      (∃ bs q, run processStep p bs = some q ∧ q.closes i = 1) ∧
      ∃ e, p.endpoint i = some e ∧
        (Meets processStep CallerOwned (initialProcess table) as → p.closes i = 0 →
          p.table e.descriptor = some e.file)) := by
  constructor
  · exact fun p i hi => start_keeps_descriptor_iff hi fd answers
  · intro as p i hrun hi
    have hp := closesOnce_of_run hrun
    have hsome : (p.endpoint i).isSome = true := by
      rw [hp.attached, hi]
      rfl
    rcases Option.isSome_iff_exists.mp hsome with ⟨e, he⟩
    refine ⟨hp.closes_le i, hp.closes_of_hasClosed, hp.can_close hi, e, he, ?_⟩
    intro howned hzero
    have hopen : p.bridge.closed i = false := by
      by_contra hc
      rw [hp.once, if_pos (by simpa using hc)] at hzero
      cases hzero
    exact ((backed_of_run hrun howned).file i e he hopen).1

/-- Descriptor 3 is open on a socket, which is attached as descriptor 4; then the process uses 3 for a
file of its own. -/
def startedRun : List ProcessAction :=
  [.attach 0 3 ⟨some 4, true, false⟩, .bridge (.startLocked 0), .bridge (.startTail 0),
    .openFile 3 9, .closeFile 3, .bridge (.pumpSelect 0)]

def socketTable : Table := Function.update (fun _ => none) 3 (some 7)

def startedProcess : Process := (run processStep (initialProcess socketTable) startedRun).get (by decide)

theorem callerOwned_startedRun :
    Meets processStep CallerOwned (initialProcess socketTable) startedRun := by
  refine meets_cons ?_ rfl ?_
  · exact fun _ _ => rfl
  iterate 3 refine meets_cons trivial rfl ?_
  refine meets_cons ?_ rfl ?_
  · rfl
  refine meets_cons trivial rfl ?_
  trivial

theorem packetBridge_descriptor_ownership_started :
    startedProcess.bridge.start 0 = .returned .ok ∧ startedProcess.closes 0 ≤ 1 ∧
      ∃ e, startedProcess.endpoint 0 = some e ∧ startedProcess.table e.descriptor = some e.file := by
  have hrun : run processStep (initialProcess socketTable) startedRun = some startedProcess :=
    (Option.some_get (by decide)).symm
  have hok : startedProcess.bridge.start 0 = .returned .ok := by decide
  obtain ⟨hle, -, -, e, he, hfile⟩ :=
    (packetBridge_descriptor_ownership 3 ⟨some 4, true, false⟩ socketTable).2 startedRun _ 0 hrun hok
  exact ⟨hok, hle, e, he, hfile callerOwned_startedRun (by decide)⟩

/-- Descriptor 3 is open on a file that is no socket: Start fails and closes it. -/
theorem start_closes_refused_descriptor :
    ∃ q, (initialProcess (Function.update (fun _ => none) 3 (some 7))).start 0 3
        ⟨some 4, false, false⟩ = some (q, .invalidArgument) ∧
      (initialProcess (Function.update (fun _ => none) 3 (some 7))).table 3 = some 7 ∧
      q.table 3 = none := by
  refine ⟨_, rfl, rfl, ?_⟩
  decide

end FoloXray.PacketBridge
