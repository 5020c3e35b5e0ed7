import FoloXray.Foundation.Tally
import FoloXray.Netstack.HandlerSteps

/-! # Flow admission

Every token that a handler takes is given back exactly once, by the handler or by the work it
started, on every path and under every interleaving, and `close` leaves no work behind.
-/

namespace FoloXray.Netstack.Handlers
open Foundation Routing

/-- The token channel that an invocation still has to receive from. -/
def Point.owed : Point → Option Transport
  | .tcpEndpoint _ | .tcpAddress _ => some .tcp
  | .udpAddress _ | .udpRoute | .udpEndpoint _ | .udpDial _ => some .udp
  | .workLock transport | .workCheck transport | .workAdd transport
  | .workUnlock transport false => some transport
  | .exit transport code _ => if .release ∈ code then some transport else none
  | .absent | .select _ _ | .workUnlock _ true | .workGo _ | .returned _ _ => none

/-- The token channel that the work still has to receive from. -/
def Work.owed : Work → Option Transport
  | .counted transport | .running transport => some transport
  | .deferred transport code => if .release ∈ code then some transport else none
  | .absent | .done => none

def Work.live : Work → Bool
  | .counted _ | .running _ | .deferred _ _ => true
  | .absent | .done => false

def Point.unserved : Point → Bool
  | .absent | .select _ _ => true
  | _ => false

/-- The work is past its launch and receives at most once from the token channel. -/
def Work.Fair : Work → Prop
  | .counted _ => False
  | .deferred _ code => code.count .release ≤ 1
  | .absent | .running _ | .done => True

/-- An invocation has no work before `startWork` counts it, its work waits to be launched until it
launches it, and it receives at most once from the token channel. -/
def Paired : Point → Work → Prop
  | .workUnlock transport true, work | .workGo transport, work => work = .counted transport
  | .exit _ code _, work => work = .absent ∧ code.count .release ≤ 1
  | .returned _ _, work => work.Fair
  | _, work => work = .absent

def State.Owes (s : State) (transport : Transport) (i : ℕ) : Prop :=
  (s.points i).owed = some transport ∨ (s.works i).owed = some transport

section Pairs

variable {s t : State} {h l : List Event} {i : ℕ} {p q : Point} {w : Work}

theorem Local.owed (hpq : Local p q) : q.owed = p.owed := by
  cases hpq with
  | @selectRefused transport id => cases transport <;> rfl
  | exec hne => simp [Point.owed, hne.symm]
  | _ => rfl

theorem Local.unserved (hpq : Local p q) (hq : q.unserved) : p.unserved := by
  cases hpq <;> first | rfl | cases hq

theorem Local.paired (hpq : Local p q) (hp : Paired p w) : Paired q w := by
  cases hpq with
  | @selectRefused transport id =>
    refine ⟨hp, ?_⟩
    cases transport <;> decide
  | tcpFailed | udpFailed | tcpBadAddress | udpBadAddress | blocked | dialFailed =>
    exact ⟨hp, by decide⟩
  | exec hne =>
    rcases hp with ⟨hw, hcount⟩
    rw [List.count_cons_of_ne hne] at hcount
    exact ⟨hw, hcount⟩
  | finish =>
    rcases hp with ⟨rfl, -⟩
    trivial
  | _ => exact hp

theorem paired_update {points : ℕ → Point} {works : ℕ → Work}
    (hs : ∀ j, Paired (points j) (works j)) (hi : Paired q w) (j : ℕ) :
    Paired (Function.update points i q j) (Function.update works i w j) := by
  by_cases hji : j = i
  · subst hji
    simpa using hi
  · simpa [hji] using hs j

/-- Work that has been launched belongs to an invocation that has returned. -/
theorem Paired.launched (hp : Paired p w) (habsent : w ≠ .absent)
    (hcounted : ∀ transport, w ≠ .counted transport) :
    (∃ transport answer, p = .returned transport answer) ∧ w.Fair := by
  cases p with
  | returned transport answer => exact ⟨⟨transport, answer, rfl⟩, hp⟩
  | workGo transport => exact absurd hp (hcounted transport)
  | workUnlock transport started =>
    cases started with
    | true => exact absurd hp (hcounted transport)
    | false => exact absurd hp habsent
  | exit transport code answer => exact absurd hp.1 habsent
  | _ => exact absurd hp habsent

/-- What a step does to the point and the work of one invocation. -/
structure Booked (s t : State) (i : ℕ) (q : Point) (w : Work) : Prop where
  points : t.points = Function.update s.points i q
  works : t.works = Function.update s.works i w
  paired : Paired q w
  unserved : q.unserved → (s.points i).unserved
  absent : w = .absent → s.works i = .absent

theorem Booked.point (hpoints : t.points = Function.update s.points i q)
    (hworks : t.works = s.works) (hq : Paired q (s.works i))
    (hunserved : q.unserved → (s.points i).unserved) : Booked s t i q (s.works i) := by
  refine ⟨hpoints, ?_, hq, hunserved, fun hw => hw⟩
  rw [hworks, Function.update_eq_self]

theorem Booked.work {transport : Transport} {answer : Bool} (hpoints : t.points = s.points)
    (hworks : t.works = Function.update s.works i w) (hi : s.points i = .returned transport answer)
    (hw : w.Fair) (habsent : w ≠ .absent) : Booked s t i (s.points i) w := by
  refine ⟨?_, hworks, ?_, fun hu => hu, fun heq => absurd heq habsent⟩
  · rw [hpoints, Function.update_eq_self]
  · rw [hi]
    exact hw

/-- What a step books: nothing, a token taken or given back, or work started or ended. -/
inductive Booking (s t : State) : List Event → Prop
  | keep {i : ℕ} {q : Point} {w : Work} (hb : Booked s t i q w) (htokens : t.tokens = s.tokens)
      (hwork : t.work = s.work)
      (howed : ∀ transport, q.owed = some transport ∨ w.owed = some transport ↔
        s.Owes transport i)
      (hlive : w.live = (s.works i).live) : Booking s t []
  | take {i : ℕ} {q : Point} {w : Work} {transport : Transport} (hb : Booked s t i q w)
      (htokens : t.tokens = Function.update s.tokens transport (s.tokens transport + 1))
      (hwork : t.work = s.work) (hlt : s.tokens transport < transport.limit)
      (hunserved : (s.points i).unserved) (hserved : q.unserved = false)
      (howed : ∀ transport', q.owed = some transport' ∨ w.owed = some transport' ↔
        transport' = transport ∨ s.Owes transport' i)
      (hlive : w.live = (s.works i).live) : Booking s t [.acquired transport i]
  | give {i : ℕ} {q : Point} {w : Work} {transport : Transport} (hb : Booked s t i q w)
      (htokens : t.tokens = Function.update s.tokens transport (s.tokens transport - 1))
      (hwork : t.work = s.work) (howes : s.Owes transport i)
      (howed : ∀ transport', q.owed = some transport' ∨ w.owed = some transport' ↔
        s.Owes transport' i ∧ transport' ≠ transport)
      (hlive : w.live = (s.works i).live) : Booking s t [.released transport i]
  | start {i : ℕ} {q : Point} {w : Work} (hb : Booked s t i q w) (htokens : t.tokens = s.tokens)
      (hwork : t.work = s.work + 1)
      (howed : ∀ transport, q.owed = some transport ∨ w.owed = some transport ↔
        s.Owes transport i)
      (habsent : s.works i = .absent) (hlive : w.live) : Booking s t [.started i]
  | finish {i : ℕ} {q : Point} {w : Work} (hb : Booked s t i q w) (htokens : t.tokens = s.tokens)
      (hwork : t.work = s.work - 1)
      (howed : ∀ transport, q.owed = some transport ∨ w.owed = some transport ↔
        s.Owes transport i)
      (hlive : (s.works i).live) (hdone : w.live = false) : Booking s t [.ended i]

theorem Booking.stay (hs : Paired (s.points 0) (s.works 0)) (hpoints : t.points = s.points)
    (hworks : t.works = s.works) (htokens : t.tokens = s.tokens) (hwork : t.work = s.work) :
    Booking s t [] := by
  have hb : Booked s t 0 (s.points 0) (s.works 0) := by
    constructor
    · rw [hpoints, Function.update_eq_self]
    · rw [hworks, Function.update_eq_self]
    · exact hs
    · exact fun hu => hu
    · exact fun hw => hw
  exact .keep hb htokens hwork (fun _ => Iff.rfl) rfl

theorem count_release_cons {code : List Statement} (hcount : (.release :: code).count .release ≤ 1) :
    .release ∉ code := by
  rw [List.count_cons_self] at hcount
  exact List.count_eq_zero.mp (by omega)

theorem Transition.booking (hst : Transition s t l) (hs : ∀ i, Paired (s.points i) (s.works i)) :
    Booking s t l := by
  cases hst with
  | @plain i q hq =>
    refine .keep (.point rfl rfl (hq.paired (hs i)) hq.unserved) rfl rfl ?_ rfl
    intro transport
    rw [hq.owed]
    rfl
  | @take i transport id hi hlt =>
    have hwork := hs i
    rw [hi] at hwork
    change s.works i = .absent at hwork
    have hpaired : Paired (entry id transport) (s.works i) := by cases transport <;> exact hwork
    have hserved : (entry id transport).unserved = false := by cases transport <;> rfl
    have hunserved : (s.points i).unserved := by rw [hi]; rfl
    refine .take (.point rfl rfl hpaired fun _ => hunserved) rfl rfl hlt hunserved hserved ?_ rfl
    intro transport'
    cases transport <;> simp [State.Owes, hi, hwork, entry, Point.owed, Work.owed, eq_comm]
  | @give i transport code answer hi =>
    have hpaired := hs i
    rw [hi] at hpaired
    rcases hpaired with ⟨hwork, hcount⟩
    have hnot := count_release_cons hcount
    have hpaired : Paired (.exit transport code answer) (s.works i) :=
      ⟨hwork, (List.count_eq_zero.mpr hnot).trans_le (Nat.zero_le 1)⟩
    refine .give (.point rfl rfl hpaired (by simp [Point.unserved])) rfl rfl ?_ ?_ rfl
    · exact .inl (by rw [hi]; simp [Point.owed])
    · intro transport'
      simp [State.Owes, hi, hwork, hnot, Point.owed, Work.owed, eq_comm]
  | @workLock i transport m hi hm =>
    have hpaired := hs i
    rw [hi] at hpaired
    refine .keep (.point (q := .workCheck transport) rfl rfl hpaired (by simp [Point.unserved]))
      rfl rfl ?_ rfl
    intro transport'
    rw [State.Owes, hi]
    rfl
  | @workCheck i transport hi hopen =>
    have hpaired := hs i
    rw [hi] at hpaired
    refine .keep (.point (q := .workAdd transport) rfl rfl hpaired (by simp [Point.unserved]))
      rfl rfl ?_ rfl
    intro transport'
    rw [State.Owes, hi]
    rfl
  | @workAdd i transport hi =>
    have hwork := hs i
    rw [hi] at hwork
    change s.works i = .absent at hwork
    refine .start (q := .workUnlock transport true) (w := .counted transport)
      ⟨rfl, rfl, rfl, by simp [Point.unserved], by simp⟩ rfl rfl ?_ hwork rfl
    intro transport'
    simp [State.Owes, hi, hwork, Point.owed, Work.owed]
  | @workUnlock i transport started hi =>
    have hpaired := hs i
    rw [hi] at hpaired
    cases started with
    | true =>
      refine .keep (.point (q := .workGo transport) rfl rfl hpaired (by simp [Point.unserved]))
        rfl rfl ?_ rfl
      intro transport'
      rw [State.Owes, hi]
      rfl
    | false =>
      have hrefused : Paired (.exit transport (workRefused transport) true) (s.works i) :=
        ⟨hpaired, by cases transport <;> decide⟩
      refine .keep (.point rfl rfl hrefused (by simp [Point.unserved])) rfl rfl ?_ rfl
      intro transport'
      rw [State.Owes, hi]
      cases transport <;> rfl
  | @workGo i transport hi =>
    have hwork := hs i
    rw [hi] at hwork
    change s.works i = .counted transport at hwork
    refine .keep (q := .returned transport true) (w := .running transport)
      ⟨rfl, rfl, trivial, by simp [Point.unserved], by simp⟩ rfl rfl ?_ (by rw [hwork]; rfl)
    intro transport'
    rw [State.Owes, hi, hwork]
    rfl
  | @proxyReturn i transport hi =>
    rcases (hs i).launched (by simp [hi]) (by simp [hi]) with ⟨⟨returned, answer, hpoint⟩, -⟩
    have hfair : Work.Fair (.deferred transport (deferredCalls transport)) := by
      cases transport <;> simp [Work.Fair, deferredCalls]
    refine .keep (.work rfl rfl hpoint hfair (by simp)) rfl rfl ?_ (by rw [hi]; rfl)
    intro transport'
    rw [State.Owes, hi]
    cases transport <;> rfl
  | @workExec i transport statement code hi hne =>
    rcases (hs i).launched (by simp [hi]) (by simp [hi]) with ⟨⟨returned, answer, hpoint⟩, hfair⟩
    rw [hi] at hfair
    have hfair : Work.Fair (.deferred transport code) :=
      (List.count_cons_of_ne hne).symm.trans_le hfair
    refine .keep (.work rfl rfl hpoint hfair (by simp)) rfl rfl ?_ (by rw [hi]; rfl)
    intro transport'
    simp [State.Owes, hi, Work.owed, hne.symm]
  | @workGive i transport code hi =>
    rcases (hs i).launched (by simp [hi]) (by simp [hi]) with ⟨⟨returned, answer, hpoint⟩, hfair⟩
    rw [hi] at hfair
    have hnot := count_release_cons hfair
    have hfair : Work.Fair (.deferred transport code) :=
      (List.count_eq_zero.mpr hnot).trans_le (Nat.zero_le 1)
    refine .give (.work rfl rfl hpoint hfair (by simp)) rfl rfl ?_ ?_ (by rw [hi]; rfl)
    · exact .inr (by rw [hi]; simp [Work.owed])
    · intro transport'
      simp [State.Owes, hi, hpoint, hnot, Point.owed, Work.owed, eq_comm]
  | @workDone i transport hi =>
    rcases (hs i).launched (by simp [hi]) (by simp [hi]) with ⟨⟨returned, answer, hpoint⟩, -⟩
    refine .finish (.work rfl rfl hpoint trivial (w := .done) (by simp)) rfl rfl ?_
      (by rw [hi]; rfl) rfl
    intro transport'
    simp [State.Owes, hi, Work.owed]
  | _ => exact .stay (hs 0) rfl rfl rfl rfl

end Pairs

def Event.token (transport : Transport) : Event → Option (Grant ℕ)
  | .acquired transport' i => if transport' = transport then some (.take i) else none
  | .released transport' i => if transport' = transport then some (.give i) else none
  | .started _ | .ended _ => none

def Event.group : Event → Option (Grant ℕ)
  | .started i => some (.take i)
  | .ended i => some (.give i)
  | .acquired _ _ | .released _ _ => none

/-- What the record of a run says about the token channels. -/
structure TokenBooks (s : State) (h : List Event) : Prop where
  tally : ∀ transport,
    Tally (s.tokens transport) (s.Owes transport) (h.filterMap (Event.token transport))
  bounded : ∀ transport, s.tokens transport ≤ transport.limit
  fresh : ∀ i transport, (s.points i).unserved → .take i ∉ h.filterMap (Event.token transport)

/-- What the record of a run says about the work group. -/
structure WorkBooks (s : State) (h : List Event) : Prop where
  tally : Tally s.work (fun i => (s.works i).live) (h.filterMap Event.group)
  fresh : ∀ i, s.works i = .absent → .take i ∉ h.filterMap Event.group

structure Accounts (s : State) (h : List Event) : Prop where
  locks : Locks s
  paired : ∀ i, Paired (s.points i) (s.works i)
  tokens : TokenBooks s h
  work : WorkBooks s h
  waited : s.closer = .finished → s.work = 0

theorem accounts_initial : Accounts initial [] := by
  refine ⟨locks_initial, fun i => rfl, ⟨?_, ?_, ?_⟩, ⟨?_, ?_⟩, fun _ => rfl⟩
  · exact fun transport => .empty (by simp [State.Owes, initial, Point.owed, Work.owed])
  · exact fun transport => Nat.zero_le _
  · simp
  · exact .empty (by simp [initial, Work.live])
  · simp

section Accounting

variable {s t : State} {h l : List Event} {i j : ℕ} {q : Point} {w : Work}
  {transport : Transport}

theorem Booked.paired_all (hb : Booked s t i q w) (hs : ∀ j, Paired (s.points j) (s.works j)) (j : ℕ) :
    Paired (t.points j) (t.works j) := by
  rw [hb.points, hb.works]
  exact paired_update hs hb.paired j

theorem Booked.owes_self (hb : Booked s t i q w) :
    t.Owes transport i ↔ q.owed = some transport ∨ w.owed = some transport := by
  simp [State.Owes, hb.points, hb.works]

theorem Booked.owes_other (hb : Booked s t i q w) (hj : j ≠ i) :
    t.Owes transport j ↔ s.Owes transport j := by
  simp [State.Owes, hb.points, hb.works, hj]

theorem Booked.live_other (hb : Booked s t i q w) (hj : j ≠ i) :
    (t.works j).live = (s.works j).live := by
  simp [hb.works, hj]

/-- A step that leaves what is owed alone keeps the books of the token channels. -/
theorem Booked.owes_iff (hb : Booked s t i q w)
    (howed : ∀ transport, q.owed = some transport ∨ w.owed = some transport ↔ s.Owes transport i)
    (j : ℕ) : t.Owes transport j ↔ s.Owes transport j := by
  by_cases hj : j = i
  · subst hj
    exact hb.owes_self.trans (howed transport)
  · exact hb.owes_other hj

theorem Booked.live_iff (hb : Booked s t i q w) (hlive : w.live = (s.works i).live) (j : ℕ) :
    (t.works j).live ↔ (s.works j).live := by
  by_cases hj : j = i
  · subst hj
    simp [hb.works, hlive]
  · rw [hb.live_other hj]

theorem Booked.unserved_of (hb : Booked s t i q w) (hj : (t.points j).unserved) :
    (s.points j).unserved := by
  by_cases hji : j = i
  · subst hji
    exact hb.unserved (by simpa [hb.points] using hj)
  · simpa [hb.points, hji] using hj

theorem Booked.absent_of (hb : Booked s t i q w) (hj : t.works j = .absent) :
    s.works j = .absent := by
  by_cases hji : j = i
  · subst hji
    exact hb.absent (by simpa [hb.works] using hj)
  · simpa [hb.works, hji] using hj

theorem tokens_update_le {tokens : Transport → ℕ} {n : ℕ}
    (hs : ∀ transport, tokens transport ≤ transport.limit) (hn : n ≤ transport.limit)
    (transport' : Transport) : Function.update tokens transport n transport' ≤ transport'.limit := by
  by_cases heq : transport' = transport
  · subst heq
    simpa using hn
  · simpa [heq] using hs transport'

theorem TokenBooks.keep (hs : TokenBooks s h) (hb : Booked s t i q w) (htokens : t.tokens = s.tokens)
    (howed : ∀ transport, q.owed = some transport ∨ w.owed = some transport ↔ s.Owes transport i)
    (hl : ∀ transport, l.filterMap (Event.token transport) = []) : TokenBooks t (h ++ l) := by
  constructor
  · intro transport
    rw [htokens, List.filterMap_append, hl, List.append_nil]
    exact (hs.tally transport).congr (hb.owes_iff howed)
  · rw [htokens]
    exact hs.bounded
  · intro j transport hj
    rw [List.filterMap_append, hl, List.append_nil]
    exact hs.fresh j transport (hb.unserved_of hj)

theorem WorkBooks.keep (hs : WorkBooks s h) (hb : Booked s t i q w) (hwork : t.work = s.work)
    (hlive : w.live = (s.works i).live) (hl : l.filterMap Event.group = []) :
    WorkBooks t (h ++ l) := by
  constructor
  · rw [hwork, List.filterMap_append, hl, List.append_nil]
    exact hs.tally.congr (hb.live_iff hlive)
  · intro j hj
    rw [List.filterMap_append, hl, List.append_nil]
    exact hs.fresh j (hb.absent_of hj)

theorem TokenBooks.take (hs : TokenBooks s h) (hb : Booked s t i q w)
    (htokens : t.tokens = Function.update s.tokens transport (s.tokens transport + 1))
    (hlt : s.tokens transport < transport.limit) (hunserved : (s.points i).unserved)
    (hserved : q.unserved = false)
    (howed : ∀ transport', q.owed = some transport' ∨ w.owed = some transport' ↔
      transport' = transport ∨ s.Owes transport' i) :
    TokenBooks t (h ++ [.acquired transport i]) := by
  constructor
  · intro transport'
    rw [htokens, List.filterMap_append]
    by_cases heq : transport' = transport
    · subst heq
      rw [Function.update_self]
      simp only [List.filterMap_cons, Event.token, if_true, List.filterMap_nil]
      apply (hs.tally transport').take (hs.fresh i transport' hunserved)
      intro j
      by_cases hj : j = i
      · subst hj
        simp [hb.owes_self, howed]
      · simp [hb.owes_other hj, hj]
    · rw [Function.update_of_ne heq]
      simp only [List.filterMap_cons, Event.token, if_neg (Ne.symm heq), List.filterMap_nil,
        List.append_nil]
      apply (hs.tally transport').congr
      intro j
      by_cases hj : j = i
      · subst hj
        simp [hb.owes_self, howed, heq]
      · exact hb.owes_other hj
  · rw [htokens]
    exact tokens_update_le hs.bounded hlt
  · intro j transport' hj
    have hji : j ≠ i := by
      rintro rfl
      simp [hb.points, hserved] at hj
    have hold := hs.fresh j transport' (hb.unserved_of hj)
    rw [List.filterMap_append, List.mem_append, not_or]
    refine ⟨hold, ?_⟩
    by_cases heq : transport = transport' <;> simp [Event.token, heq, hji]

theorem TokenBooks.give (hs : TokenBooks s h) (hb : Booked s t i q w)
    (htokens : t.tokens = Function.update s.tokens transport (s.tokens transport - 1))
    (howes : s.Owes transport i)
    (howed : ∀ transport', q.owed = some transport' ∨ w.owed = some transport' ↔
      s.Owes transport' i ∧ transport' ≠ transport) :
    TokenBooks t (h ++ [.released transport i]) := by
  constructor
  · intro transport'
    rw [htokens, List.filterMap_append]
    by_cases heq : transport' = transport
    · subst heq
      rw [Function.update_self]
      simp only [List.filterMap_cons, Event.token, if_true, List.filterMap_nil]
      apply (hs.tally transport').give howes
      intro j
      by_cases hj : j = i
      · subst hj
        simp [hb.owes_self, howed]
      · simp [hb.owes_other hj, hj]
    · rw [Function.update_of_ne heq]
      simp only [List.filterMap_cons, Event.token, if_neg (Ne.symm heq), List.filterMap_nil,
        List.append_nil]
      apply (hs.tally transport').congr
      intro j
      by_cases hj : j = i
      · subst hj
        simp [hb.owes_self, howed, heq]
      · exact hb.owes_other hj
  · rw [htokens]
    exact tokens_update_le hs.bounded ((Nat.sub_le _ 1).trans (hs.bounded transport))
  · intro j transport' hj
    have hold := hs.fresh j transport' (hb.unserved_of hj)
    rw [List.filterMap_append, List.mem_append, not_or]
    refine ⟨hold, ?_⟩
    by_cases heq : transport = transport' <;> simp [Event.token, heq]

theorem WorkBooks.start (hs : WorkBooks s h) (hb : Booked s t i q w) (hwork : t.work = s.work + 1)
    (habsent : s.works i = .absent) (hlive : w.live) : WorkBooks t (h ++ [.started i]) := by
  constructor
  · rw [hwork, List.filterMap_append]
    apply hs.tally.take (hs.fresh i habsent)
    intro j
    by_cases hj : j = i
    · subst hj
      simp [hb.works, hlive]
    · simp [hb.live_other hj, hj]
  · intro j hj
    have hji : j ≠ i := by
      rintro rfl
      rw [hb.works, Function.update_self] at hj
      rw [hj] at hlive
      cases hlive
    rw [List.filterMap_append, List.mem_append, not_or]
    exact ⟨hs.fresh j (hb.absent_of hj), by simp [Event.group, hji]⟩

theorem WorkBooks.finish (hs : WorkBooks s h) (hb : Booked s t i q w) (hwork : t.work = s.work - 1)
    (hlive : (s.works i).live) (hdone : w.live = false) : WorkBooks t (h ++ [.ended i]) := by
  constructor
  · rw [hwork, List.filterMap_append]
    apply hs.tally.give hlive
    intro j
    by_cases hj : j = i
    · subst hj
      simp [hb.works, hdone]
    · simp [hb.live_other hj, hj]
  · intro j hj
    rw [List.filterMap_append, List.mem_append, not_or]
    exact ⟨hs.fresh j (hb.absent_of hj), by simp [Event.group]⟩

theorem Booking.paired (hbooking : Booking s t l) (hs : ∀ i, Paired (s.points i) (s.works i)) :
    ∀ i, Paired (t.points i) (t.works i) := by
  cases hbooking with
  | keep hb _ _ _ _ | take hb _ _ _ _ _ _ _ | give hb _ _ _ _ _ | start hb _ _ _ _ _
  | finish hb _ _ _ _ _ => exact hb.paired_all hs

theorem Accounts.step (ha : Accounts s h) (hst : Transition s t l) : Accounts t (h ++ l) := by
  have hbooking := hst.booking ha.paired
  refine ⟨ha.locks.step hst, hbooking.paired ha.paired, ?_, ?_, ha.locks.waited hst ha.waited⟩
  · cases hbooking with
    | keep hb htokens _ howed _ => exact ha.tokens.keep hb htokens howed fun _ => rfl
    | take hb htokens _ hlt hunserved hserved howed _ =>
      exact ha.tokens.take hb htokens hlt hunserved hserved howed
    | give hb htokens _ howes howed _ => exact ha.tokens.give hb htokens howes howed
    | start hb htokens _ howed _ _ => exact ha.tokens.keep hb htokens howed fun _ => rfl
    | finish hb htokens _ howed _ _ => exact ha.tokens.keep hb htokens howed fun _ => rfl
  · cases hbooking with
    | keep hb _ hwork _ hlive => exact ha.work.keep hb hwork hlive rfl
    | take hb _ hwork _ _ _ _ hlive => exact ha.work.keep hb hwork hlive rfl
    | give hb _ hwork _ _ hlive => exact ha.work.keep hb hwork hlive rfl
    | start hb _ hwork _ habsent hlive => exact ha.work.start hb hwork habsent hlive
    | finish hb _ hwork _ hlive hdone => exact ha.work.finish hb hwork hlive hdone

theorem accounts_of_run {as : List Action} (hrun : run step initial as = some s) :
    Accounts s (emits step events initial as) := by
  have hinvariant := emits_invariant (f := events) (P := Accounts) (l := [])
    (fun s h a t ha hst => ha.step (transition_of_step hst)) accounts_initial hrun
  simpa using hinvariant

def tokenLog (transport : Transport) (as : List Action) : List (Grant ℕ) :=
  (emits step events initial as).filterMap (Event.token transport)

theorem execute_release (hpos : 0 < s.tokens transport) :
    (s.execute transport .release).isSome := by
  have hne : s.tokens transport ≠ 0 := by omega
  simp [State.execute, hne]

/-- A receive from a token channel that an invocation still owes does not block. -/
theorem exec_release_isSome (ha : Accounts s h) {code : List Statement} {answer : Bool}
    (hi : s.points i = .exit transport (.release :: code) answer) : (step s (.exec i)).isSome := by
  have howes : s.Owes transport i := .inl (by rw [hi]; simp [Point.owed])
  have hsome := execute_release ((ha.tokens.tally transport).pos howes)
  simpa [step, hi] using hsome

theorem workExec_release_isSome (ha : Accounts s h) {code : List Statement}
    (hi : s.works i = .deferred transport (.release :: code)) : (step s (.workExec i)).isSome := by
  have howes : s.Owes transport i := .inr (by rw [hi]; simp [Work.owed])
  have hsome := execute_release ((ha.tokens.tally transport).pos howes)
  simpa [step, hi] using hsome

/-- An invocation that is over, with its work, has given back what it took. -/
theorem Accounts.given_back (ha : Accounts s h) {returned : Transport} {answer : Bool}
    (hi : s.points i = .returned returned answer) (hw : s.works i = .absent ∨ s.works i = .done)
    (htake : .take i ∈ h.filterMap (Event.token transport)) :
    .give i ∈ h.filterMap (Event.token transport) := by
  apply (ha.tokens.tally transport).give_of_not_holds _ htake
  rcases hw with hw | hw <;> simp [State.Owes, hi, hw, Point.owed, Work.owed]

theorem WorkBooks.idle (hs : WorkBooks s h) (hwork : s.work = 0) (i : ℕ) :
    s.works i = .absent ∨ s.works i = .done := by
  have htally := hs.tally
  rw [hwork] at htally
  have hlive := htally.not_holds_of_zero i
  cases hi : s.works i with
  | absent => exact .inl rfl
  | done => exact .inr rfl
  | _ => simp [hi, Work.live] at hlive

theorem not_started_of_closed {bs : List Action} {u : State} (hs : Locks s) (hclosed : s.closed)
    (hrun : run step s bs = some u) (i : ℕ) : .started i ∉ emits step events s bs := by
  have hinvariant := emits_invariant (f := events)
    (P := fun s h => Locks s ∧ s.closed ∧ ∀ i, .started i ∉ h) (l := [])
    (fun s h a t ⟨hs, hclosed, hh⟩ hst =>
      ⟨hs.step (transition_of_step hst), (transition_of_step hst).closed hclosed, fun i => by
        rw [List.mem_append, not_or]
        exact ⟨hh i, hs.not_started (transition_of_step hst) hclosed⟩⟩)
    ⟨hs, hclosed, fun i => List.not_mem_nil⟩ hrun
  simpa using hinvariant.2.2 i

/-- Flow admission, in every reachable state.  The tokens in a channel are those of the invocations
and flows that took one and did not give it back, and never more than the limit; no token is given
back twice, and an invocation that is over, with its flow, has given its token back; a receive from
a token channel never blocks; once `closed` is set no flow is started, and once `Wait` has returned
none is left. -/
theorem flow_admission {as : List Action} (hrun : run step initial as = some s) :
    (∀ transport,
      {i | .take i ∈ tokenLog transport as ∧ .give i ∉ tokenLog transport as}.encard =
        s.tokens transport ∧
      s.tokens transport ≤ 48 ∧ (tokenLog transport as).Nodup ∧
      (∀ i, .give i ∈ tokenLog transport as → .take i ∈ tokenLog transport as) ∧
      ∀ i returned answer, s.points i = .returned returned answer →
        s.works i = .absent ∨ s.works i = .done → .take i ∈ tokenLog transport as →
        .give i ∈ tokenLog transport as) ∧
    (∀ i transport code answer, s.points i = .exit transport (.release :: code) answer →
      (step s (.exec i)).isSome) ∧
    (∀ i transport code, s.works i = .deferred transport (.release :: code) →
      (step s (.workExec i)).isSome) ∧
    (s.closed → ∀ bs u i, run step s bs = some u → .started i ∉ emits step events s bs) ∧
    (s.closer = .finished → ∀ i, s.works i = .absent ∨ s.works i = .done) := by
  have ha := accounts_of_run hrun
  refine ⟨?_, ?_, ?_, ?_, ?_⟩
  · intro transport
    have htally := ha.tokens.tally transport
    refine ⟨htally.encard_log, ?_, htally.nodup, htally.take_of_give, ?_⟩
    · have hbounded := ha.tokens.bounded transport
      cases transport <;> exact hbounded
    · exact fun i returned answer hi hw htake => ha.given_back hi hw htake
  · exact fun i transport code answer hi => exec_release_isSome ha hi
  · exact fun i transport code hi => workExec_release_isSome ha hi
  · exact fun hclosed bs u i hbs => not_started_of_closed ha.locks hclosed hbs i
  · exact fun hfinished i => ha.work.idle (ha.waited hfinished) i

end Accounting

/-- A TCP flow and a datagram whose route is blocked, before an orderly `close`. -/
def servedFlow : List Action :=
  [.call 0 .tcp ⟨[10, 0, 0, 1], 443⟩, .select 0, .call 1 .udp ⟨[10, 0, 0, 1], 53⟩, .select 1,
    .address 1, .route 1 .block, .exec 1, .exec 1, .endpoint 0 true, .address 0, .workLock 0,
    .workCheck 0, .workAdd 0, .workUnlock 0, .workGo 0, .closeCall, .closeLock, .closeSet,
    .closeUnlock, .closeLink, .proxyReturn 0, .workExec 0, .workExec 0, .closeWait]

theorem flow_admission_served :
    ∃ s, run step initial servedFlow = some s ∧ s.closer = .finished ∧
      tokenLog .tcp servedFlow = [.take 0, .give 0] ∧
      tokenLog .udp servedFlow = [.take 1, .give 1] ∧
      ∀ i, s.works i = .absent ∨ s.works i = .done := by
  have hclosed : (run step initial servedFlow).map State.closer = some .finished := by decide
  rcases Option.map_eq_some_iff.mp hclosed with ⟨s, hrun, hcloser⟩
  refine ⟨s, hrun, hcloser, by decide, by decide, ?_⟩
  exact (flow_admission hrun).2.2.2.2 hcloser

end FoloXray.Netstack.Handlers
