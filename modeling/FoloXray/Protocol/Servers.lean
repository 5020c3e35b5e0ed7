import Mathlib.Data.List.Perm.Basic
import Mathlib.Data.List.Rotate
import FoloXray.Foundation.Runs

/-! # The servers of an outbound

`common/protocol`: an outbound takes its servers in turn from a list.  The configured server is there for
good; a response may name another one for some minutes, which is put into the list while connections are
being made, and taken out of it when it is met after its time.
-/

namespace FoloXray.Protocol

open Foundation

variable {δ : Type}

/-- A server and, unless it is always valid, the time before which it is. -/
structure ServerSpec (δ : Type) where
  dest : δ
  validUntil : Option ℕ
  deriving DecidableEq, Repr

def ServerSpec.isValid (server : ServerSpec δ) (now : ℕ) : Bool := server.validUntil.all (now < ·)

/-- The last server takes the place of the one that is removed. -/
def removeServer (servers : List (ServerSpec δ)) (idx : ℕ) : List (ServerSpec δ) :=
  match servers.getLast? with
  | none => []
  | some last => (servers.set idx last).dropLast

theorem length_removeServer (servers : List (ServerSpec δ)) (idx : ℕ) :
    (removeServer servers idx).length = servers.length - 1 := by
  unfold removeServer
  split
  · rename_i h
    rw [List.getLast?_eq_none_iff.mp h]
    rfl
  · rw [List.length_dropLast, List.length_set]

def getServerWithin (now idx : ℕ) :
    ℕ → List (ServerSpec δ) → Option (ServerSpec δ) × List (ServerSpec δ)
  | 0, servers => (none, servers)
  | rounds + 1, servers =>
    if h : idx < servers.length then
      if (servers.get ⟨idx, h⟩).isValid now then (some (servers.get ⟨idx, h⟩), servers)
      else getServerWithin now idx rounds (removeServer servers idx)
    else (none, servers)

/-- `GetServer` at a time: the server at the position, and the list that is left.  Each round but the last
one takes a server out. -/
def getServer (now idx : ℕ) (servers : List (ServerSpec δ)) : Option (ServerSpec δ) × List (ServerSpec δ) :=
  getServerWithin now idx servers.length servers

/-- Where a call of `PickServer` is: `time` is when the list was last asked. -/
inductive Picking (δ : Type) where
  | idle
  | looked (server : Option (ServerSpec δ)) (next time : ℕ)
  | found (server : Option (ServerSpec δ)) (time : ℕ)
  deriving DecidableEq, Repr

structure ServerState (δ : Type) where
  servers : List (ServerSpec δ)
  nextIndex : ℕ
  now : ℕ
  picking : Picking δ
  deriving DecidableEq, Repr

/-- The picker's lock admits one call of `PickServer` at a time; servers may be added between its looks
at the list. -/
inductive ServerAction (δ : Type) where
  | addServer (server : ServerSpec δ)
  | tick
  | getServer
  | getFirst
  | finish
  deriving DecidableEq, Repr

/-- The position behind the one that was taken, if there is one. -/
def advance (next size : ℕ) : ℕ := if size ≤ next + 1 then 0 else next + 1

def serverStep (s : ServerState δ) : ServerAction δ → Option (ServerState δ)
  | .addServer server => some { s with servers := s.servers ++ [server] }
  | .tick => some { s with now := s.now + 1 }
  | .getServer =>
    match s.picking with
    | .idle =>
      let r := getServer s.now s.nextIndex s.servers
      some { s with servers := r.2, picking := .looked r.1 s.nextIndex s.now }
    | _ => none
  | .getFirst =>
    match s.picking with
    | .looked none _ _ =>
      let r := getServer s.now 0 s.servers
      some { s with servers := r.2, picking := .found r.1 s.now }
    | _ => none
  | .finish =>
    match s.picking with
    | .looked (some _) next _ => some { s with nextIndex := advance next s.servers.length, picking := .idle }
    | .found _ _ => some { s with nextIndex := advance 0 s.servers.length, picking := .idle }
    | _ => none

/-- What there is to see of a run: the servers that are added, and those that are picked, with the time
when they were looked up. -/
inductive ServerEvent (δ : Type) where
  | added (server : ServerSpec δ)
  | picked (server : Option (ServerSpec δ)) (time : ℕ)
  deriving DecidableEq, Repr

def serverEvents (s : ServerState δ) : ServerAction δ → List (ServerEvent δ)
  | .addServer server => [.added server]
  | .finish =>
    match s.picking with
    | .looked server _ time => [.picked server time]
    | .found server time => [.picked server time]
    | .idle => []
  | .tick | .getServer | .getFirst => []

theorem removeServer_perm {servers : List (ServerSpec δ)} {idx : ℕ} (h : idx < servers.length) :
    (removeServer servers idx).Perm (servers.eraseIdx idx) := by
  obtain rfl | ⟨front, last, rfl⟩ := List.eq_nil_or_concat servers
  · cases h
  · rw [List.concat_eq_append] at h ⊢
    unfold removeServer
    rw [List.getLast?_concat]
    dsimp only
    by_cases hlt : idx < front.length
    · rw [List.set_append_left _ _ hlt, List.dropLast_concat, List.eraseIdx_append_of_lt_length hlt]
      exact (List.set_perm_cons_eraseIdx hlt last).trans (List.perm_append_singleton _ _).symm
    · have heq : idx = front.length := by
        rw [List.length_append, List.length_singleton] at h
        omega
      rw [heq, List.set_append_right _ _ le_rfl, List.eraseIdx_append_of_length_le le_rfl, Nat.sub_self]
      simp

/-- What `getServer` comes to: invalid servers are taken out of the list, no others, and the one that it
gives is valid and stands in the list at the position. -/
structure GetServerSpec (now idx : ℕ) (servers : List (ServerSpec δ))
    (r : Option (ServerSpec δ) × List (ServerSpec δ)) : Prop where
  kept : ∃ removed, servers.Perm (removed ++ r.2) ∧ ∀ x ∈ removed, x.isValid now = false
  none_found : r.1 = none → r.2.length ≤ idx
  some_found : ∀ x, r.1 = some x → x.isValid now = true ∧ r.2[idx]? = some x

theorem getServerWithin_spec (now idx : ℕ) {rounds : ℕ} {servers : List (ServerSpec δ)}
    (h : servers.length ≤ rounds) :
    GetServerSpec now idx servers (getServerWithin now idx rounds servers) := by
  induction rounds generalizing servers with
  | zero =>
    obtain rfl := List.length_eq_zero_iff.mp (Nat.le_zero.mp h)
    exact ⟨⟨[], .refl _, by simp⟩, fun _ => Nat.zero_le _, fun x hx => by cases hx⟩
  | succ rounds ih =>
    rw [getServerWithin]
    by_cases hidx : idx < servers.length
    · rw [dif_pos hidx]
      by_cases hvalid : (servers.get ⟨idx, hidx⟩).isValid now = true
      · rw [if_pos hvalid]
        refine ⟨⟨[], .refl _, by simp⟩, (fun hnone => by cases hnone), ?_⟩
        rintro x hx
        obtain rfl := Option.some.inj hx
        exact ⟨hvalid, List.getElem?_eq_getElem hidx⟩
      · rw [if_neg hvalid]
        have hfewer : (removeServer servers idx).length ≤ rounds := by
          rw [length_removeServer]
          omega
        obtain ⟨⟨removed, hperm, hremoved⟩, hnone, hsome⟩ := ih hfewer
        refine ⟨⟨servers.get ⟨idx, hidx⟩ :: removed, ?_, ?_⟩, hnone, hsome⟩
        · have hfront := (List.getElem_cons_eraseIdx_perm hidx).symm
          exact hfront.trans (((removeServer_perm hidx).symm.trans hperm).cons _)
        · exact List.forall_mem_cons.mpr ⟨Bool.eq_false_iff.mpr hvalid, hremoved⟩
    · rw [dif_neg hidx]
      exact ⟨⟨[], .refl _, by simp⟩, fun _ => not_lt.mp hidx, fun x hx => by cases hx⟩

theorem getServer_spec (now idx : ℕ) (servers : List (ServerSpec δ)) :
    GetServerSpec now idx servers (getServer now idx servers) :=
  getServerWithin_spec now idx le_rfl

theorem mem_getServer {now idx : ℕ} {servers : List (ServerSpec δ)} {x : ServerSpec δ} (hx : x ∈ servers)
    (hvalid : x.isValid now = true) : x ∈ (getServer now idx servers).2 := by
  obtain ⟨removed, hperm, hremoved⟩ := (getServer_spec now idx servers).kept
  obtain hmem | hmem := List.mem_append.mp (hperm.mem_iff.mp hx)
  · rw [hremoved x hmem] at hvalid
    cases hvalid
  · exact hmem

theorem mem_of_mem_getServer {now idx : ℕ} {servers : List (ServerSpec δ)} {x : ServerSpec δ}
    (hx : x ∈ (getServer now idx servers).2) : x ∈ servers := by
  obtain ⟨removed, hperm, -⟩ := (getServer_spec now idx servers).kept
  exact hperm.mem_iff.mpr (List.mem_append_right _ hx)

/-- The server has come into the list: it was there from the start, or it has been added. -/
def Known (initial : List (ServerSpec δ)) (events : List (ServerEvent δ)) (x : ServerSpec δ) : Prop :=
  x ∈ initial ∨ .added x ∈ events

/-- A server that was looked up is one of those, and was valid then. -/
def Good (initial : List (ServerSpec δ)) (events : List (ServerEvent δ)) (server : Option (ServerSpec δ))
    (time : ℕ) : Prop :=
  ∃ x, server = some x ∧ x.isValid time = true ∧ Known initial events x

/-- What holds throughout, for the server `c` that is always valid. -/
structure ServersInv (initial : List (ServerSpec δ)) (c : ServerSpec δ) (s : ServerState δ)
    (events : List (ServerEvent δ)) : Prop where
  stays : c ∈ s.servers
  known : ∀ x ∈ s.servers, Known initial events x
  looked : ∀ x next time, s.picking = .looked (some x) next time → Good initial events (some x) time
  found : ∀ server time, s.picking = .found server time → Good initial events server time
  picked : ∀ server time, .picked server time ∈ events → Good initial events server time

section Invariant

variable {initial : List (ServerSpec δ)} {c : ServerSpec δ} {s t : ServerState δ}
  {events more : List (ServerEvent δ)}

theorem Known.append {x : ServerSpec δ} (h : Known initial events x) : Known initial (events ++ more) x :=
  h.imp_right (List.mem_append_left more)

theorem Good.append {server : Option (ServerSpec δ)} {time : ℕ} (h : Good initial events server time) :
    Good initial (events ++ more) server time := by
  obtain ⟨x, hx, hvalid, hknown⟩ := h
  exact ⟨x, hx, hvalid, hknown.append⟩

/-- A look at the list gives a server that is good, or finds the position behind the end. -/
theorem good_getServer (hknown : ∀ x ∈ s.servers, Known initial events x) (idx : ℕ) {x : ServerSpec δ}
    (hx : (getServer s.now idx s.servers).1 = some x) : Good initial events (some x) s.now := by
  obtain ⟨hvalid, hat⟩ := (getServer_spec s.now idx s.servers).some_found x hx
  exact ⟨x, rfl, hvalid, hknown x (mem_of_mem_getServer (List.mem_of_getElem? hat))⟩

/-- At the first position a look gives a server, as long as one that is always valid is in the list. -/
theorem exists_getServer_zero {servers : List (ServerSpec δ)} {now : ℕ} (hc : c ∈ servers)
    (hvalid : c.isValid now = true) : ∃ x, (getServer now 0 servers).1 = some x := by
  have hmem : c ∈ (getServer now 0 servers).2 := mem_getServer hc hvalid
  cases hget : (getServer now 0 servers).1 with
  | none =>
    have hlength := (getServer_spec now 0 servers).none_found hget
    have hpos := List.length_pos_of_mem hmem
    omega
  | some x => exact ⟨x, rfl⟩

/-- The end of a call hands out a server that is good. -/
theorem ServersInv.finish (h : ServersInv initial c s events) {server : Option (ServerSpec δ)} {time next : ℕ}
    (hgood : Good initial events server time) :
    ServersInv initial c { s with nextIndex := next, picking := .idle }
      (events ++ [.picked server time]) where
  stays := h.stays
  known x hx := (h.known x hx).append
  looked x next time heq := by cases heq
  found server time heq := by cases heq
  picked server' time' hp := by
    obtain hp | hp := List.mem_append.mp hp
    · exact (h.picked server' time' hp).append
    · cases List.mem_singleton.mp hp
      exact hgood.append

theorem ServersInv.step (hc : ∀ now, c.isValid now = true) (h : ServersInv initial c s events)
    (a : ServerAction δ) (hstep : serverStep s a = some t) :
    ServersInv initial c t (events ++ serverEvents s a) := by
  cases a with
  | addServer server =>
    obtain rfl := Option.some.inj hstep
    refine ⟨List.mem_append_left _ h.stays, fun x hx => ?_,
      fun x next time hp => (h.looked x next time hp).append,
      fun server time hp => (h.found server time hp).append, fun server time hp => ?_⟩
    · obtain hx | hx := List.mem_append.mp hx
      · exact (h.known x hx).append
      · rw [List.mem_singleton.mp hx]
        exact .inr (List.mem_append_right _ (List.mem_singleton_self _))
    · obtain hp | hp := List.mem_append.mp hp
      · exact (h.picked server time hp).append
      · cases List.mem_singleton.mp hp
  | tick =>
    obtain rfl := Option.some.inj hstep
    rw [serverEvents, List.append_nil]
    exact ⟨h.stays, h.known, h.looked, h.found, h.picked⟩
  | getServer =>
    rw [serverStep] at hstep
    split at hstep
    · obtain rfl := Option.some.inj hstep
      rw [serverEvents, List.append_nil]
      refine ⟨mem_getServer h.stays (hc _), fun x hx => h.known x (mem_of_mem_getServer hx), ?_, ?_, h.picked⟩
      · intro x next time heq
        obtain ⟨hx, -, rfl⟩ := Picking.looked.inj heq
        exact good_getServer h.known _ hx
      · intro server time heq
        cases heq
    · cases hstep
  | getFirst =>
    rw [serverStep] at hstep
    split at hstep
    · obtain rfl := Option.some.inj hstep
      rw [serverEvents, List.append_nil]
      refine ⟨mem_getServer h.stays (hc _), fun x hx => h.known x (mem_of_mem_getServer hx), ?_, ?_, h.picked⟩
      · intro x next time heq
        cases heq
      · intro server time heq
        obtain ⟨rfl, rfl⟩ := Picking.found.inj heq
        obtain ⟨x, hx⟩ := exists_getServer_zero h.stays (hc s.now)
        rw [hx]
        exact good_getServer h.known 0 hx
    · cases hstep
  | finish =>
    rw [serverStep] at hstep
    split at hstep
    · rename_i x next time hp
      obtain rfl := Option.some.inj hstep
      rw [serverEvents, hp]
      exact h.finish (h.looked x next time hp)
    · rename_i server time hp
      obtain rfl := Option.some.inj hstep
      rw [serverEvents, hp]
      exact h.finish (h.found server time hp)
    · cases hstep

end Invariant

/-- In every run of calls that pick servers and of responses that add some, in whatever order they look at
the list: the server that is always valid stays in it, and every call hands out a server, one that was in
the list from the start or has been added, and that was valid when the list was asked. -/
theorem picked_servers_valid {initial : List (ServerSpec δ)} {c : ServerSpec δ} (hmem : c ∈ initial)
    (hc : c.validUntil = none) {nextIndex now : ℕ} {as : List (ServerAction δ)} {u : ServerState δ}
    (hrun : run serverStep ⟨initial, nextIndex, now, .idle⟩ as = some u) :
    c ∈ u.servers ∧ ∀ server time,
      .picked server time ∈ emits serverStep serverEvents ⟨initial, nextIndex, now, .idle⟩ as →
        ∃ x, server = some x ∧ x.isValid time = true ∧
          (x ∈ initial ∨
            .added x ∈ emits serverStep serverEvents ⟨initial, nextIndex, now, .idle⟩ as) := by
  have hvalid (now : ℕ) : c.isValid now = true := by rw [ServerSpec.isValid, hc]; rfl
  have hinit : ServersInv initial c ⟨initial, nextIndex, now, .idle⟩ [] := by
    refine ⟨hmem, fun x hx => .inl hx, ?_, ?_, ?_⟩
    · intro x next time heq
      cases heq
    · intro server time heq
      cases heq
    · intro server time hp
      cases hp
  have hinv := emits_invariant (P := ServersInv initial c) (f := serverEvents)
    (fun s l a t h hstep => h.step hvalid a hstep) hinit hrun
  rw [List.nil_append] at hinv
  exact ⟨hinv.stays, hinv.picked⟩

/-- A configured server, and one that is good for two ticks. -/
def switching : List (ServerAction ℕ) :=
  [.getServer, .addServer ⟨2, some 2⟩, .finish, .getServer, .tick, .finish, .tick, .getServer, .finish,
    .getServer, .getFirst, .finish]

theorem picked_servers_valid_switching :
    ∃ u, run serverStep ⟨[⟨1, none⟩], 0, 0, .idle⟩ switching = some u ∧ ⟨1, none⟩ ∈ u.servers ∧
      ∀ server time, .picked server time ∈
        emits serverStep serverEvents ⟨[⟨1, none⟩], 0, 0, .idle⟩ switching →
        ∃ x, server = some x ∧ x.isValid time = true ∧
          (x ∈ [⟨1, none⟩] ∨
            .added x ∈ emits serverStep serverEvents ⟨[⟨1, none⟩], 0, 0, .idle⟩ switching) := by
  have hrun : (run serverStep ⟨[⟨1, none⟩], 0, 0, .idle⟩ switching).isSome = true := by decide +kernel
  obtain ⟨u, hu⟩ := Option.isSome_iff_exists.mp hrun
  exact ⟨u, hu, picked_servers_valid (List.mem_singleton_self _) rfl hu⟩

def picks (events : List (ServerEvent δ)) : List (Option (ServerSpec δ)) :=
  events.filterMap fun
    | .picked server _ => some server
    | .added _ => none

theorem ServerSpec.isValid_of_le {x : ServerSpec δ} {now now' : ℕ} (h : x.isValid now' = true)
    (hle : now ≤ now') : x.isValid now = true := by
  unfold ServerSpec.isValid at h ⊢
  cases hu : x.validUntil with
  | none => rfl
  | some time =>
    rw [hu, Option.all_some, decide_eq_true_eq] at h
    rw [Option.all_some, decide_eq_true_eq]
    omega

theorem getServer_of_valid {now idx : ℕ} {servers : List (ServerSpec δ)} (hidx : idx < servers.length)
    (hall : ∀ x ∈ servers, x.isValid now = true) :
    getServer now idx servers = (servers[idx]?, servers) := by
  obtain ⟨n, hn⟩ : ∃ n, servers.length = n + 1 :=
    Nat.exists_eq_succ_of_ne_zero (Nat.ne_zero_of_lt hidx)
  rw [getServer, hn, getServerWithin, dif_pos hidx, if_pos (hall _ (List.get_mem _ _)),
    List.getElem?_eq_getElem hidx]
  rfl

theorem advance_mod {m n : ℕ} (hn : 0 < n) : advance (m % n) n = (m + 1) % n := by
  have hlt := Nat.mod_lt m hn
  have hnext := Nat.mod_add_mod m n 1
  unfold advance
  by_cases hlast : n ≤ m % n + 1
  · have heq : m % n + 1 = n := by omega
    rw [if_pos hlast, ← hnext, heq, Nat.mod_self]
  · rw [if_neg hlast, ← hnext, Nat.mod_eq_of_lt (not_le.mp hlast)]

def inTurn (servers : List (ServerSpec δ)) (i k : ℕ) : List (Option (ServerSpec δ)) :=
  (List.range k).map fun j => servers[(i + j) % servers.length]?

/-- What holds as long as no server is added or runs out. -/
structure TurnInv (servers : List (ServerSpec δ)) (i : ℕ) (s : ServerState δ)
    (events : List (ServerEvent δ)) :
    Prop where
  same : s.servers = servers
  idle : s.picking = .idle → ∃ k, s.nextIndex = (i + k) % servers.length ∧ picks events = inTurn servers i k
  looked : ∀ server next time, s.picking = .looked server next time →
    ∃ k, next = (i + k) % servers.length ∧ server = servers[next]? ∧ picks events = inTurn servers i k
  found : ∀ server time, s.picking ≠ .found server time

theorem TurnInv.step {servers : List (ServerSpec δ)} {i : ℕ} {s t : ServerState δ}
    {events : List (ServerEvent δ)} (hpos : 0 < servers.length)
    (hall : ∀ x ∈ servers, x.isValid s.now = true) (h : TurnInv servers i s events) (a : ServerAction δ)
    (ha : ∀ server, a ≠ .addServer server) (hstep : serverStep s a = some t) :
    TurnInv servers i t (events ++ serverEvents s a) := by
  cases a with
  | addServer server => exact absurd rfl (ha server)
  | tick =>
    obtain rfl := Option.some.inj hstep
    rw [serverEvents, List.append_nil]
    exact ⟨h.same, h.idle, h.looked, h.found⟩
  | getServer =>
    rw [serverStep] at hstep
    split at hstep
    · rename_i hp
      obtain ⟨k, hnext, hpicks⟩ := h.idle hp
      have hlt : s.nextIndex < servers.length := by
        rw [hnext]
        exact Nat.mod_lt _ hpos
      obtain rfl := Option.some.inj hstep
      rw [serverEvents, List.append_nil, h.same, getServer_of_valid hlt hall]
      refine ⟨rfl, (fun heq => by cases heq), ?_, (fun server time heq => by cases heq)⟩
      intro server next time heq
      obtain ⟨rfl, rfl, -⟩ := Picking.looked.inj heq
      exact ⟨k, hnext, rfl, hpicks⟩
    · cases hstep
  | getFirst =>
    rw [serverStep] at hstep
    split at hstep
    · rename_i next time hp
      obtain ⟨k, hnext, hserver, -⟩ := h.looked none next time hp
      have hlt : next < servers.length := by
        rw [hnext]
        exact Nat.mod_lt _ hpos
      rw [List.getElem?_eq_getElem hlt] at hserver
      cases hserver
    · cases hstep
  | finish =>
    rw [serverStep] at hstep
    split at hstep
    · rename_i x next time hp
      obtain ⟨k, hnext, hserver, hpicks⟩ := h.looked _ next time hp
      obtain rfl := Option.some.inj hstep
      rw [serverEvents, hp]
      refine ⟨h.same, fun _ => ⟨k + 1, ?_, ?_⟩, (fun _ _ _ heq => by cases heq),
        (fun _ _ heq => by cases heq)⟩
      · rw [h.same, hnext, advance_mod hpos, Nat.add_assoc]
      · have hmore : picks (events ++ [.picked (some x) time]) = picks events ++ [some x] := by
          simp only [picks, List.filterMap_append, List.filterMap_cons, List.filterMap_nil]
        rw [hmore, hpicks, inTurn, inTurn, List.range_succ, List.map_append,
          List.map_singleton, ← hnext, hserver]
    · rename_i server time hp
      exact absurd hp (h.found server time)
    · cases hstep

theorem now_le_of_step {s t : ServerState δ} {a : ServerAction δ} (hstep : serverStep s a = some t) :
    s.now ≤ t.now := by
  cases a <;> rw [serverStep] at hstep
  case addServer => exact (congrArg ServerState.now (Option.some.inj hstep)).le
  case tick => exact (Nat.le_succ _).trans (congrArg ServerState.now (Option.some.inj hstep)).le
  all_goals
    split at hstep <;> first
      | exact (congrArg ServerState.now (Option.some.inj hstep)).le
      | cases hstep

/-- No state of a run is later than its last one. -/
theorem meets_quiet {s u : ServerState δ} {as : List (ServerAction δ)}
    (has : ∀ a ∈ as, ∀ server, a ≠ .addServer server) (hrun : run serverStep s as = some u) :
    Meets serverStep (fun s a => (∀ server, a ≠ .addServer server) ∧ s.now ≤ u.now) s as := by
  induction as generalizing s with
  | nil => trivial
  | cons a as ih =>
    obtain ⟨ha, has⟩ := List.forall_mem_cons.mp has
    obtain ⟨t, hst, htu⟩ := run_cons_eq_some.mp hrun
    have hle : s.now ≤ u.now :=
      run_invariant (P := fun x => s.now ≤ x.now)
        (fun x b y hx hxy => hx.trans (now_le_of_step hxy)) le_rfl hrun
    exact meets_cons ⟨ha, hle⟩ hst (ih has htu)

/-- As long as no server is added and none runs out, the servers are picked in turn, from the one that is
next on, whatever happens in between. -/
theorem servers_in_turn {servers : List (ServerSpec δ)} {i now : ℕ} (hi : i < servers.length)
    {as : List (ServerAction δ)} (has : ∀ a ∈ as, ∀ server, a ≠ .addServer server) {u : ServerState δ}
    (hrun : run serverStep ⟨servers, i, now, .idle⟩ as = some u)
    (hall : ∀ x ∈ servers, x.isValid u.now = true) :
    u.servers = servers ∧ ∃ k, picks (emits serverStep serverEvents ⟨servers, i, now, .idle⟩ as) =
      (List.range k).map fun j => servers[(i + j) % servers.length]? := by
  have hpos : 0 < servers.length := Nat.zero_lt_of_lt hi
  have hinit : TurnInv servers i ⟨servers, i, now, .idle⟩ [] := by
    refine ⟨rfl, fun _ => ⟨0, (Nat.mod_eq_of_lt hi).symm, rfl⟩, ?_, ?_⟩
    · intro server next time heq
      cases heq
    · intro server time heq
      cases heq
  have hinv := emits_invariant_of_meets (P := TurnInv servers i) (f := serverEvents)
    (fun s l a t h hquiet hstep =>
      h.step hpos (fun x hx => ServerSpec.isValid_of_le (hall x hx) hquiet.2) a hquiet.1 hstep)
    hinit (meets_quiet has hrun) hrun
  rw [List.nil_append] at hinv
  refine ⟨hinv.same, ?_⟩
  cases hp : u.picking with
  | idle =>
    obtain ⟨k, -, hpicks⟩ := hinv.idle hp
    exact ⟨k, hpicks⟩
  | looked server next time =>
    obtain ⟨k, -, -, hpicks⟩ := hinv.looked server next time hp
    exact ⟨k, hpicks⟩
  | found server time => exact absurd hp (hinv.found server time)

theorem servers_in_turn_pair :
    ∃ u, run serverStep ⟨[⟨1, none⟩, ⟨2, some 5⟩], 1, 0, .idle⟩
        [.getServer, .finish, .tick, .getServer, .finish, .getServer, .finish] = some u ∧
      u.servers = [⟨1, none⟩, ⟨2, some 5⟩] ∧
      ∃ k, picks (emits serverStep serverEvents ⟨[⟨1, none⟩, ⟨2, some 5⟩], 1, 0, .idle⟩
        [.getServer, .finish, .tick, .getServer, .finish, .getServer, .finish]) =
          (List.range k).map fun j => ([⟨1, none⟩, ⟨2, some 5⟩] : List (ServerSpec ℕ))[(1 + j) % 2]? := by
  have hrun : run serverStep (⟨[⟨1, none⟩, ⟨2, some 5⟩], 1, 0, .idle⟩ : ServerState ℕ)
      [.getServer, .finish, .tick, .getServer, .finish, .getServer, .finish] =
        some ⟨[⟨1, none⟩, ⟨2, some 5⟩], 0, 1, .idle⟩ := by decide +kernel
  exact ⟨_, hrun, servers_in_turn (by decide) (by simp) hrun (by decide)⟩

end FoloXray.Protocol
