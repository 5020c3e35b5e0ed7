import FoloXray.Foundation.Address
import FoloXray.Foundation.Cuts

/-! # Host names

The text of a host: an IP literal, or an ASCII DNS name made of labels of letters, digits and
hyphens.  Such a text has no white space around it and no control character in it.
-/

namespace FoloXray.Foundation

def labelByte (c : UInt8) : Bool :=
  c == 0x2d || (0x61 ≤ c.toNat && c.toNat ≤ 0x7a) || (0x41 ≤ c.toNat && c.toNat ≤ 0x5a) ||
    (0x30 ≤ c.toNat && c.toNat ≤ 0x39)

structure DNSLabel (label : Bytes) : Prop where
  ne_nil : label ≠ []
  length_le : label.length ≤ 63
  head : label.head? ≠ some 0x2d
  last : label.getLast? ≠ some 0x2d
  bytes : ∀ c ∈ label, labelByte c = true

instance (label : Bytes) : Decidable (DNSLabel label) :=
  decidable_of_iff (label ≠ [] ∧ label.length ≤ 63 ∧ label.head? ≠ some 0x2d ∧
    label.getLast? ≠ some 0x2d ∧ label.all labelByte = true)
    ⟨fun ⟨h1, h2, h3, h4, h5⟩ => ⟨h1, h2, h3, h4, List.all_eq_true.mp h5⟩,
      fun ⟨h1, h2, h3, h4, h5⟩ => ⟨h1, h2, h3, h4, List.all_eq_true.mpr h5⟩⟩

structure DNSName (s : Bytes) : Prop where
  length_le : s.length ≤ 253
  labels : ∀ label ∈ s.splitOn dot, DNSLabel label

instance (s : Bytes) : Decidable (DNSName s) :=
  decidable_of_iff (s.length ≤ 253 ∧ ∀ label ∈ s.splitOn dot, DNSLabel label)
    ⟨fun ⟨h1, h2⟩ => ⟨h1, h2⟩, fun ⟨h1, h2⟩ => ⟨h1, h2⟩⟩

def HostText (s : Bytes) : Prop := parseIP s ≠ none ∨ DNSName s

instance (s : Bytes) : Decidable (HostText s) :=
  inferInstanceAs (Decidable (parseIP s ≠ none ∨ DNSName s))

theorem split_singleton (c : UInt8) (s : Bytes) : split [c] s = s.splitOn c := by
  induction hn : s.length using Nat.strongRecOn generalizing s with
  | ind n ih =>
    by_cases hc : c ∈ s
    · obtain ⟨w, z, rfl, hw⟩ := List.eq_append_cons_of_mem hc
      have hshort : z.length < n := by
        rw [← hn, List.length_append, List.length_cons]
        omega
      have hdrop : (w ++ c :: z).drop (w.length + [c].length) = z := by simp
      rw [split_some (List.cons_ne_nil c []) (index_singleton hw z), List.take_left, hdrop,
        ih _ hshort z rfl, List.splitOn_append_cons_self_of_not_mem hw]
    · rw [split_none (index_singleton_none hc), List.splitOn_eq_singleton hc]

theorem mem_splitOn {c d : UInt8} {s : Bytes} (h : d ∈ s) :
    d = c ∨ ∃ part ∈ s.splitOn c, d ∈ part := by
  induction hn : s.length using Nat.strongRecOn generalizing s with
  | ind n ih =>
    by_cases hc : c ∈ s
    · obtain ⟨w, z, rfl, hw⟩ := List.eq_append_cons_of_mem hc
      rw [List.splitOn_append_cons_self_of_not_mem hw]
      rcases List.mem_append.mp h with hfront | hrest
      · exact .inr ⟨w, List.mem_cons_self, hfront⟩
      · rcases List.mem_cons.mp hrest with rfl | htail
        · exact .inl rfl
        · have hshort : z.length < n := by
            rw [← hn, List.length_append, List.length_cons]
            omega
          rcases ih _ hshort htail rfl with heq | ⟨part, hpart, hmem⟩
          · exact .inl heq
          · exact .inr ⟨part, List.mem_cons_of_mem w hpart, hmem⟩
    · rw [List.splitOn_eq_singleton hc]
      exact .inr ⟨s, List.mem_cons_self, h⟩

/-- A byte that can stand in a DNS name or an IP literal. -/
def hostByte (c : UInt8) : Bool := labelByte c || c == dot || c == colon

theorem DNSName.bytes {s : Bytes} (h : DNSName s) {c : UInt8} (hc : c ∈ s) : hostByte c = true := by
  rcases mem_splitOn (c := dot) hc with rfl | ⟨label, hlabel, hmem⟩
  · rfl
  · simp [hostByte, (h.labels label hlabel).bytes c hmem]

theorem DNSName.ne_nil {s : Bytes} (h : DNSName s) : s ≠ [] := by
  rintro rfl
  exact (h.labels [] (by simp)).ne_nil rfl

theorem labelByte_of_decimalDigit {c : UInt8} {d : ℕ} (h : decimalDigit c = some d) :
    labelByte c = true := by
  unfold decimalDigit at h
  split at h
  · rename_i hdigit
    simp [labelByte, hdigit.1, hdigit.2]
  · cases h

theorem labelByte_of_hexDigit {c : UInt8} {d : ℕ} (h : hexDigit c = some d) :
    labelByte c = true := by
  unfold hexDigit at h
  simp only [labelByte, Bool.or_eq_true, Bool.and_eq_true, decide_eq_true_eq]
  split at h
  · exact .inr ‹_›
  · split at h
    · exact .inl (.inl (.inr (by omega)))
    · split at h
      · exact .inl (.inr (by omega))
      · cases h

/-- The digits of the current field of an IPv4 address: one that starts with zero has no other, and
its value is at most 255. -/
def FieldDigits (val digLen : ℕ) : Prop :=
  val ≤ 255 ∧ (digLen = 0 ∨ digLen = 1 ∨ digLen = 2 ∧ 10 ≤ val ∨ digLen = 3 ∧ 100 ≤ val)

theorem parseIPv4Fields_text {s fields ip : Bytes} {val digLen : ℕ}
    (h : parseIPv4Fields s val digLen fields = some ip) (hfield : FieldDigits val digLen)
    (hlen : fields.length ≤ 3) :
    (∀ c ∈ s, hostByte c = true) ∧ s.length + digLen + 4 * fields.length ≤ 15 := by
  unfold FieldDigits at hfield
  fun_induction parseIPv4Fields s val digLen fields with
  | case1 => cases h
  | case2 val digLen fields hok =>
    refine ⟨by simp, ?_⟩
    simp only [List.length_nil]
    omega
  | case5 val digLen fields c rest d hd hzero hsmall ih =>
    have hrest := ih h (by omega) hlen
    refine ⟨?_, ?_⟩
    · intro b hb
      rcases List.mem_cons.mp hb with rfl | hb
      · simp [hostByte, labelByte_of_decimalDigit hd]
      · exact hrest.1 b hb
    · rw [List.length_cons]
      omega
  | case7 rest val digLen fields hok hd ih =>
    have hmore : (fields ++ [UInt8.ofNat val]).length = fields.length + 1 := by simp
    have hrest := ih h (by omega) (by rw [hmore]; omega)
    rw [hmore] at hrest
    refine ⟨?_, ?_⟩
    · intro b hb
      rcases List.mem_cons.mp hb with rfl | hb
      · rfl
      · exact hrest.1 b hb
    · rw [List.length_cons]
      omega
  | _ => cases h

theorem parseIPv4_text {s ip : Bytes} (h : parseIPv4 s = some ip) :
    (∀ c ∈ s, hostByte c = true) ∧ s.length ≤ 15 := by
  have htext := parseIPv4Fields_text h ⟨Nat.zero_le 255, .inl rfl⟩ (Nat.zero_le 3)
  simpa using htext

theorem hexGroup_text {s rest : Bytes} {acc off acc' off' : ℕ}
    (h : hexGroup s acc off = some (acc', off', rest)) (hoff : off ≤ 4) :
    ∃ front, s = front ++ rest ∧ (∀ c ∈ front, hostByte c = true) ∧ front.length + off ≤ 4 := by
  induction s generalizing acc off with
  | nil =>
    cases h
    exact ⟨[], rfl, by simp, by simpa using hoff⟩
  | cons c s ih =>
    simp only [hexGroup] at h
    split at h
    · rename_i d hd
      split at h
      · cases h
      · obtain ⟨front, rfl, hfront, hlen⟩ := ih h (by omega)
        refine ⟨c :: front, rfl, ?_, by rw [List.length_cons]; omega⟩
        intro b hb
        rcases List.mem_cons.mp hb with rfl | hb
        · simp [hostByte, labelByte_of_hexDigit hd]
        · exact hfront b hb
    · cases h
      exact ⟨[], rfl, by simp, by simpa using hoff⟩

/-- What the loop over the groups has read: at most six bytes a group, and an IPv4 address at the
end. -/
theorem ipv6Groups_text {fuel : ℕ} {s ip ip' rest : Bytes} {ellipsis ellipsis' : Option ℕ}
    (h : ipv6Groups fuel s ip ellipsis = some (ip', ellipsis', rest)) (hrest : rest = []) :
    (∀ c ∈ s, hostByte c = true) ∧ s.length ≤ 6 * fuel + 15 := by
  subst hrest
  induction fuel generalizing s ip ellipsis with
  | zero =>
    cases h
    simp
  | succ fuel ih =>
    have hcolon : hostByte colon = true := rfl
    cases groupRound_of_ipv6Groups h with
    | embedded hroom hfields =>
      have htext := parseIPv4_text hfields
      exact ⟨htext.1, by omega⟩
    | last hgroup =>
      obtain ⟨front, rfl, hfront, hshort⟩ := hexGroup_text hgroup (Nat.zero_le 4)
      refine ⟨by simpa using hfront, ?_⟩
      rw [List.append_nil]
      omega
    | trailing hgroup =>
      obtain ⟨front, rfl, hfront, hshort⟩ := hexGroup_text hgroup (Nat.zero_le 4)
      refine ⟨by simpa [or_imp, forall_and, hcolon] using hfront, ?_⟩
      simp only [List.length_append, List.length_cons, List.length_nil]
      omega
    | next hseparator hgroup hmore =>
      obtain ⟨front, rfl, hfront, hshort⟩ := hexGroup_text hgroup (Nat.zero_le 4)
      have htext := ih hmore
      rcases hseparator with rfl | rfl
      · refine ⟨by simpa [or_imp, forall_and, hcolon] using ⟨hfront, htext.1⟩, ?_⟩
        simp only [List.length_append, List.length_cons, List.length_nil]
        omega
      · refine ⟨by simpa [or_imp, forall_and, hcolon] using ⟨hfront, htext.1⟩, ?_⟩
        simp only [List.length_append, List.length_cons, List.length_nil]
        omega

theorem parseIPv6_text {s ip : Bytes} (h : parseIPv6 s = some ip) :
    (∀ c ∈ s, hostByte c = true) ∧ s.length ≤ 65 := by
  have hcolon : hostByte colon = true := rfl
  dsimp only [parseIPv6] at h
  by_cases hleading : [colon, colon].isPrefixOf s = true
  · obtain ⟨t, rfl⟩ := List.isPrefixOf_iff_prefix.mp hleading
    rw [hleading] at h
    have htext : (∀ c ∈ t, hostByte c = true) ∧ t.length ≤ 63 := by
      split at h
      · rename_i hshort
        obtain rfl : t = [] := by simpa using hshort
        simp
      · simp only [Option.bind_eq_bind, Option.bind_eq_some_iff] at h
        obtain ⟨⟨ip', ellipsis, rest⟩, hgroups, h⟩ := h
        dsimp only at h
        split at h
        · cases h
        · exact ipv6Groups_text hgroups (not_not.mp ‹_›)
    refine ⟨?_, by simp only [List.length_append, List.length_cons, List.length_nil]; omega⟩
    simpa [hcolon] using htext.1
  · rw [if_neg (fun hand => hleading hand.1)] at h
    simp only [Option.bind_eq_bind, Option.bind_eq_some_iff] at h
    obtain ⟨⟨ip', ellipsis, rest⟩, hgroups, h⟩ := h
    dsimp only at h
    split at h
    · cases h
    · rw [if_neg hleading] at hgroups
      have htext := ipv6Groups_text hgroups (not_not.mp ‹_›)
      exact ⟨htext.1, by omega⟩

theorem parseIP_text {s : Bytes} (h : parseIP s ≠ none) :
    (∀ c ∈ s, hostByte c = true) ∧ s.length ≤ 253 := by
  obtain ⟨ip, hip⟩ := Option.ne_none_iff_exists'.mp h
  obtain ⟨addr, haddr, -⟩ := Option.map_eq_some_iff.mp hip
  unfold parseAddr at haddr
  split at haddr
  · cases haddr
  · split at haddr
    · obtain ⟨fields, hfields, -⟩ := Option.map_eq_some_iff.mp haddr
      have htext := parseIPv4_text hfields
      exact ⟨htext.1, by omega⟩
    · split at haddr
      · split at haddr
        · cases haddr
        · obtain ⟨bytes, hbytes, -⟩ := Option.map_eq_some_iff.mp haddr
          have htext := parseIPv6_text hbytes
          exact ⟨htext.1, by omega⟩
      · cases haddr

theorem parseIP_start {s : Bytes} (h : parseIP s ≠ none) (hcolon : colon ∉ s) :
    ∃ c rest d, s = c :: rest ∧ decimalDigit c = some d := by
  obtain ⟨ip, hip⟩ := Option.ne_none_iff_exists'.mp h
  obtain ⟨addr, haddr, -⟩ := Option.map_eq_some_iff.mp hip
  unfold parseAddr at haddr
  split at haddr
  · cases haddr
  · rename_i c hc
    split at haddr
    · obtain ⟨fields, hfields, -⟩ := Option.map_eq_some_iff.mp haddr
      cases s with
      | nil => simp [parseIPv4, parseIPv4Fields] at hfields
      | cons c rest =>
        cases hdigit : decimalDigit c with
        | some d => exact ⟨c, rest, d, rfl, hdigit⟩
        | none => simp [parseIPv4, parseIPv4Fields, hdigit] at hfields
    · split at haddr
      · rename_i hc'
        rw [hc'] at hc
        exact absurd (List.mem_of_find?_eq_some hc) hcolon
      · cases haddr

theorem solid_of_hostByte {c : UInt8} (h : hostByte c = true) : solid c := by
  have hspace : (whiteSpace.all fun u => u.all fun b => !hostByte b) = true := by decide +kernel
  intro u hu hc
  have hnone := List.all_eq_true.mp (List.all_eq_true.mp hspace u hu) c hc
  rw [h] at hnone
  cases hnone

theorem trimLeft_of_solid {units : List Bytes} (hunits : ∀ u ∈ units, u ≠ []) {s : Bytes}
    (h : ∀ c ∈ s, ∀ u ∈ units, c ∉ u) (fuel : ℕ) : trimLeft units fuel s = s := by
  have hnone : units.find? (·.isPrefixOf s) = none := by
    rw [List.find?_eq_none]
    intro u hu hprefix
    obtain ⟨b, rest, rfl⟩ := List.exists_cons_of_ne_nil (hunits u hu)
    have hb : b ∈ s := (List.isPrefixOf_iff_prefix.mp hprefix).subset List.mem_cons_self
    exact h b hb _ hu List.mem_cons_self
  cases fuel with
  | zero => rfl
  | succ fuel => simp [trimLeft, hnone]

theorem trimSpace_of_solid {s : Bytes} (h : ∀ c ∈ s, solid c) : trimSpace s = s := by
  have hfront : trimLeft whiteSpace s.length s = s :=
    trimLeft_of_solid whiteSpace_ne_nil (fun c hc => h c hc) _
  have hback : trimLeft (whiteSpace.map List.reverse) s.length s.reverse = s.reverse := by
    apply trimLeft_of_solid
    · intro u hu
      obtain ⟨v, hv, rfl⟩ := List.mem_map.mp hu
      simpa using whiteSpace_ne_nil v hv
    · intro c hc u hu
      obtain ⟨v, hv, rfl⟩ := List.mem_map.mp hu
      rw [List.mem_reverse] at hc ⊢
      exact h c hc v hv
  simp only [trimSpace, hfront, hback, List.reverse_reverse]

theorem decodeRunes_ascii {s : Bytes} (h : ∀ c ∈ s, c.toNat < 0x80) :
    decodeRunes s = s.map UInt8.toNat := by
  induction s with
  | nil => rfl
  | cons c s ih =>
    have hc := h c List.mem_cons_self
    rw [decodeRunes_cons, decodeRune_ascii hc, List.drop_one, List.tail_cons,
      ih fun d hd => h d (List.mem_cons_of_mem c hd), List.map_cons]

/-- A string with ASCII code points only has ASCII bytes only. -/
theorem ascii_of_decodeRunes {s : Bytes} (h : ∀ r ∈ decodeRunes s, r < 0x80) :
    ∀ c ∈ s, c.toNat < 0x80 := by
  induction s with
  | nil => simp
  | cons c s ih =>
    have hc : c.toNat < 0x80 := by
      by_contra hc
      have hle := decodeRune_of_le (not_lt.mp hc) s
      have hlt := h (decodeRune (c :: s)).1 (by rw [decodeRunes_cons]; exact List.mem_cons_self)
      omega
    rw [decodeRunes_cons, decodeRune_ascii hc, List.drop_one, List.tail_cons] at h
    intro d hd
    rcases List.mem_cons.mp hd with rfl | hd
    · exact hc
    · exact ih (fun r hr => h r (List.mem_cons_of_mem _ hr)) d hd

theorem toLower_ascii {s : Bytes} (h : ∀ c ∈ s, c.toNat < 0x80) : toLower s = s.map lowerByte := by
  induction s with
  | nil => rfl
  | cons c s ih =>
    rw [toLower_cons (h c List.mem_cons_self), ih fun d hd => h d (List.mem_cons_of_mem c hd),
      List.map_cons]

theorem splitOn_map {f : UInt8 → UInt8} {c : UInt8} {s : Bytes} (h : ∀ d ∈ s, f d = c ↔ d = c) :
    (s.map f).splitOn c = (s.splitOn c).map (List.map f) := by
  induction s with
  | nil => simp
  | cons d s ih =>
    have hrest := ih fun e he => h e (List.mem_cons_of_mem d he)
    have hsame : (f d == c) = (d == c) := by
      rw [Bool.eq_iff_iff, beq_iff_eq, beq_iff_eq]
      exact h d List.mem_cons_self
    unfold List.splitOn at hrest ⊢
    rw [List.map_cons, List.splitOnP_cons_eq_if_modifyHead, List.splitOnP_cons_eq_if_modifyHead, hrest,
      hsame]
    split
    · rfl
    · cases List.splitOnP (· == c) s <;> rfl

theorem lowerByte_toNat {c : UInt8} (hc : c.toNat < 0x80) :
    (lowerByte c).toNat = if 0x41 ≤ c.toNat ∧ c.toNat ≤ 0x5a then c.toNat + 0x20 else c.toNat := by
  have hlower := lowerRune_ascii hc
  rw [lowerByte, UInt8.toNat_ofNat', Nat.mod_eq_of_lt (by omega), lowerRune, if_pos hc]

theorem lowerByte_eq_iff {c d : UInt8} (hc : c.toNat < 0x80) (hd : d.toNat < 0x41) :
    lowerByte c = d ↔ c = d := by
  rw [← UInt8.toNat_inj, ← UInt8.toNat_inj, lowerByte_toNat hc]
  split
  · omega
  · rfl

theorem ascii_of_labelByte {c : UInt8} (h : labelByte c = true) : c.toNat < 0x80 := by
  simp only [labelByte, Bool.or_eq_true, Bool.and_eq_true, beq_iff_eq, decide_eq_true_eq] at h
  rcases h with ((rfl | h) | h) | h
  · decide
  · omega
  · omega
  · omega

theorem labelByte_lowerByte {c : UInt8} (h : labelByte c = true) : labelByte (lowerByte c) = true := by
  have hc := ascii_of_labelByte h
  by_cases hupper : 0x41 ≤ c.toNat ∧ c.toNat ≤ 0x5a
  · have hnat := lowerByte_toNat hc
    rw [if_pos hupper] at hnat
    have hletter : 0x61 ≤ (lowerByte c).toNat ∧ (lowerByte c).toNat ≤ 0x7a := by omega
    simp [labelByte, hletter.1, hletter.2]
  · have hsame : lowerByte c = c := by
      rw [← UInt8.toNat_inj, lowerByte_toNat hc, if_neg hupper]
    rw [hsame]
    exact h

theorem DNSLabel.lower {label : Bytes} (h : DNSLabel label) : DNSLabel (label.map lowerByte) := by
  have hhyphen {c : UInt8} (hc : c ∈ label) : lowerByte c = 0x2d ↔ c = 0x2d :=
    lowerByte_eq_iff (ascii_of_labelByte (h.bytes c hc)) (by decide)
  refine ⟨?_, ?_, ?_, ?_, ?_⟩
  · simpa using h.ne_nil
  · simpa using h.length_le
  · intro hhead
    rw [List.head?_map, Option.map_eq_some_iff] at hhead
    rcases hhead with ⟨c, hc, hlower⟩
    exact h.head (hc.trans (congrArg some ((hhyphen (List.mem_of_head? hc)).mp hlower)))
  · intro hlast
    rw [List.getLast?_map, Option.map_eq_some_iff] at hlast
    rcases hlast with ⟨c, hc, hlower⟩
    exact h.last (hc.trans (congrArg some ((hhyphen (List.mem_of_getLast? hc)).mp hlower)))
  · intro d hd
    rcases List.mem_map.mp hd with ⟨c, hc, rfl⟩
    exact labelByte_lowerByte (h.bytes c hc)

theorem ascii_of_hostByte {c : UInt8} (h : hostByte c = true) : c.toNat < 0x80 := by
  simp only [hostByte, Bool.or_eq_true, beq_iff_eq] at h
  rcases h with (h | rfl) | rfl
  · exact ascii_of_labelByte h
  · decide
  · decide

/-- Host bytes in lower case are left alone by lower-casing and by trimming. -/
theorem trimSpace_toLower_of_lower {s : Bytes} (h : ∀ c ∈ s, hostByte c = true ∧ lowerByte c = c) :
    trimSpace (toLower s) = s := by
  have hlower : s.map lowerByte = s :=
    (List.map_congr_left fun c hc => (h c hc).2).trans (List.map_id s)
  rw [toLower_ascii fun c hc => ascii_of_hostByte (h c hc).1, hlower]
  exact trimSpace_of_solid fun c hc => solid_of_hostByte (h c hc).1

theorem DNSName.toLower {s : Bytes} (h : DNSName s) : DNSName (toLower s) := by
  have hascii : ∀ c ∈ s, c.toNat < 0x80 := fun c hc => ascii_of_hostByte (h.bytes hc)
  rw [toLower_ascii hascii]
  refine ⟨?_, ?_⟩
  · rw [List.length_map]
    exact h.length_le
  · rw [splitOn_map fun d hd => lowerByte_eq_iff (hascii d hd) (by decide)]
    intro label hlabel
    rcases List.mem_map.mp hlabel with ⟨part, hpart, rfl⟩
    exact (h.labels part hpart).lower

theorem HostText.bytes {s : Bytes} (h : HostText s) : ∀ c ∈ s, hostByte c = true := by
  rcases h with hip | hname
  · exact (parseIP_text hip).1
  · exact fun c hc => hname.bytes hc

theorem HostText.length_le {s : Bytes} (h : HostText s) : s.length ≤ 253 := by
  rcases h with hip | hname
  · exact (parseIP_text hip).2
  · exact hname.length_le

theorem HostText.ne_nil {s : Bytes} (h : HostText s) : s ≠ [] := by
  rcases h with hip | hname
  · rintro rfl
    exact hip rfl
  · exact hname.ne_nil

theorem HostText.trimSpace_eq {s : Bytes} (h : HostText s) : trimSpace s = s :=
  trimSpace_of_solid fun c hc => solid_of_hostByte (h.bytes c hc)

end FoloXray.Foundation
