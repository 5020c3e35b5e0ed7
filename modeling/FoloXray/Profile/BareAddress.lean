import FoloXray.Foundation.HostName
import FoloXray.Profile.Endpoint

/-! # What an address is parsed to

`ParseAddress` takes one pair of brackets and then the white space off, and reads what is left as an IP
address or else as a domain.
-/

namespace FoloXray.Profile
open Foundation

def openBracket : UInt8 := 0x5b
def closeBracket : UInt8 := 0x5d

def unbracketed (addr : Bytes) : Bytes :=
  if addr.head? = some openBracket ∧ addr.getLast? = some closeBracket then addr.tail.dropLast else addr

def bareAddress (addr : Bytes) : Bytes := trimSpace (unbracketed addr)

/-- An IP address, as IPv4 if it is one in either form. -/
def Address.ofIP (ip : Bytes) : Address := (to4 ip).elim (.ipv6 ip) .ipv4

def Address.ofText (s : Bytes) : Address := (parseIP s).elim (.domain s) .ofIP

section Bytes

variable {ε : Type}

theorem bytesAt_eq {s : Bytes} {positions : List ℕ} (h : ∀ i ∈ positions, i < s.length) :
    (bytesAt s positions : Outcome ε Bytes) = .ok (positions.map (s.getD · 0)) := by
  induction positions with
  | nil => rfl
  | cons i positions ih =>
    obtain ⟨hi, h⟩ := List.forall_mem_cons.mp h
    simp [bytesAt, stringIndex_getD hi, ih h]

theorem map_getD_range (s : Bytes) : (List.range s.length).map (s.getD · 0) = s := by
  apply List.ext_getElem
  · simp
  · intro i hi hi'
    simp [List.getElem?_eq_getElem hi']

theorem bytesAt_range {s : Bytes} {n : ℕ} (h : s.length = n) :
    (bytesAt s (List.range n) : Outcome ε Bytes) = .ok s := by
  subst h
  rw [bytesAt_eq fun i hi => List.mem_range.mp hi, map_getD_range]

theorem ipv4Address_eq {ip : Bytes} (h : ip.length = 4) :
    (ipv4Address ip : Outcome ε _) = .ok (some (.ipv4 ip)) := by
  have hbytes : (bytesAt ip [0, 1, 2, 3] : Outcome ε Bytes) = .ok ip := bytesAt_range h
  rw [ipv4Address, hbytes]
  rfl

/-- The first ten bytes and the two behind them are looked at together. -/
theorem take_v4InV6Prefix {ip : Bytes} (h : ip.length = 16) :
    ip.take 12 = v4InV6Prefix ↔ ip.take 10 = List.replicate 10 0 ∧
      [ip.getD 10 0, ip.getD 11 0] = [0xff, 0xff] := by
  match ip, h with
  | [_, _, _, _, _, _, _, _, _, _, _, _, _, _, _, _], _ =>
    simp [v4InV6Prefix, List.replicate]
    tauto

theorem ipAddress_eq {ip : Bytes} (h : ip.length = 16) :
    (ipAddress ip : Outcome ε _) = .ok (some (.ofIP ip)) := by
  have hmark : (bytesAt ip [10, 11] : Outcome ε Bytes) = .ok [ip.getD 10 0, ip.getD 11 0] :=
    bytesAt_eq (by simp [h])
  have hfour : ip.length ≠ 4 := by omega
  have hfront : (stringSlice ip 0 10 : Outcome ε Bytes) = .ok (ip.take 10) :=
    stringSlice_of_le (Nat.zero_le 10) (by omega)
  have htail : (stringSlice ip 12 16 : Outcome ε Bytes) = .ok (ip.drop 12) := by
    rw [stringSlice_of_le (by decide) h.ge, List.take_of_length_le h.le]
  rw [ipAddress, if_neg hfour, if_pos h, hfront, hmark, bytesAt_range h, htail]
  simp only [Outcome.ok_bind, ← take_v4InV6Prefix h]
  by_cases hmapped : ip.take 12 = v4InV6Prefix
  · have hto4 : to4 ip = some (ip.drop 12) := by
      rw [to4, if_neg hfour, if_pos ⟨h, hmapped⟩]
    rw [if_pos hmapped, ipv4Address_eq (by rw [List.length_drop, h]), Address.ofIP, hto4]
    rfl
  · have hto4 : to4 ip = none := by
      rw [to4, if_neg hfour, if_neg fun hand => hmapped hand.2]
    rw [if_neg hmapped, Address.ofIP, hto4]
    rfl

end Bytes

section Trimming

variable {ε : Type}

theorem solid_of_isAlphaNum {c : UInt8} (h : isAlphaNum c = true) : solid c := by
  apply solid_of_hostByte
  simp only [isAlphaNum, Bool.or_eq_true, Bool.and_eq_true, decide_eq_true_eq] at h
  simp only [hostByte, labelByte, Bool.or_eq_true, Bool.and_eq_true, decide_eq_true_eq]
  tauto

/-- Nothing is trimmed in front of a byte that belongs to no unit. -/
theorem trimLeft_cons {units : List Bytes} (hunits : ∀ u ∈ units, u ≠ []) {c : UInt8}
    (hc : ∀ u ∈ units, c ∉ u) (s : Bytes) (fuel : ℕ) : trimLeft units fuel (c :: s) = c :: s := by
  have hnone : units.find? (·.isPrefixOf (c :: s)) = none := by
    rw [List.find?_eq_none]
    intro u hu hstarts
    obtain ⟨b, rest, rfl⟩ := List.exists_cons_of_ne_nil (hunits u hu)
    have hb := (List.cons_prefix_cons.mp (List.isPrefixOf_iff_prefix.mp hstarts)).1
    rw [hb] at hu
    exact hc _ hu List.mem_cons_self
  cases fuel with
  | zero => rfl
  | succ fuel => simp [trimLeft, hnone]

/-- Nothing is trimmed between two bytes that belong to no white space. -/
theorem trimSpace_of_ends {s : Bytes} (hs : s ≠ []) (hhead : solid (s.head hs))
    (hlast : solid (s.getLast hs)) : trimSpace s = s := by
  have hback : ∀ u ∈ whiteSpace.map List.reverse, u ≠ [] := by
    intro u hu
    obtain ⟨v, hv, rfl⟩ := List.mem_map.mp hu
    simpa using whiteSpace_ne_nil v hv
  have hfront : trimLeft whiteSpace s.length s = s := by
    obtain ⟨c, rest, rfl⟩ := List.exists_cons_of_ne_nil hs
    exact trimLeft_cons whiteSpace_ne_nil hhead rest _
  have hrear : trimLeft (whiteSpace.map List.reverse) s.length s.reverse = s.reverse := by
    have hturn : s.reverse = s.getLast hs :: s.dropLast.reverse := by
      rw [← List.reverse_concat', List.dropLast_append_getLast hs]
    rw [hturn]
    apply trimLeft_cons hback
    intro u hu
    obtain ⟨v, hv, rfl⟩ := List.mem_map.mp hu
    rw [List.mem_reverse]
    exact hlast v hv
  simp only [trimSpace, hfront, hrear, List.reverse_reverse]

theorem trimAddress_eq (addr : Bytes) : (trimAddress addr : Outcome ε Bytes) = .ok (trimSpace addr) := by
  by_cases hs : addr = []
  · subst hs
    rfl
  · rw [trimAddress, if_pos (List.length_pos_iff.mpr hs), stringIndex_head hs, stringIndex_last hs]
    simp only [Outcome.ok_bind, Outcome.pure_eq_ok]
    split
    · rfl
    · rename_i hends
      simp only [Bool.or_eq_true, Bool.not_eq_true', not_or, Bool.not_eq_false] at hends
      rw [trimSpace_of_ends hs (solid_of_isAlphaNum hends.1) (solid_of_isAlphaNum hends.2)]

theorem stripBrackets_eq (addr : Bytes) :
    (stripBrackets addr : Outcome ε Bytes) = .ok (unbracketed addr) := by
  by_cases hs : addr = []
  · subst hs
    rfl
  · rw [stripBrackets, if_pos (List.length_pos_iff.mpr hs), stringIndex_head hs, stringIndex_last hs]
    simp only [Outcome.ok_bind, Outcome.pure_eq_ok, unbracketed, List.head?_eq_some_head hs,
      List.getLast?_eq_some_getLast hs, Option.some.injEq]
    by_cases hbrackets : addr.head hs = openBracket ∧ addr.getLast hs = closeBracket
    · rw [if_pos hbrackets]
      have hlong : 1 ≤ addr.length - 1 := by
        by_contra hshort
        obtain ⟨c, rfl⟩ : ∃ c, addr = [c] := by
          have := List.length_pos_iff.mpr hs
          exact List.length_eq_one_iff.mp (by omega)
        exact absurd (hbrackets.1.symm.trans hbrackets.2) (by decide)
      refine (if_pos hbrackets).trans ?_
      rw [stringSlice_of_le hlong (Nat.sub_le _ 1), ← List.dropLast_eq_take, List.drop_one,
        List.tail_dropLast]
    · rw [if_neg hbrackets]
      exact if_neg hbrackets

/-- Every string is parsed to the address that its bare text spells. -/
theorem parseAddress_eq (addr : Bytes) :
    (parseAddress addr : Outcome ε _) = .ok (some (.ofText (bareAddress addr))) := by
  rw [parseAddress, stripBrackets_eq, Outcome.ok_bind, trimAddress_eq, Outcome.ok_bind, Address.ofText,
    bareAddress]
  cases hip : parseIP (trimSpace (unbracketed addr)) with
  | none => rfl
  | some ip => exact ipAddress_eq (parseIP_length hip)

theorem bareAddress_of_hostText {s : Bytes} (h : HostText s) : bareAddress s = s := by
  have hnot : ¬ (s.head? = some openBracket ∧ s.getLast? = some closeBracket) := by
    rintro ⟨hhead, -⟩
    have hbyte := h.bytes openBracket (List.mem_of_head? hhead)
    exact absurd hbyte (by decide)
  rw [bareAddress, unbracketed, if_neg hnot, h.trimSpace_eq]

end Trimming

end FoloXray.Profile
