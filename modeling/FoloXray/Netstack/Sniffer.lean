import FoloXray.Foundation.Cuts
import FoloXray.PacketFlow.Frame

/-! # Sniffing a domain from the first bytes of a stream

`SniffDomain` looks for a server name in a TLS ClientHello and then for a Host header. It is given
whatever one read of the connection returned, so the results below compare its answer on a part of a
stream with its answer on more of it.
-/

namespace FoloXray.Netstack
open Foundation PacketFlow

def sniffNames (data : Bytes) (sniEnd sniPos : ℕ) : Bytes :=
  if sniPos + 3 ≤ sniEnd then
    let nameType := byteAt data sniPos
    let nameLen := uint16At data (sniPos + 1)
    if nameType = 0 ∧ sniPos + 3 + nameLen ≤ sniEnd then
      toLower ((data.drop (sniPos + 3)).take nameLen)
    else sniffNames data sniEnd (sniPos + 3 + nameLen)
  else []
termination_by sniEnd - sniPos

/-- The loop over the extensions; it ends at the first `server_name`. -/
def sniffExtensions (data : Bytes) (stop pos : ℕ) : Bytes :=
  if pos + 4 ≤ stop then
    let extType := uint16At data pos
    let extLen := uint16At data (pos + 2)
    if extType = 0x0000 then
      if pos + 4 + 2 ≤ stop then
        let listLen := uint16At data (pos + 4)
        let sniPos := pos + 4 + 2
        let sniEnd := if sniPos + listLen > stop then stop else sniPos + listLen
        sniffNames data sniEnd sniPos
      else []
    else sniffExtensions data stop (pos + 4 + extLen)
  else []
termination_by stop - pos

/-- The fields of the ClientHello before its extensions: where the length of the extensions
stands. -/
def helloExtensions (data : Bytes) : Option ℕ :=
  if data.length < 44 ∨ byteAt data 0 ≠ 0x16 ∨ byteAt data 1 ≠ 0x03 then none
  else if byteAt data 5 ≠ 0x01 then none
  else
    let pos := 43
    if pos ≥ data.length then none
    else
      let sessionIDLen := (byteAt data pos).toNat
      let pos := pos + 1 + sessionIDLen
      if pos + 2 > data.length then none
      else
        let cipherSuitesLen := uint16At data pos
        let pos := pos + 2 + cipherSuitesLen
        if pos + 1 > data.length then none
        else
          let compressionMethodsLen := (byteAt data pos).toNat
          let pos := pos + 1 + compressionMethodsLen
          if pos + 2 > data.length then none else some pos

def sniffTLS (data : Bytes) : Bytes :=
  match helloExtensions data with
  | none => []
  | some pos =>
    let extensionsLen := uint16At data pos
    let pos := pos + 2
    let stop := if pos + extensionsLen > data.length then data.length else pos + extensionsLen
    sniffExtensions data stop pos

def methods : List Bytes :=
  ["GET ", "POST ", "HEAD ", "PUT ", "DELETE ", "CONNECT ", "OPTIONS "].map goString

def crlf : Bytes := [0x0d, 0x0a]

def isHostLine (line : Bytes) : Bool := (goString "host:").isPrefixOf (toLower line)

def hostName (line : Bytes) : Bytes :=
  let host := trimSpace (line.drop 5)
  match index (goString ":") host with
  | some idx => toLower (trimSpace (host.take idx))
  | none => toLower (trimSpace host)

def sniffHTTP (data : Bytes) : Bytes :=
  if methods.any (·.isPrefixOf data) then
    match (split crlf data).find? isHostLine with
    | some line => hostName line
    | none => []
  else []

def sniffDomain (data : Bytes) : Bytes :=
  if data.length = 0 then []
  else if sniffTLS data ≠ [] then sniffTLS data
  else if sniffHTTP data ≠ [] then sniffHTTP data
  else []

section ClientHello

variable {p s : Bytes} {i : ℕ}

theorem byteAt_of_front (h : p <+: s) (hi : i < p.length) : byteAt s i = byteAt p i := by
  rcases h with ⟨t, rfl⟩
  simp [byteAt, List.getElem?_append_left hi]

theorem uint16At_of_front (h : p <+: s) (hi : i + 2 ≤ p.length) : uint16At s i = uint16At p i := by
  simp only [uint16At, byteAt_of_front h (i := i) (by omega),
    byteAt_of_front h (i := i + 1) (by omega)]

theorem slice_of_front (h : p <+: s) {n : ℕ} (hi : i + n ≤ p.length) :
    (s.drop i).take n = (p.drop i).take n := by
  rcases h with ⟨t, rfl⟩
  rw [List.drop_append_of_le_length (by omega), List.take_append_of_le_length (by
    rw [List.length_drop]; omega)]

/-- A name that fits is found again in a longer list: an entry that does not fit ends the loop. -/
theorem sniffNames_of_front (h : p <+: s) {stop stop' : ℕ} (hstop : stop ≤ p.length)
    (hle : stop ≤ stop') (hname : sniffNames p stop i ≠ []) :
    sniffNames s stop' i = sniffNames p stop i := by
  fun_induction sniffNames p stop i with
  | case1 i hin nameType nameLen hfit =>
    have htype : byteAt s i = nameType := byteAt_of_front h (by omega)
    have hlen : uint16At s (i + 1) = nameLen := uint16At_of_front h (by omega)
    rw [sniffNames, if_pos (by omega)]
    simp only [htype, hlen]
    rw [if_pos ⟨hfit.1, by omega⟩, slice_of_front h (by omega)]
  | case2 i hin nameType nameLen hfit ih =>
    have htype : byteAt s i = nameType := byteAt_of_front h (by omega)
    have hlen : uint16At s (i + 1) = nameLen := uint16At_of_front h (by omega)
    have hmore : i + 3 + nameLen + 3 ≤ stop := by
      by_contra hover
      apply hname
      rw [sniffNames, if_neg hover]
    have hskip : ¬ (nameType = 0 ∧ i + 3 + nameLen ≤ stop') := by
      rintro ⟨htype, -⟩
      exact hfit ⟨htype, by omega⟩
    rw [sniffNames, if_pos (by omega)]
    simp only [htype, hlen]
    rw [if_neg hskip]
    exact ih hname
  | case3 i hin => exact absurd rfl hname

theorem sniffExtensions_of_front (h : p <+: s) {stop stop' : ℕ} (hstop : stop ≤ p.length)
    (hle : stop ≤ stop') (hname : sniffExtensions p stop i ≠ []) :
    sniffExtensions s stop' i = sniffExtensions p stop i := by
  fun_induction sniffExtensions p stop i with
  | case1 i hin extType hsni hlist listLen sniPos sniEnd =>
    have htype : uint16At s i = extType := uint16At_of_front h (by omega)
    have hlen : uint16At s (i + 4) = listLen := uint16At_of_front h (by omega)
    rw [sniffExtensions, if_pos (by omega)]
    simp only [htype, hlen]
    rw [if_pos hsni, if_pos (by omega)]
    apply sniffNames_of_front h _ _ hname
    · simp only [sniEnd]
      split <;> omega
    · simp only [sniEnd, sniPos]
      split <;> split <;> omega
  | case2 i hin extType hsni hlist => exact absurd rfl hname
  | case3 i hin extType extLen hsni ih =>
    have htype : uint16At s i = extType := uint16At_of_front h (by omega)
    have hlen : uint16At s (i + 2) = extLen := uint16At_of_front h (by omega)
    rw [sniffExtensions, if_pos (by omega)]
    simp only [htype, hlen]
    rw [if_neg hsni]
    exact ih hname
  | case4 i hin => exact absurd rfl hname

theorem helloExtensions_of_front (h : p <+: s) (hpos : helloExtensions p = some i) :
    helloExtensions s = some i ∧ i + 2 ≤ p.length := by
  have hlen := h.length_le
  unfold helloExtensions at hpos
  split at hpos
  · cases hpos
  · rename_i hrecord
    split at hpos
    · cases hpos
    · rename_i htype
      dsimp only at hpos
      split at hpos
      · cases hpos
      · split at hpos
        · cases hpos
        · split at hpos
          · cases hpos
          · split at hpos
            · cases hpos
            · cases hpos
              have h0 : byteAt s 0 = byteAt p 0 := byteAt_of_front h (by omega)
              have h1 : byteAt s 1 = byteAt p 1 := byteAt_of_front h (by omega)
              have h5 : byteAt s 5 = byteAt p 5 := byteAt_of_front h (by omega)
              have hsession : byteAt s 43 = byteAt p 43 := byteAt_of_front h (by omega)
              have hciphers := uint16At_of_front h (i := 43 + 1 + (byteAt p 43).toNat) (by omega)
              have hmethods := byteAt_of_front h (i := 43 + 1 + (byteAt p 43).toNat + 2 +
                uint16At p (43 + 1 + (byteAt p 43).toNat)) (by omega)
              have hrecord' : ¬ (s.length < 44 ∨ byteAt p 0 ≠ 0x16 ∨ byteAt p 1 ≠ 0x03) := by
                rintro (hshort | hother)
                · omega
                · exact hrecord (.inr hother)
              constructor
              · simp only [helloExtensions, h0, h1, h5, hsession, hciphers, hmethods]
                rw [if_neg hrecord', if_neg htype, if_neg (by omega), if_neg (by omega),
                  if_neg (by omega), if_neg (by omega)]
              · omega

/-- Every byte the search reads lies in the part that was already there. -/
theorem sniffTLS_of_front (h : p <+: s) (hname : sniffTLS p ≠ []) : sniffTLS s = sniffTLS p := by
  have hlen := h.length_le
  cases hp : helloExtensions p with
  | none =>
    simp only [sniffTLS, hp] at hname
    exact absurd rfl hname
  | some pos =>
    rcases helloExtensions_of_front h hp with ⟨hs, hpos⟩
    simp only [sniffTLS, hp] at hname
    simp only [sniffTLS, hp, hs, uint16At_of_front h hpos]
    apply sniffExtensions_of_front h _ _ hname
    · split <;> omega
    · split <;> split <;> omega

end ClientHello

section HostHeader

variable {p x line : Bytes}

theorem isHostLine_iff : isHostLine line = true ↔ ∃ spelling rest, line = spelling ++ rest ∧
    (∀ b ∈ spelling, b.toNat < 0x80) ∧ spelling.map lowerByte = goString "host:" := by
  rw [isHostLine, List.isPrefixOf_iff_prefix]
  exact prefix_toLower_iff (by decide +kernel)

theorem isHostLine_append (h : isHostLine line = true) (x : Bytes) :
    isHostLine (line ++ x) = true := by
  rcases isHostLine_iff.mp h with ⟨spelling, rest, rfl, hascii, hmap⟩
  exact isHostLine_iff.mpr ⟨spelling, rest ++ x, List.append_assoc .., hascii, hmap⟩

theorem spelling_length {spelling : Bytes} (h : spelling.map lowerByte = goString "host:") :
    spelling.length = 5 := by
  rw [← List.length_map lowerByte, h]
  rfl

/-- The carriage return of the line end is not part of what makes a Host line. -/
theorem isHostLine_of_return (h : isHostLine (line ++ [0x0d]) = true) : isHostLine line = true := by
  rcases isHostLine_iff.mp h with ⟨spelling, rest, heq, hascii, hmap⟩
  have hspelled : (0x0d : UInt8) ∉ spelling := by
    intro hmem
    have := List.mem_map_of_mem (f := lowerByte) hmem
    rw [hmap] at this
    revert this
    decide
  rcases List.eq_nil_or_concat rest with rfl | ⟨rest, b, rfl⟩
  · rw [List.append_nil] at heq
    exact absurd (by simp [← heq]) hspelled
  · rw [List.concat_eq_append, ← List.append_assoc] at heq
    exact isHostLine_iff.mpr ⟨spelling, rest, (List.append_inj' heq rfl).1, hascii, hmap⟩

theorem solid_colon : solid 0x3a := by decide

/-- With a port the name depends only on what stands before the colon. -/
theorem hostName_colon {spelling w : Bytes} (hlen : spelling.length = 5) (hw : 0x3a ∉ w) (z : Bytes) :
    hostName (spelling ++ (w ++ 0x3a :: z)) =
      toLower (trimSpace (trimLeft whiteSpace w.length w)) := by
  have hfront : (0x3a : UInt8) ∉ trimLeft whiteSpace w.length w :=
    fun hmem => hw ((trimLeft_suffix _ _ _).subset hmem)
  have hcolon : goString ":" = [0x3a] := by decide
  simp only [hostName, ← hlen, List.drop_left, trimSpace_append solid_colon, hcolon,
    index_singleton hfront, List.take_left]

/-- Without a port the name goes on to the end of the line. -/
theorem hostName_concat {c : UInt8} (hc : c.toNat < 0x80) (hsolid : solid c) (hne : c ≠ 0x3a)
    {spelling w : Bytes} (hlen : spelling.length = 5) (hw : 0x3a ∉ w) :
    ∃ u, hostName (spelling ++ (w ++ [c])) = u ++ [lowerByte c] := by
  have hcolon : goString ":" = [0x3a] := by decide
  have hfront : (0x3a : UInt8) ∉ trimLeft whiteSpace w.length w ++ [c] := by
    simp only [List.mem_append, List.mem_singleton, not_or]
    exact ⟨fun hmem => hw ((trimLeft_suffix _ _ _).subset hmem), hne.symm⟩
  have htrim (v : Bytes) : trimSpace (v ++ [c]) = trimLeft whiteSpace v.length v ++ [c] := by
    rw [trimSpace_append hsolid]
    rfl
  simp only [hostName, ← hlen, List.drop_left, htrim, hcolon, index_singleton_none hfront,
    toLower_append hc]
  exact ⟨_, rfl⟩

theorem crlf_ne_nil : crlf ≠ [] := by decide

/-- The unfinished line of a string either goes on, or ended with the carriage return. -/
theorem split_unfinished {last : Bytes} (hlast : index crlf last = none) (x : Bytes) :
    ∃ first rest, split crlf (last ++ x) = first :: rest ∧
      (last <+: first ∨ last = first ++ [0x0d]) := by
  cases hi : index crlf (last ++ x) with
  | none => exact ⟨last ++ x, [], split_none hi, .inl (List.prefix_append last x)⟩
  | some i =>
    have hover := index_append_of_none hlast hi
    have hspec := index_spec hi
    have hlen : crlf.length = 2 := rfl
    refine ⟨_, _, split_some crlf_ne_nil hi, ?_⟩
    by_cases hle : last.length ≤ i
    · left
      apply List.prefix_of_prefix_length_le (List.prefix_append last x) (List.take_prefix i _)
      rw [List.length_take, List.length_append]
      have := index_le hi
      rw [List.length_append] at this
      omega
    · right
      have hone : last.length = i + 1 := by omega
      rcases List.eq_nil_or_concat last with rfl | ⟨front, b, rfl⟩
      · simp at hone
      · rw [List.concat_eq_append, List.length_append, List.length_singleton] at hone
        obtain rfl : front.length = i := by omega
        rw [List.concat_eq_append, List.append_assoc, List.drop_left] at hspec
        have hb : 0x0d = b := (List.cons_prefix_cons.mp hspec).1
        rw [List.concat_eq_append, List.append_assoc, List.take_left, hb]

theorem index_crlf_concat {last : Bytes} {c : UInt8} (hlast : index crlf last = none)
    (hc : c ≠ 0x0a) : index crlf (last ++ [c]) = none := by
  cases hi : index crlf (last ++ [c]) with
  | none => rfl
  | some i =>
    exfalso
    have hover := index_append_of_none hlast hi
    have hle := index_le hi
    have hlen : crlf.length = 2 := rfl
    rw [List.length_append, List.length_singleton] at hle
    have hwhole : [0x0d] ++ [0x0a] = last.drop i ++ [c] := by
      rw [← List.drop_append_of_le_length (by omega)]
      apply (index_spec hi).eq_of_length
      rw [List.length_drop, List.length_append, List.length_singleton]
      omega
    cases (List.append_inj' hwhole rfl).2
    exact hc rfl

/-- The first Host line is complete, or the colon after its name has been seen. -/
def HostSettled (data : Bytes) : Prop :=
  (∃ line ∈ (split crlf data).dropLast, isHostLine line = true) ∨
    ∃ line, (split crlf data).getLast? = some line ∧ 0x3a ∈ line.drop 5

theorem methods_append (h : methods.any (·.isPrefixOf p) = true) (x : Bytes) :
    methods.any (·.isPrefixOf (p ++ x)) = true := by
  rcases List.any_eq_true.mp h with ⟨m, hm, hp⟩
  apply List.any_eq_true.mpr
  refine ⟨m, hm, ?_⟩
  rw [List.isPrefixOf_iff_prefix] at hp ⊢
  exact hp.trans (List.prefix_append p x)

theorem byteAt_of_method (h : methods.any (·.isPrefixOf p) = true) : byteAt p 0 ≠ 0x16 := by
  rcases List.any_eq_true.mp h with ⟨m, hm, hp⟩
  rw [List.isPrefixOf_iff_prefix] at hp
  have hheads : ∀ m ∈ methods, 0 < m.length ∧ byteAt m 0 ≠ 0x16 := by decide
  rw [byteAt_of_front hp (hheads m hm).1]
  exact (hheads m hm).2

theorem sniffTLS_of_method (h : methods.any (·.isPrefixOf p) = true) : sniffTLS p = [] := by
  have hnone : helloExtensions p = none := by simp [helloExtensions, byteAt_of_method h]
  simp [sniffTLS, hnone]

theorem sniffHTTP_ne_nil (h : sniffHTTP p ≠ []) : methods.any (·.isPrefixOf p) = true ∧
    ∃ line, (split crlf p).find? isHostLine = some line ∧ sniffHTTP p = hostName line := by
  unfold sniffHTTP at h ⊢
  split at h
  · rename_i hmethod
    split at h
    · rename_i line hfind
      refine ⟨hmethod, line, hfind, ?_⟩
      rw [if_pos hmethod]
    · exact absurd rfl h
  · exact absurd rfl h

theorem sniffHTTP_of_find (hmethod : methods.any (·.isPrefixOf p) = true)
    (h : (split crlf p).find? isHostLine = some line) : sniffHTTP p = hostName line := by
  rw [sniffHTTP, if_pos hmethod, h]

/-- Where the Host line of a non-empty answer stands: among the complete lines, with the same
answer on every longer string, or in the unfinished last line. -/
theorem sniffHTTP_cases (h : sniffHTTP p ≠ []) :
    methods.any (·.isPrefixOf p) = true ∧ ∃ parts last, split crlf p = parts ++ [last] ∧
      index crlf last = none ∧ (∀ x, split crlf (p ++ x) = parts ++ split crlf (last ++ x)) ∧
      ((∃ line ∈ parts, isHostLine line = true) ∧ (∀ x, sniffHTTP (p ++ x) = sniffHTTP p) ∨
        parts.find? isHostLine = none ∧ isHostLine last = true ∧ sniffHTTP p = hostName last) := by
  rcases sniffHTTP_ne_nil h with ⟨hmethod, line, hfind, hline⟩
  rcases split_append crlf_ne_nil p with ⟨parts, last, hsplit, hlast, happend⟩
  refine ⟨hmethod, parts, last, hsplit, hlast, happend, ?_⟩
  rw [hsplit, List.find?_append] at hfind
  cases hparts : parts.find? isHostLine with
  | some l =>
    left
    constructor
    · exact ⟨l, List.mem_of_find?_eq_some hparts, List.find?_some hparts⟩
    · intro x
      rw [hparts, Option.some_or, Option.some.injEq] at hfind
      subst hfind
      rw [hline]
      apply sniffHTTP_of_find (methods_append hmethod x)
      rw [happend, List.find?_append, hparts, Option.some_or]
  | none =>
    right
    rw [hparts, Option.none_or, List.find?_cons] at hfind
    split at hfind
    · cases hfind
      exact ⟨rfl, ‹_›, hline⟩
    · cases hfind

theorem sniffHTTP_settled (h : sniffHTTP p ≠ []) (hs : HostSettled p) (x : Bytes) :
    sniffHTTP (p ++ x) = sniffHTTP p := by
  rcases sniffHTTP_cases h with ⟨hmethod, parts, last, hsplit, hlast, happend, ⟨-, hstable⟩ |
    ⟨hparts, hhost, hname⟩⟩
  · exact hstable x
  · have hcolon : 0x3a ∈ last.drop 5 := by
      rcases hs with ⟨line, hmem, hline⟩ | ⟨line, hget, hcolon⟩
      · rw [hsplit, List.dropLast_concat] at hmem
        exact absurd hline (List.find?_eq_none.mp hparts line hmem)
      · rw [hsplit, List.getLast?_concat] at hget
        cases hget
        exact hcolon
    rcases isHostLine_iff.mp hhost with ⟨spelling, rest, rfl, -, hmap⟩
    have hfive := spelling_length hmap
    rw [← hfive, List.drop_left] at hcolon
    rcases List.eq_append_cons_of_mem hcolon with ⟨w, z, rfl, hw⟩
    rcases split_unfinished hlast x with ⟨first, tail, hfirst, hcut⟩
    have hsame : isHostLine first = true ∧ ∃ y, first = spelling ++ (w ++ 0x3a :: y) := by
      rcases hcut with ⟨y, rfl⟩ | hcut
      · exact ⟨isHostLine_append hhost y, z ++ y, by simp⟩
      · refine ⟨isHostLine_of_return (hcut ▸ hhost), ?_⟩
        rcases List.eq_nil_or_concat z with rfl | ⟨z, b, rfl⟩
        · have hbytes : (spelling ++ w) ++ [0x3a] = first ++ [0x0d] := by simpa using hcut
          cases (List.append_inj' hbytes rfl).2
        · have hbytes : (spelling ++ (w ++ 0x3a :: z)) ++ [b] = first ++ [0x0d] := by
            simpa using hcut
          exact ⟨z, (List.append_inj' hbytes rfl).1.symm⟩
    rcases hsame with ⟨hfirsthost, y, rfl⟩
    have hfind : (split crlf (p ++ x)).find? isHostLine = some (spelling ++ (w ++ 0x3a :: y)) := by
      rw [happend, List.find?_append, hparts, Option.none_or, hfirst, List.find?_cons, hfirsthost]
    rw [sniffHTTP_of_find (methods_append hmethod x) hfind, hname, hostName_colon hfive hw,
      hostName_colon hfive hw]

/-- As long as it is not settled, the next byte becomes the last one of the name. -/
theorem sniffHTTP_unsettled (h : sniffHTTP p ≠ []) (hs : ¬ HostSettled p) {c : UInt8}
    (hc : c.toNat < 0x80) (hsolid : solid c) (hne : c ≠ 0x3a) :
    ∃ u, sniffHTTP (p ++ [c]) = u ++ [lowerByte c] := by
  rcases sniffHTTP_cases h with ⟨hmethod, parts, last, hsplit, hlast, happend, ⟨⟨line, hmem, hline⟩, -⟩ |
    ⟨hparts, hhost, hname⟩⟩
  · refine absurd (.inl ⟨line, ?_, hline⟩) hs
    rw [hsplit, List.dropLast_concat]
    exact hmem
  · rcases isHostLine_iff.mp hhost with ⟨spelling, w, rfl, -, hmap⟩
    have hfive := spelling_length hmap
    have hw : 0x3a ∉ w := by
      intro hmem
      refine hs (.inr ⟨spelling ++ w, ?_, ?_⟩)
      · rw [hsplit, List.getLast?_concat]
      · rw [← hfive, List.drop_left]
        exact hmem
    have hfeed : c ≠ 0x0a := by
      rintro rfl
      revert hsolid
      decide
    rcases hostName_concat hc hsolid hne hfive hw with ⟨u, hu⟩
    refine ⟨u, ?_⟩
    rw [← hu, ← List.append_assoc]
    apply sniffHTTP_of_find (methods_append hmethod [c])
    rw [happend, split_none (index_crlf_concat hlast hfeed), List.find?_append, hparts,
      Option.none_or, List.find?_cons, isHostLine_append hhost]

end HostHeader

theorem sniffDomain_eq (data : Bytes) :
    sniffDomain data = if sniffTLS data ≠ [] then sniffTLS data else sniffHTTP data := by
  unfold sniffDomain
  split
  · rename_i hempty
    rw [List.length_eq_zero_iff] at hempty
    subst hempty
    decide
  · split
    · rfl
    · split
      · rfl
      · rename_i hnone
        simpa using hnone

theorem sniffDomain_of_method {data : Bytes} (h : methods.any (·.isPrefixOf data) = true) :
    sniffDomain data = sniffHTTP data := by
  rw [sniffDomain_eq, sniffTLS_of_method h, if_neg (by simp)]

theorem sniffHTTP_of_no_method {p : Bytes} (h : ¬ methods.any (·.isPrefixOf p) = true) :
    sniffHTTP p = [] := if_neg h

/-- `SniffDomain` and segmentation: the answer on a part of a stream is the answer on every stream that
starts with it exactly when it is empty, does not come from a request, or comes from a Host line that is
complete or whose name is already followed by a colon. -/
theorem sniffDomain_stable_iff (p : Bytes) :
    (∀ s, p <+: s → sniffDomain p ≠ [] → sniffDomain s = sniffDomain p) ↔
      sniffDomain p = [] ∨ ¬ methods.any (·.isPrefixOf p) = true ∨ HostSettled p := by
  constructor
  · intro hstable
    by_contra hnot
    simp only [not_or, not_not] at hnot
    rcases hnot with ⟨hne, hmethod, hs⟩
    have hname : sniffHTTP p ≠ [] := sniffDomain_of_method hmethod ▸ hne
    have hends {c : UInt8} (hc : c.toNat < 0x80) (hsolid : solid c) (hcolon : c ≠ 0x3a) :
        ∃ u, sniffDomain p = u ++ [lowerByte c] := by
      rcases sniffHTTP_unsettled hname hs hc hsolid hcolon with ⟨u, hu⟩
      refine ⟨u, ?_⟩
      rw [← hstable (p ++ [c]) (List.prefix_append p [c]) hne, ← hu]
      exact sniffDomain_of_method (methods_append hmethod [c])
    rcases hends (c := 0x78) (by decide) (by decide) (by decide) with ⟨u, hu⟩
    rcases hends (c := 0x79) (by decide) (by decide) (by decide) with ⟨v, hv⟩
    have hsame := (List.append_inj' (hu.symm.trans hv) rfl).2
    revert hsame
    decide
  · rintro hcond s hprefix hne
    by_cases hmethod : methods.any (·.isPrefixOf p) = true
    · have hhttp := sniffDomain_of_method hmethod
      rcases hprefix with ⟨x, rfl⟩
      rcases hcond with hempty | hnone | hs
      · exact absurd hempty hne
      · exact absurd hmethod hnone
      · rw [hhttp, sniffDomain_of_method (methods_append hmethod x),
          sniffHTTP_settled (hhttp ▸ hne) hs]
    · have htls : sniffTLS p ≠ [] := by
        intro hempty
        rw [sniffDomain_eq, hempty, if_neg (by simp), sniffHTTP_of_no_method hmethod] at hne
        exact hne rfl
      have hsame := sniffTLS_of_front hprefix htls
      rw [sniffDomain_eq, sniffDomain_eq, hsame, if_pos htls, if_pos htls]

/-- A read that ends inside the Host line gives another name than the whole request. -/
theorem sniffDomain_cut_host :
    goString "GET / HTTP/1.1\r\nHost: exam" <+:
        goString "GET / HTTP/1.1\r\nHost: example.com\r\n\r\n" ∧
      sniffDomain (goString "GET / HTTP/1.1\r\nHost: exam") = goString "exam" ∧
      sniffDomain (goString "GET / HTTP/1.1\r\nHost: example.com\r\n\r\n") =
        goString "example.com" := by
  decide +kernel

end FoloXray.Netstack
