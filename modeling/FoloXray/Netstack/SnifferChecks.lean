import FoloXray.Foundation.Checked
import FoloXray.Netstack.Sniffer

/-! # The run-time checks of `sniffTLS`

`sniffTLS` once more, with every index and slice expression as the checked operation it is and with
the rounds of its two loops recorded.  The bytes come from the client, and so do the six lengths that
move the positions; no position is used before it has been compared with a bound.
-/

namespace FoloXray.Netstack
open Foundation PacketFlow Checked

inductive Loop where
  | extensions
  | names
  deriving DecidableEq, Repr

/-- `binary.BigEndian.Uint16(data[pos : pos+2])` -/
def uint16Read (data : Bytes) (pos : ℕ) : Checked Loop ℕ := do
  let b ← slice data pos (pos + 2)
  pure (uint16At b 0)

def checkedNames (data : Bytes) (sniEnd sniPos : ℕ) : Checked Loop Bytes :=
  if sniPos + 3 ≤ sniEnd then do
    round .names sniPos
    let nameType ← index data sniPos
    let nameLen ← uint16Read data (sniPos + 1)
    if nameType = 0 ∧ sniPos + 3 + nameLen ≤ sniEnd then do
      let name ← slice data (sniPos + 3) (sniPos + 3 + nameLen)
      pure (toLower name)
    else checkedNames data sniEnd (sniPos + 3 + nameLen)
  else pure []
termination_by sniEnd - sniPos

def checkedExtensions (data : Bytes) (stop pos : ℕ) : Checked Loop Bytes :=
  if pos + 4 ≤ stop then do
    round .extensions pos
    let extType ← uint16Read data pos
    let extLen ← uint16Read data (pos + 2)
    if extType = 0x0000 then
      if pos + 4 + 2 ≤ stop then do
        let listLen ← uint16Read data (pos + 4)
        let sniPos := pos + 4 + 2
        let sniEnd := if sniPos + listLen > stop then stop else sniPos + listLen
        checkedNames data sniEnd sniPos
      else pure []
    else checkedExtensions data stop (pos + 4 + extLen)
  else pure []
termination_by stop - pos

def checkedHello (data : Bytes) : Checked Loop (Option ℕ) :=
  if data.length < 44 then pure none
  else do
    let recordType ← index data 0
    if recordType ≠ 0x16 then pure none
    else do
      let major ← index data 1
      if major ≠ 0x03 then pure none
      else do
        let handshakeType ← index data 5
        if handshakeType ≠ 0x01 then pure none
        else
          let pos := 43
          if pos ≥ data.length then pure none
          else do
            let sessionIDLen ← index data pos
            let pos := pos + 1 + sessionIDLen.toNat
            if pos + 2 > data.length then pure none
            else do
              let cipherSuitesLen ← uint16Read data pos
              let pos := pos + 2 + cipherSuitesLen
              if pos + 1 > data.length then pure none
              else do
                let compressionMethodsLen ← index data pos
                let pos := pos + 1 + compressionMethodsLen.toNat
                if pos + 2 > data.length then pure none else pure (some pos)

def checkedSniffTLS (data : Bytes) : Checked Loop Bytes := do
  match ← checkedHello data with
  | none => pure []
  | some pos => do
    let extensionsLen ← uint16Read data pos
    let pos := pos + 2
    let stop := if pos + extensionsLen > data.length then data.length else pos + extensionsLen
    checkedExtensions data stop pos

section Bounds

variable {data : Bytes} {stop pos : ℕ}

theorem byteAt_slice {lo hi i : ℕ} (h : lo + i < hi) :
    byteAt ((data.take hi).drop lo) i = byteAt data (lo + i) := by
  simp [byteAt, List.getElem?_drop, h]

theorem yields_byte (h : pos < data.length) :
    Yields data.length (index data pos : Checked Loop UInt8) (byteAt data pos) := yields_index h

theorem yields_uint16Read (h : pos + 2 ≤ data.length) :
    Yields data.length (uint16Read data pos) (uint16At data pos) := by
  apply (yields_slice (by omega) h).bind
  have hvalue : uint16At ((data.take (pos + 2)).drop pos) 0 = uint16At data pos := by
    have hhigh : byteAt ((data.take (pos + 2)).drop pos) 0 = byteAt data pos :=
      byteAt_slice (by omega)
    have hlow : byteAt ((data.take (pos + 2)).drop pos) (0 + 1) = byteAt data (pos + 1) :=
      byteAt_slice (by omega)
    rw [uint16At, uint16At, hhigh, hlow]
  rw [hvalue]
  exact yields_pure _ _

theorem slice_eq (lo n : ℕ) : (data.take (lo + n)).drop lo = (data.drop lo).take n := by
  rw [List.drop_take]
  simp

/-- A round of the loop over the names reads inside the input before it branches. -/
theorem yields_names_step {name : Bytes} (hstop : stop ≤ data.length) (hin : pos + 3 ≤ stop)
    (h : Yields data.length
      (if byteAt data pos = 0 ∧ pos + 3 + uint16At data (pos + 1) ≤ stop then do
        let name ← slice data (pos + 3) (pos + 3 + uint16At data (pos + 1))
        pure (toLower name)
      else checkedNames data stop (pos + 3 + uint16At data (pos + 1))) name) :
    Yields data.length (checkedNames data stop pos) name := by
  rw [checkedNames, if_pos hin]
  apply (yields_round (by omega)).bind
  apply (yields_byte (by omega)).bind
  apply (yields_uint16Read (by omega)).bind
  exact h

theorem yields_names (hstop : stop ≤ data.length) :
    Yields data.length (checkedNames data stop pos) (sniffNames data stop pos) := by
  fun_induction sniffNames data stop pos with
  | case1 pos hin nameType nameLen hfit =>
    apply yields_names_step hstop hin
    rw [if_pos (show byteAt data pos = 0 ∧ pos + 3 + uint16At data (pos + 1) ≤ stop from hfit)]
    apply (yields_slice (by omega) (by omega)).bind
    rw [slice_eq]
    exact yields_pure _ _
  | case2 pos hin nameType nameLen hfit ih =>
    apply yields_names_step hstop hin
    rw [if_neg (show ¬ (byteAt data pos = 0 ∧ pos + 3 + uint16At data (pos + 1) ≤ stop) from hfit)]
    exact ih
  | case3 pos hin =>
    rw [checkedNames, if_neg hin]
    exact yields_pure _ _

/-- A round of the loop over the extensions reads inside the input before it branches. -/
theorem yields_extensions_step {name : Bytes} (hstop : stop ≤ data.length) (hin : pos + 4 ≤ stop)
    (h : Yields data.length
      (if uint16At data pos = 0x0000 then
        if pos + 4 + 2 ≤ stop then do
          let listLen ← uint16Read data (pos + 4)
          checkedNames data (if pos + 4 + 2 + listLen > stop then stop else pos + 4 + 2 + listLen)
            (pos + 4 + 2)
        else pure []
      else checkedExtensions data stop (pos + 4 + uint16At data (pos + 2))) name) :
    Yields data.length (checkedExtensions data stop pos) name := by
  rw [checkedExtensions, if_pos hin]
  apply (yields_round (by omega)).bind
  apply (yields_uint16Read (by omega)).bind
  apply (yields_uint16Read (by omega)).bind
  exact h

theorem yields_extensions (hstop : stop ≤ data.length) :
    Yields data.length (checkedExtensions data stop pos) (sniffExtensions data stop pos) := by
  fun_induction sniffExtensions data stop pos with
  | case1 pos hin extType hsni hlist listLen sniPos sniEnd =>
    apply yields_extensions_step hstop hin
    rw [if_pos hsni, if_pos hlist]
    apply (yields_uint16Read (by omega)).bind
    apply yields_names
    split <;> omega
  | case2 pos hin extType hsni hlist =>
    apply yields_extensions_step hstop hin
    rw [if_pos hsni, if_neg hlist]
    exact yields_pure _ _
  | case3 pos hin extType extLen hsni ih =>
    apply yields_extensions_step hstop hin
    rw [if_neg hsni]
    exact ih
  | case4 pos hin =>
    rw [checkedExtensions, if_neg hin]
    exact yields_pure _ _

theorem yields_hello (data : Bytes) :
    Yields data.length (checkedHello data) (helloExtensions data) := by
  unfold checkedHello helloExtensions
  by_cases hshort : data.length < 44
  · rw [if_pos hshort, if_pos (.inl hshort)]
    exact yields_pure _ _
  rw [if_neg hshort]
  apply (yields_byte (by omega)).bind
  by_cases htype : byteAt data 0 ≠ 0x16
  · rw [if_pos htype, if_pos (.inr (.inl htype))]
    exact yields_pure _ _
  rw [if_neg htype]
  apply (yields_byte (by omega)).bind
  by_cases hmajor : byteAt data 1 ≠ 0x03
  · rw [if_pos hmajor, if_pos (.inr (.inr hmajor))]
    exact yields_pure _ _
  have hrecord : ¬ (data.length < 44 ∨ byteAt data 0 ≠ 0x16 ∨ byteAt data 1 ≠ 0x03) := by
    rintro (h | h | h)
    · exact hshort h
    · exact htype h
    · exact hmajor h
  rw [if_neg hmajor, if_neg hrecord]
  apply (yields_byte (by omega)).bind
  by_cases hhello : byteAt data 5 ≠ 0x01
  · rw [if_pos hhello, if_pos hhello]
    exact yields_pure _ _
  rw [if_neg hhello, if_neg hhello]
  dsimp only
  rw [if_neg (by omega), if_neg (by omega)]
  apply (yields_byte (by omega)).bind
  by_cases hciphers : 43 + 1 + (byteAt data 43).toNat + 2 > data.length
  · rw [if_pos hciphers, if_pos hciphers]
    exact yields_pure _ _
  rw [if_neg hciphers, if_neg hciphers]
  apply (yields_uint16Read (by omega)).bind
  generalize 43 + 1 + (byteAt data 43).toNat = pos at *
  by_cases hmethods : pos + 2 + uint16At data pos + 1 > data.length
  · rw [if_pos hmethods, if_pos hmethods]
    exact yields_pure _ _
  rw [if_neg hmethods, if_neg hmethods]
  apply (yields_byte (by omega)).bind
  split
  · exact yields_pure _ _
  · exact yields_pure _ _

theorem length_of_helloExtensions (h : helloExtensions data = some pos) : pos + 2 ≤ data.length :=
  (helloExtensions_of_front List.prefix_rfl h).2

theorem yields_sniffTLS (data : Bytes) :
    Yields data.length (checkedSniffTLS data) (sniffTLS data) := by
  apply (yields_hello data).bind
  unfold sniffTLS
  cases hhello : helloExtensions data with
  | none => exact yields_pure _ _
  | some pos =>
    apply (yields_uint16Read (length_of_helloExtensions hhello)).bind
    apply yields_extensions
    split <;> omega

end Bounds

section Rounds

variable {data : Bytes} {stop pos : ℕ}

@[simp] theorem rounds_uint16Read (data : Bytes) (pos : ℕ) (loop : Loop) :
    (uint16Read data pos).rounds loop = [] :=
  rounds_bind_eq_nil (rounds_slice data pos (pos + 2) loop) fun _ => rfl

def Climbs (lo hi : ℕ) (positions : List ℕ) : Prop :=
  positions.Pairwise (· < ·) ∧ ∀ p ∈ positions, lo ≤ p ∧ p < hi

theorem climbs_nil (lo hi : ℕ) : Climbs lo hi [] := ⟨List.Pairwise.nil, by simp⟩

theorem Climbs.cons {lo lo' hi p : ℕ} {positions : List ℕ} (h : Climbs lo' hi positions)
    (hlo : lo ≤ p) (hlo' : p < lo') (hhi : p < hi) : Climbs lo hi (p :: positions) := by
  constructor
  · rw [List.pairwise_cons]
    refine ⟨?_, h.1⟩
    intro q hq
    exact hlo'.trans_le (h.2 q hq).1
  · intro q hq
    rcases List.mem_cons.mp hq with rfl | hq
    · exact ⟨hlo, hhi⟩
    · exact ⟨(hlo.trans hlo'.le).trans (h.2 q hq).1, (h.2 q hq).2⟩

theorem Climbs.weaken {lo lo' hi hi' : ℕ} {positions : List ℕ} (h : Climbs lo' hi' positions)
    (hlo : lo ≤ lo') (hhi : hi' ≤ hi) : Climbs lo hi positions :=
  ⟨h.1, fun p hp => ⟨hlo.trans (h.2 p hp).1, (h.2 p hp).2.trans_le hhi⟩⟩

theorem rounds_names_step (hstop : stop ≤ data.length) (hin : pos + 3 ≤ stop) (loop : Loop) :
    (checkedNames data stop pos).rounds loop =
      (if Loop.names = loop then [pos] else []) ++
        if byteAt data pos = 0 ∧ pos + 3 + uint16At data (pos + 1) ≤ stop then []
        else (checkedNames data stop (pos + 3 + uint16At data (pos + 1))).rounds loop := by
  rw [checkedNames, if_pos hin, (yields_round (n := data.length) (by omega)).rounds_bind,
    (yields_byte (by omega)).rounds_bind, (yields_uint16Read (by omega)).rounds_bind,
    rounds_round, rounds_index, rounds_uint16Read]
  simp only [List.nil_append]
  congr 1
  split
  · rename_i hfit
    rw [(yields_slice (by omega) (by omega)).rounds_bind, rounds_slice, rounds_pure,
      List.append_nil]
  · rfl

theorem rounds_names (hstop : stop ≤ data.length) :
    Climbs pos stop ((checkedNames data stop pos).rounds .names) ∧
      (checkedNames data stop pos).rounds .extensions = [] := by
  fun_induction sniffNames data stop pos with
  | case1 pos hin nameType nameLen hfit =>
    have hfit' : byteAt data pos = 0 ∧ pos + 3 + uint16At data (pos + 1) ≤ stop := hfit
    constructor
    · rw [rounds_names_step hstop hin, if_pos hfit', if_pos rfl]
      exact (climbs_nil (pos + 1) stop).cons le_rfl (by omega) (by omega)
    · rw [rounds_names_step hstop hin, if_pos hfit', if_neg Loop.noConfusion, List.nil_append]
  | case2 pos hin nameType nameLen hfit ih =>
    have hfit' : ¬ (byteAt data pos = 0 ∧ pos + 3 + uint16At data (pos + 1) ≤ stop) := hfit
    constructor
    · rw [rounds_names_step hstop hin, if_neg hfit', if_pos rfl]
      exact ih.1.cons le_rfl (by omega) (by omega)
    · rw [rounds_names_step hstop hin, if_neg hfit', if_neg Loop.noConfusion, List.nil_append]
      exact ih.2
  | case3 pos hin =>
    rw [checkedNames, if_neg hin]
    exact ⟨climbs_nil _ _, rfl⟩

theorem rounds_extensions_step (hstop : stop ≤ data.length) (hin : pos + 4 ≤ stop) (loop : Loop) :
    (checkedExtensions data stop pos).rounds loop =
      (if Loop.extensions = loop then [pos] else []) ++
        if uint16At data pos = 0x0000 then
          if pos + 4 + 2 ≤ stop then
            (checkedNames data (if pos + 4 + 2 + uint16At data (pos + 4) > stop then stop
              else pos + 4 + 2 + uint16At data (pos + 4)) (pos + 4 + 2)).rounds loop
          else []
        else (checkedExtensions data stop (pos + 4 + uint16At data (pos + 2))).rounds loop := by
  rw [checkedExtensions, if_pos hin, (yields_round (n := data.length) (by omega)).rounds_bind,
    (yields_uint16Read (by omega)).rounds_bind, (yields_uint16Read (by omega)).rounds_bind,
    rounds_round, rounds_uint16Read, rounds_uint16Read]
  simp only [List.nil_append]
  congr 1
  split
  · split
    · rw [(yields_uint16Read (by omega)).rounds_bind, rounds_uint16Read, List.nil_append]
    · rfl
  · rfl

theorem rounds_extensions (hstop : stop ≤ data.length) (loop : Loop) :
    Climbs pos stop ((checkedExtensions data stop pos).rounds loop) := by
  fun_induction sniffExtensions data stop pos with
  | case1 pos hin extType hsni hlist listLen sniPos sniEnd =>
    have hsni' : uint16At data pos = 0x0000 := hsni
    rw [rounds_extensions_step hstop hin, if_pos hsni', if_pos hlist]
    have hend : (if pos + 4 + 2 + uint16At data (pos + 4) > stop then stop
        else pos + 4 + 2 + uint16At data (pos + 4)) ≤ stop := by
      split <;> omega
    have hnames := @rounds_names data _ (pos + 4 + 2) (hend.trans hstop)
    cases loop with
    | extensions =>
      rw [if_pos rfl, hnames.2]
      exact (climbs_nil (pos + 1) stop).cons le_rfl (by omega) (by omega)
    | names =>
      have hother : Loop.extensions ≠ .names := by decide
      rw [if_neg hother, List.nil_append]
      exact hnames.1.weaken (by omega) hend
  | case2 pos hin extType hsni hlist =>
    have hsni' : uint16At data pos = 0x0000 := hsni
    rw [rounds_extensions_step hstop hin, if_pos hsni', if_neg hlist, List.append_nil]
    split
    · exact (climbs_nil (pos + 1) stop).cons le_rfl (by omega) (by omega)
    · exact climbs_nil _ _
  | case3 pos hin extType extLen hsni ih =>
    have hsni' : ¬ uint16At data pos = 0x0000 := hsni
    rw [rounds_extensions_step hstop hin, if_neg hsni']
    split
    · exact ih.cons le_rfl (by omega) (by omega)
    · rw [List.nil_append]
      exact ih.weaken (by omega) le_rfl
  | case4 pos hin =>
    rw [checkedExtensions, if_neg hin]
    exact climbs_nil _ _

theorem rounds_hello (data : Bytes) (loop : Loop) : (checkedHello data).rounds loop = [] := by
  -- every test of the header ends the walk or goes on to the next read
  refine rounds_ite_eq_nil rfl ?_
  refine rounds_bind_eq_nil rfl fun recordType => rounds_ite_eq_nil rfl ?_
  refine rounds_bind_eq_nil rfl fun major => rounds_ite_eq_nil rfl ?_
  refine rounds_bind_eq_nil rfl fun handshakeType => rounds_ite_eq_nil rfl ?_
  refine rounds_ite_eq_nil rfl ?_
  refine rounds_bind_eq_nil rfl fun sessionIDLen => rounds_ite_eq_nil rfl ?_
  refine rounds_bind_eq_nil (rounds_uint16Read _ _ _) fun cipherSuitesLen => ?_
  refine rounds_ite_eq_nil rfl ?_
  exact rounds_bind_eq_nil rfl fun compressionMethodsLen => rounds_ite_eq_nil rfl rfl

theorem rounds_sniffTLS (data : Bytes) (loop : Loop) :
    Climbs 0 data.length ((checkedSniffTLS data).rounds loop) := by
  rw [checkedSniffTLS, (yields_hello data).rounds_bind, rounds_hello, List.nil_append]
  cases hhello : helloExtensions data with
  | none => exact climbs_nil _ _
  | some pos =>
    dsimp only
    rw [(yields_uint16Read (length_of_helloExtensions hhello)).rounds_bind, rounds_uint16Read,
      List.nil_append]
    set stop := if pos + 2 + uint16At data pos > data.length then data.length
      else pos + 2 + uint16At data pos with hstop
    have hle : stop ≤ data.length := by
      rw [hstop]
      split <;> omega
    exact (rounds_extensions hle loop).weaken (Nat.zero_le _) hle

end Rounds

/-- `sniffTLS` stays inside its input: whatever the bytes are, it returns, every index and slice
expression it evaluates is in range, and the rounds of each of its loops stand at strictly increasing
positions of the input. -/
theorem sniffTLS_memory_safe (data : Bytes) :
    (checkedSniffTLS data).result = some (sniffTLS data) ∧
      (∀ e ∈ (checkedSniffTLS data).accesses, e.Within data.length) ∧
      ∀ loop, ((checkedSniffTLS data).rounds loop).Pairwise (· < ·) ∧
        ∀ pos ∈ (checkedSniffTLS data).rounds loop, pos < data.length := by
  have hyields := yields_sniffTLS data
  refine ⟨hyields.result, hyields.within, ?_⟩
  intro loop
  have hclimbs := rounds_sniffTLS data loop
  exact ⟨hclimbs.1, fun pos hpos => (hclimbs.2 pos hpos).2⟩

end FoloXray.Netstack
