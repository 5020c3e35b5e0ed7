import FoloXray.Foundation.RubyString

/-! # Normalising the static library

The Ruby line of `build_slice` in `folo_build_xcframework.sh`: it walks the members of an `ar` archive
by the sizes in their headers and blanks the date of each.  On a well-formed archive it meets every
header and nothing else.
-/

namespace FoloXray.Release
open Foundation Ruby

inductive ArchiveError where
  | notArchive
  | truncatedHeader
  | indexError
  deriving DecidableEq, Repr

def arMagic : Bytes := goString "!<arch>\n"

def blankDate : Bytes := ljust (goString "0") 12

/-- The loop over the headers, for `fuel` rounds; without a result if they do not suffice.  The offset
is an integer as the sizes it grows by are. -/
def normaliseLoop : (fuel : ℕ) → (bytes : Bytes) → (offset : ℤ) → Option (Except ArchiveError Bytes)
  | 0, _, _ => none
  | fuel + 1, bytes, offset =>
    if offset < bytes.length then
      if offset + 60 > bytes.length then some (.error .truncatedHeader)
      else
        -- the slice is nil only at an offset below the string, and `nil.to_i` is zero
        let size := (byteslice bytes (offset + 48) 10).elim 0 toI
        match assign bytes (offset + 16) 12 blankDate with
        | none => some (.error .indexError)
        | some bytes =>
          let offset := offset + (60 + size)
          normaliseLoop fuel bytes (if offset % 2 = 1 then offset + 1 else offset)
    else some (.ok bytes)

def normaliseArchive (fuel : ℕ) (bytes : Bytes) : Option (Except ArchiveError Bytes) :=
  if arMagic.isPrefixOf bytes then normaliseLoop fuel bytes 8 else some (.error .notArchive)

/-- A member of an archive: a header of 60 bytes with the size of the data in decimal, the data, and a
byte of padding if their number is odd. -/
structure Member where
  name : Bytes
  date : Bytes
  owner : Bytes
  size : Bytes
  terminator : Bytes
  data : Bytes
  pad : Bytes
  name_length : name.length = 16
  date_length : date.length = 12
  owner_length : owner.length = 20
  size_length : size.length = 10
  terminator_length : terminator.length = 2
  size_value : DecimalField size data.length
  pad_length : pad.length = data.length % 2

/-- What follows the date. -/
def Member.body (m : Member) : Bytes := m.owner ++ (m.size ++ (m.terminator ++ (m.data ++ m.pad)))

def Member.bytes (m : Member) : Bytes := m.name ++ (m.date ++ m.body)

def memberBytes (members : List Member) : Bytes := members.flatMap Member.bytes

def archive (members : List Member) : Bytes := arMagic ++ memberBytes members

def Member.blanked (m : Member) : Member := { m with date := blankDate, date_length := by decide }

def Member.length (m : Member) : ℕ := 60 + m.data.length + m.pad.length

/-- The position lies in a date field of one of the members that start at the offset. -/
def InDate : (offset : ℕ) → List Member → ℕ → Prop
  | _, [], _ => False
  | offset, m :: members, i => offset + 16 ≤ i ∧ i < offset + 28 ∨ InDate (offset + m.length) members i

def AgreeOutsideDates (members members' : List Member) : Prop :=
  (archive members).length = (archive members').length ∧
    ∀ i, ¬ InDate 8 members i → ¬ InDate 8 members' i → (archive members)[i]? = (archive members')[i]?

section Members

variable (m : Member)

theorem Member.length_body : m.body.length = 32 + m.data.length + m.pad.length := by
  simp only [body, List.length_append, m.owner_length, m.size_length, m.terminator_length]
  omega

theorem Member.length_bytes : m.bytes.length = m.length := by
  simp only [bytes, List.length_append, m.length_body, m.name_length, m.date_length, Member.length]
  omega

theorem Member.length_blanked : m.blanked.length = m.length := rfl

theorem Member.length_mod_two : m.length % 2 = 0 := by
  have hpad := m.pad_length
  unfold Member.length
  omega

theorem Member.le_length : 60 ≤ m.length := by
  unfold Member.length
  omega

theorem memberBytes_cons (members : List Member) :
    memberBytes (m :: members) = m.bytes ++ memberBytes members := rfl

theorem length_memberBytes_cons (members : List Member) :
    (memberBytes (m :: members)).length = m.length + (memberBytes members).length := by
  rw [memberBytes_cons, List.length_append, m.length_bytes]

theorem getElem?_memberBytes_cons (members : List Member) (i : ℕ) :
    (memberBytes (m :: members))[m.length + i]? = (memberBytes members)[i]? := by
  have hle : m.bytes.length ≤ m.length + i := by
    rw [m.length_bytes]
    exact Nat.le_add_right _ _
  rw [memberBytes_cons, List.getElem?_append_right hle, m.length_bytes, Nat.add_sub_cancel_left]

end Members

theorem InDate.le {offset : ℕ} {members : List Member} {i : ℕ} (h : InDate offset members i) :
    offset + 16 ≤ i := by
  induction members generalizing offset with
  | nil => exact h.elim
  | cons m members ih =>
    rcases h with h | h
    · exact h.1
    · have := ih h
      omega

section Rounds

variable (m : Member) (front rest : Bytes)

/-- The parts of a header and the data, behind what is in front of them. -/
theorem Member.standsAt_parts :
    StandsAt (m.bytes ++ rest) 0 m.name ∧ StandsAt (m.bytes ++ rest) 28 m.owner ∧
      StandsAt (m.bytes ++ rest) 48 m.size ∧ StandsAt (m.bytes ++ rest) 58 m.terminator ∧
      StandsAt (m.bytes ++ rest) 60 m.data ∧ StandsAt (m.bytes ++ rest) (60 + m.data.length) m.pad := by
  have hall := standsAt_zero m.bytes rest
  simp only [bytes, body, standsAt_append, m.name_length, m.date_length, m.owner_length, m.size_length,
    m.terminator_length, Nat.zero_add, Nat.reduceAdd] at hall
  obtain ⟨hname, -, howner, hsize, hterminator, hdata, hpad⟩ := hall
  exact ⟨hname, howner, hsize, hterminator, hdata, hpad⟩

theorem standsAt_behind {data w : Bytes} {i : ℕ} (h : StandsAt data i w) :
    StandsAt (front ++ data) (front.length + i) w := by
  obtain ⟨u, v, rfl, rfl⟩ := h
  exact ⟨front ++ u, v, (List.append_assoc _ _ _).symm, List.length_append⟩

theorem toI_size : (byteslice (front ++ (m.bytes ++ rest)) (front.length + 48 : ℕ) 10).elim 0 toI =
    m.data.length := by
  have hsize := standsAt_behind front (m.standsAt_parts rest).2.2.1
  have hslice := byteslice_standsAt hsize
  rw [m.size_length] at hslice
  rw [hslice, Option.elim_some, toI_decimalField m.size_value]

theorem assign_blankDate :
    assign (front ++ (m.bytes ++ rest)) (front.length + 16 : ℕ) 12 blankDate =
      some (front ++ (m.blanked.bytes ++ rest)) := by
  have h := @assign_append m.date blankDate (front ++ m.name) (m.body ++ rest)
  rw [List.length_append, m.name_length, m.date_length] at h
  simpa only [Member.bytes, Member.blanked, Member.body, List.append_assoc] using h

/-- One round blanks the date of the member at the offset and ends up at the next member. -/
theorem normaliseLoop_member (heven : front.length % 2 = 0) (fuel : ℕ) :
    normaliseLoop (fuel + 1) (front ++ (m.bytes ++ rest)) (front.length : ℕ) =
      normaliseLoop fuel (front ++ m.blanked.bytes ++ rest) ((front ++ m.blanked.bytes).length : ℕ) := by
  have hlen : (front ++ (m.bytes ++ rest)).length = front.length + m.length + rest.length := by
    rw [List.length_append, List.length_append, m.length_bytes, Nat.add_assoc]
  have hlong := m.le_length
  have hnext : (front ++ m.blanked.bytes).length = front.length + m.length := by
    rw [List.length_append, m.blanked.length_bytes, m.length_blanked]
  have hpad := m.pad_length
  have hsize := toI_size m front rest
  have hassign := assign_blankDate m front rest
  push_cast at hsize hassign
  rw [normaliseLoop, if_pos (by omega), if_neg (by omega), hsize, hassign]
  dsimp only
  rw [List.append_assoc]
  congr 1
  rw [hnext, Member.length]
  split
  · omega
  · omega

end Rounds

/-- With a round for each member and one more the loop ends, with every date blanked. -/
theorem normaliseLoop_members (members : List Member) {front : Bytes} (heven : front.length % 2 = 0)
    {fuel : ℕ} (hfuel : members.length < fuel) :
    normaliseLoop fuel (front ++ memberBytes members) (front.length : ℕ) =
      some (.ok (front ++ memberBytes (members.map Member.blanked))) := by
  induction members generalizing front fuel with
  | nil =>
    obtain ⟨fuel, rfl⟩ := Nat.exists_eq_succ_of_ne_zero (Nat.ne_of_gt hfuel)
    rw [normaliseLoop]
    exact if_neg (by simp [memberBytes])
  | cons m members ih =>
    obtain ⟨fuel, rfl⟩ := Nat.exists_eq_succ_of_ne_zero (Nat.ne_of_gt (Nat.zero_lt_of_lt hfuel))
    have heven' : (front ++ m.blanked.bytes).length % 2 = 0 := by
      rw [List.length_append, m.blanked.length_bytes]
      have := m.blanked.length_mod_two
      omega
    have hrest := ih heven' (Nat.lt_of_succ_lt_succ hfuel)
    rw [memberBytes_cons, normaliseLoop_member m front _ heven, hrest, List.map_cons, memberBytes_cons,
      List.append_assoc]

theorem normaliseArchive_archive (members : List Member) {fuel : ℕ} (hfuel : members.length < fuel) :
    normaliseArchive fuel (archive members) = some (.ok (archive (members.map Member.blanked))) := by
  have hmagic : arMagic.isPrefixOf (archive members) = true :=
    List.isPrefixOf_iff_prefix.mpr (List.prefix_append _ _)
  rw [normaliseArchive, if_pos hmagic]
  exact normaliseLoop_members members (by decide) hfuel

theorem length_memberBytes_blanked (members : List Member) :
    (memberBytes (members.map Member.blanked)).length = (memberBytes members).length := by
  induction members with
  | nil => rfl
  | cons m members ih =>
    rw [List.map_cons, length_memberBytes_cons, length_memberBytes_cons, ih, m.length_blanked]

theorem memberBytes_blanked {offset i : ℕ} {members : List Member}
    (h : ¬ InDate offset members (offset + i)) :
    (memberBytes (members.map Member.blanked))[i]? = (memberBytes members)[i]? := by
  induction members generalizing offset i with
  | nil => rfl
  | cons m members ih =>
    rw [InDate, not_or] at h
    rw [List.map_cons, memberBytes_cons, memberBytes_cons]
    by_cases hi : i < m.length
    · rw [List.getElem?_append_left (by rw [m.blanked.length_bytes]; exact hi),
        List.getElem?_append_left (by rw [m.length_bytes]; exact hi)]
      apply getElem?_replace
      · exact m.blanked.date_length.trans m.date_length.symm
      · rw [m.blanked.name_length, m.blanked.date_length]
        omega
    · have hi' : m.length ≤ i := not_lt.mp hi
      rw [List.getElem?_append_right (by rw [m.blanked.length_bytes]; exact hi'),
        List.getElem?_append_right (by rw [m.length_bytes]; exact hi'), m.blanked.length_bytes,
        m.length_bytes, m.length_blanked]
      apply ih
      rw [show offset + m.length + (i - m.length) = offset + i by omega]
      exact h.2

theorem length_archive_blanked (members : List Member) :
    (archive (members.map Member.blanked)).length = (archive members).length := by
  rw [archive, archive, List.length_append, List.length_append, length_memberBytes_blanked]

theorem archive_blanked {members : List Member} {i : ℕ} (h : ¬ InDate 8 members i) :
    (archive (members.map Member.blanked))[i]? = (archive members)[i]? := by
  have hmagic : arMagic.length = 8 := by decide
  rw [archive, archive]
  by_cases hi : i < arMagic.length
  · rw [List.getElem?_append_left hi, List.getElem?_append_left hi]
  · rw [List.getElem?_append_right (not_lt.mp hi), List.getElem?_append_right (not_lt.mp hi), hmagic]
    apply @memberBytes_blanked 8
    rw [Nat.add_sub_cancel' (by omega)]
    exact h

theorem Member.length_eq_of_size {m m' : Member} (h : m.size = m'.size) :
    m.data.length = m'.data.length ∧ m.pad.length = m'.pad.length := by
  have hvalue := toI_decimalField m.size_value
  rw [h, toI_decimalField m'.size_value] at hvalue
  have hdata : m.data.length = m'.data.length := by omega
  exact ⟨hdata, by rw [m.pad_length, m'.pad_length, hdata]⟩

/-- Members that agree outside of their dates are equal once these are blanked.  That they agree behind
the header is known once their lengths are. -/
theorem Member.blanked_bytes_eq {m m' : Member} {rest rest' : Bytes}
    (hheader : ∀ i, i < 16 ∨ 28 ≤ i → i < 60 → (m.bytes ++ rest)[i]? = (m'.bytes ++ rest')[i]?)
    (hdata : m.length = m'.length → ∀ i, 60 ≤ i → i < m.length →
      (m.bytes ++ rest)[i]? = (m'.bytes ++ rest')[i]?) :
    m.blanked.bytes = m'.blanked.bytes ∧ m.length = m'.length := by
  obtain ⟨sname, sowner, ssize, sterminator, sdata, spad⟩ := m.standsAt_parts rest
  obtain ⟨sname', sowner', ssize', sterminator', sdata', spad'⟩ := m'.standsAt_parts rest'
  -- a part of the header that keeps clear of the date
  have hfield {i n : ℕ} {w w' : Bytes} (hw : w.length = n) (hw' : w'.length = n) (hend : i + n ≤ 60)
      (hout : i + n ≤ 16 ∨ 28 ≤ i) (h : StandsAt (m.bytes ++ rest) i w)
      (h' : StandsAt (m'.bytes ++ rest') i w') : w = w' := by
    apply h.eq_of_agree h' (hw.trans hw'.symm)
    intro j hlo hj
    rw [hw] at hj
    exact hheader j (by omega) (by omega)
  have hname := hfield m.name_length m'.name_length (by decide) (by decide) sname sname'
  have howner := hfield m.owner_length m'.owner_length (by decide) (by decide) sowner sowner'
  have hsize := hfield m.size_length m'.size_length (by decide) (by decide) ssize ssize'
  have hterminator :=
    hfield m.terminator_length m'.terminator_length (by decide) (by decide) sterminator sterminator'
  obtain ⟨hdataLength, hpadLength⟩ := Member.length_eq_of_size hsize
  have hlength : m.length = m'.length := by rw [Member.length, Member.length, hdataLength, hpadLength]
  have hdata := hdata hlength
  unfold Member.length at hdata
  have hbytes : m.data = m'.data := by
    apply sdata.eq_of_agree sdata' hdataLength
    intro i hlo hi
    exact hdata i (by omega) (by omega)
  have hpad : m.pad = m'.pad := by
    rw [← hdataLength] at spad'
    apply spad.eq_of_agree spad' hpadLength
    intro i hlo hi
    exact hdata i (by omega) (by omega)
  refine ⟨?_, hlength⟩
  simp only [bytes, blanked, body, hname, howner, hsize, hterminator, hbytes, hpad]

/-- Two member lists that agree outside of the dates are equal once these are blanked. -/
theorem memberBytes_eq_of_agree {offset : ℕ} {members members' : List Member}
    (hlen : (memberBytes members).length = (memberBytes members').length)
    (h : ∀ i, ¬ InDate offset members (offset + i) → ¬ InDate offset members' (offset + i) →
      (memberBytes members)[i]? = (memberBytes members')[i]?) :
    memberBytes (members.map Member.blanked) = memberBytes (members'.map Member.blanked) := by
  induction members generalizing offset members' with
  | nil =>
    cases members' with
    | nil => rfl
    | cons m' members' =>
      rw [length_memberBytes_cons] at hlen
      have := m'.le_length
      exact absurd hlen (by simp only [memberBytes, List.flatMap_nil, List.length_nil]; omega)
  | cons m members ih =>
    cases members' with
    | nil =>
      rw [length_memberBytes_cons] at hlen
      have := m.le_length
      exact absurd hlen (by simp only [memberBytes, List.flatMap_nil, List.length_nil]; omega)
    | cons m' members' =>
      have hm := m.le_length
      have hm' := m'.le_length
      -- a later date lies behind the member by more than a name
      have hpart (i : ℕ) (hout : i < 16 ∨ 28 ≤ i) (hi : i < m.length) (hi' : i < m'.length) :
          (m.bytes ++ memberBytes members)[i]? = (m'.bytes ++ memberBytes members')[i]? := by
        apply h
        · rintro (hdate | hlater)
          · omega
          · have := hlater.le
            omega
        · rintro (hdate | hlater)
          · omega
          · have := hlater.le
            omega
      obtain ⟨hbytes, hlength⟩ : m.blanked.bytes = m'.blanked.bytes ∧ m.length = m'.length := by
        apply Member.blanked_bytes_eq
        · exact fun i hout hi => hpart i hout (by omega) (by omega)
        · exact fun hlength i hlo hi => hpart i (by omega) hi (by omega)
      rw [length_memberBytes_cons, length_memberBytes_cons] at hlen
      have hrest : memberBytes (members.map Member.blanked) =
          memberBytes (members'.map Member.blanked) := by
        apply @ih (offset + m.length) members' (by omega)
        intro i hi hi'
        have hshift : offset + m.length + i = offset + (m.length + i) := Nat.add_assoc _ _ _
        rw [← getElem?_memberBytes_cons m members, ← getElem?_memberBytes_cons m' members', ← hlength]
        apply h
        · rintro (hdate | hlater)
          · omega
          · exact hi (hshift ▸ hlater)
        · rintro (hdate | hlater)
          · omega
          · rw [← hlength] at hlater
            exact hi' (hshift ▸ hlater)
      rw [List.map_cons, List.map_cons, memberBytes_cons, memberBytes_cons, hbytes, hrest]

/-- Two normalised archives are equal exactly if the archives agree outside of their dates. -/
theorem archive_blanked_eq_iff {members members' : List Member} :
    archive (members.map Member.blanked) = archive (members'.map Member.blanked) ↔
      AgreeOutsideDates members members' := by
  have hmagic : arMagic.length = 8 := by decide
  constructor
  · intro heq
    constructor
    · rw [← length_archive_blanked, heq, length_archive_blanked]
    · intro i hi hi'
      rw [← archive_blanked hi, heq, archive_blanked hi']
  · rintro ⟨hlen, h⟩
    rw [archive, archive]
    congr 1
    apply @memberBytes_eq_of_agree 8
    · simpa only [archive, List.length_append, Nat.add_left_cancel_iff] using hlen
    · intro i hi hi'
      have hget := h (8 + i) hi hi'
      rw [archive, archive, List.getElem?_append_right (by omega),
        List.getElem?_append_right (by omega), hmagic, Nat.add_sub_cancel_left] at hget
      exact hget

/-- On a well-formed archive the normaliser ends, keeps every byte outside of the dates, changes nothing
the second time, and leaves two archives equal exactly if they agree outside of their dates. -/
theorem archive_normalised (members : List Member) :
    ∃ result, (∀ fuel, members.length < fuel →
        normaliseArchive fuel (archive members) = some (.ok result) ∧
        normaliseArchive fuel result = some (.ok result)) ∧
      result.length = (archive members).length ∧
      (∀ i, ¬ InDate 8 members i → result[i]? = (archive members)[i]?) ∧
      ∀ members' fuel fuel', members.length < fuel → members'.length < fuel' →
        (normaliseArchive fuel (archive members) = normaliseArchive fuel' (archive members') ↔
          AgreeOutsideDates members members') := by
  refine ⟨archive (members.map Member.blanked), ?_, length_archive_blanked members,
    fun i => archive_blanked, ?_⟩
  · intro fuel hfuel
    refine ⟨normaliseArchive_archive members hfuel, ?_⟩
    rw [normaliseArchive_archive (members.map Member.blanked) (by rw [List.length_map]; exact hfuel),
      List.map_map]
    rfl
  · intro members' fuel fuel' hfuel hfuel'
    rw [normaliseArchive_archive members hfuel, normaliseArchive_archive members' hfuel',
      Option.some.injEq, Except.ok.injEq, archive_blanked_eq_iff]

/-- A member of one byte, with the given date in its header. -/
def smallMember (date : Bytes) (h : date.length = 12) : Member where
  name := ljust (goString "a.o/") 16
  date := date
  owner := ljust (goString "501   20    100644") 20
  size := ljust (goString "1") 10
  terminator := [0x60, 0x0a]
  data := [0xfe]
  pad := [0x0a]
  name_length := by decide
  date_length := h
  owner_length := by decide
  size_length := by decide
  terminator_length := rfl
  size_value := ⟨0, [0x31], 9, by decide, by decide, List.forall_mem_singleton.mpr (by decide), by decide⟩
  pad_length := rfl

/-- Two builds of one object at different times come out the same. -/
theorem archive_normalised_builds :
    normaliseArchive 2 (archive [smallMember (ljust (goString "1700000000") 12) (by decide)]) =
      normaliseArchive 2 (archive [smallMember (ljust (goString "1700000001") 12) (by decide)]) := by
  obtain ⟨result, -, -, -, h⟩ :=
    archive_normalised [smallMember (ljust (goString "1700000000") 12) (by decide)]
  refine (h _ 2 2 (by decide) (by decide)).mpr (archive_blanked_eq_iff.mp rfl)

end FoloXray.Release
