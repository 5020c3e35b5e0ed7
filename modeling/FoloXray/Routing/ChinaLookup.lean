import Mathlib.Data.Prod.Lex
import FoloXray.Routing.Matcher

/-! # The lookup of addresses of mainland China

The binary searches of `china_ip.go` look at range ends and test the start of the one range they
stop at.  That is membership in the table only because the committed tables are sorted and disjoint;
both tables are checked here in one pass each.
-/

namespace FoloXray.Routing
open Foundation

-- The rows are reassociated first, so that the evaluation passes each of them once.
theorem chinaIPv4Ranges_ascending : Ascending id chinaIPv4Ranges := by
  apply ascending_of_ascendsFrom (a := 0)
  simp only [chinaIPv4Ranges, List.append_assoc]
  decide +kernel

theorem chinaIPv4Ranges_length : chinaIPv4Ranges.length = 5661 := by
  simp only [chinaIPv4Ranges, List.append_assoc]
  decide +kernel

def chinaIPv6Rows : List (ℕ × ℕ) :=
  chinaIPv6Rows0 ++ chinaIPv6Rows1 ++ chinaIPv6Rows2 ++ chinaIPv6Rows3

theorem chinaIPv6Rows_ascending : Ascending id chinaIPv6Rows := by
  apply ascending_of_ascendsFrom (a := 0)
  decide +kernel

theorem mem_chinaIPv6Ranges {r : (ℕ × ℕ) × (ℕ × ℕ)} :
    r ∈ chinaIPv6Ranges ↔
      ∃ row ∈ chinaIPv6Rows, r = ((row.1, 0), (row.2, 0xffffffffffffffff)) := by
  simp only [chinaIPv6Ranges, chinaIPv6Rows, List.mem_map, eq_comm]

/-- Rows whose high halves ascend are in the order of the whole addresses. -/
theorem chinaIPv6Ranges_ascending : Ascending toLex chinaIPv6Ranges := by
  constructor
  · intro r hr
    obtain ⟨row, hrow, rfl⟩ := mem_chinaIPv6Ranges.mp hr
    have hle := chinaIPv6Rows_ascending.nonempty row hrow
    simp only [id] at hle
    rw [Prod.Lex.toLex_le_toLex]
    rcases hle.lt_or_eq with hlt | heq
    · exact .inl hlt
    · exact .inr ⟨heq, Nat.zero_le _⟩
  · apply List.Pairwise.map _ _ chinaIPv6Rows_ascending.disjoint
    intro row row' hlt
    rw [Prod.Lex.toLex_lt_toLex]
    exact .inl hlt

theorem halvesLe_eq (a b : ℕ × ℕ) : halvesLe a b = decide (toLex a ≤ toLex b) := by
  simp [halvesLe, Prod.Lex.toLex_le_toLex, beq_eq_decide]

theorem search_numbers_iff {rs : List (ℕ × ℕ)} (h : Ascending id rs) (x : ℕ) :
    let idx := sortSearch rs.length fun i => decide (x ≤ (rs.getD i (0, 0)).2)
    (decide (idx < rs.length) && decide ((rs.getD idx (0, 0)).1 ≤ x)) = true ↔
      ∃ r ∈ rs, r.1 ≤ x ∧ x ≤ r.2 := by
  have htest (i : ℕ) : (fun i => decide (x ≤ (rs.getD i (0, 0)).2)) i =
      decide (id x ≤ id (rs.getD i (0, 0)).2) := by
    simp only [id_eq]
  have hsearch := h.search_iff (0, 0) htest
  simpa only [Bool.and_eq_true, decide_eq_true_eq, id_eq] using hsearch

theorem isChinaIPv4_iff (ip : ℕ) :
    isChinaIPv4 ip = true ↔ ∃ r ∈ chinaIPv4Ranges, r.1 ≤ ip ∧ ip ≤ r.2 :=
  search_numbers_iff chinaIPv4Ranges_ascending ip

def halves (ip : Bytes) : ℕ × ℕ := (bigEndian (ip.take 8), bigEndian (ip.drop 8))

theorem isChinaIPv6_iff {ip : Bytes} (hip : ip.length = 16) :
    isChinaIPv6 ip = true ↔
      ∃ r ∈ chinaIPv6Ranges, toLex r.1 ≤ toLex (halves ip) ∧ toLex (halves ip) ≤ toLex r.2 := by
  rw [isChinaIPv6, if_neg (not_not.mpr hip)]
  simp only [Bool.and_eq_true, decide_eq_true_eq]
  rw [halvesLe_eq, decide_eq_true_eq]
  exact chinaIPv6Ranges_ascending.search_iff ((0, 0), (0, 0)) fun _ => halvesLe_eq _ _

theorem to4_of_length {ip : Bytes} (hip : ip.length = 4) : to4 ip = some ip := if_pos hip

theorem to4_mapped {ip : Bytes} (hip : ip.length = 4) : to4 (v4InV6Prefix ++ ip) = some ip := by
  have hlen : (v4InV6Prefix ++ ip).length = 16 := by
    rw [List.length_append, hip]
    rfl
  have htake : (v4InV6Prefix ++ ip).take 12 = v4InV6Prefix := List.take_left' rfl
  have hdrop : (v4InV6Prefix ++ ip).drop 12 = ip := List.drop_left' rfl
  rw [to4, if_neg (by omega), if_pos ⟨hlen, htake⟩, hdrop]

/-- The lookups answer whether the address lies in a range of the tables, in either form of an IPv4
address; the tables themselves are sorted and disjoint. -/
theorem china_lookup_exact :
    (∀ ip : UInt32, isChinaIPv4 ip.toNat = true ↔
      ∃ r ∈ chinaIPv4Ranges, r.1 ≤ ip.toNat ∧ ip.toNat ≤ r.2) ∧
    (∀ ip : Bytes, ip.length = 16 → (isChinaIPv6 ip = true ↔
      ∃ r ∈ chinaIPv6Ranges, toLex r.1 ≤ toLex (halves ip) ∧ toLex (halves ip) ≤ toLex r.2)) ∧
    (∀ ip : Bytes, ip.length = 4 → isChinaIP (some ip) = isChinaIP (some (v4InV6Prefix ++ ip))) ∧
    (chinaIPv4Ranges.length = 5661 ∧ Ascending id chinaIPv4Ranges) ∧
    chinaIPv6Ranges.length = 2013 ∧ Ascending toLex chinaIPv6Ranges := by
  refine ⟨fun ip => isChinaIPv4_iff ip.toNat, fun ip hip => isChinaIPv6_iff hip, ?_,
    ⟨chinaIPv4Ranges_length, chinaIPv4Ranges_ascending⟩, by decide +kernel, chinaIPv6Ranges_ascending⟩
  intro ip hip
  simp only [isChinaIP, to4_of_length hip, to4_mapped hip]

theorem china_lookup_exact_mapped :
    isChinaIP (some [1, 0, 1, 7]) = isChinaIP (some (v4InV6Prefix ++ [1, 0, 1, 7])) :=
  china_lookup_exact.2.2.1 [1, 0, 1, 7] rfl

end FoloXray.Routing
