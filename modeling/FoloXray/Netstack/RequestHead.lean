import FoloXray.Netstack.Sniffer

/-! # Sniffing behind the end of a request head

`sniffHTTP` goes through all lines it was given and does not stop at the empty line that ends the
head of a request.  The lines of the head come first, so the body is heard only if the head has no
Host line at all.
-/

namespace FoloXray.Netstack
open Foundation

/-- A request head: it starts with a recognised method, and its only empty line is its end. -/
structure RequestHead (head : Bytes) : Prop where
  method : methods.any (·.isPrefixOf head) = true
  ends : index (crlf ++ crlf) head = some (head.length - 4)

def HasHost (head : Bytes) : Prop := ∃ line ∈ split crlf head, isHostLine line = true

instance (head : Bytes) : Decidable (HasHost head) :=
  inferInstanceAs (Decidable (∃ line ∈ split crlf head, isHostLine line = true))

section Lines

/-- Behind a string without line end the first line end is the one that is put there. -/
theorem index_append_crlf {line : Bytes} (h : index crlf line = none) (x : Bytes) :
    index crlf (line ++ (crlf ++ x)) = some line.length := by
  have hthere : crlf <+: (line ++ (crlf ++ x)).drop line.length := by
    rw [List.drop_left]
    exact List.prefix_append crlf x
  obtain ⟨i, hle, hi⟩ := exists_index_le hthere
  have hover := index_append_of_none h hi
  have hlen : crlf.length = 2 := rfl
  -- an occurrence that starts in the line would have the carriage return as its second byte
  have hge : line.length ≤ i := by
    by_contra hlt
    have hspec := index_spec hi
    obtain ⟨b, hb⟩ := List.length_eq_one_iff.mp
      (show (line.drop i).length = 1 by rw [List.length_drop]; omega)
    rw [List.drop_append_of_le_length (by omega), hb] at hspec
    exact absurd (List.cons_prefix_cons.mp (List.cons_prefix_cons.mp hspec).2).1 (by decide)
  obtain rfl : i = line.length := by omega
  exact hi

/-- What follows a line end starts a line of its own. -/
theorem split_append_crlf (w : Bytes) :
    ∃ lines, ∀ x, split crlf (w ++ (crlf ++ x)) = lines ++ split crlf x := by
  obtain ⟨parts, last, -, hlast, happend⟩ := split_append crlf_ne_nil w
  refine ⟨parts ++ [last], ?_⟩
  intro x
  have hdrop : (last ++ (crlf ++ x)).drop (last.length + crlf.length) = x := by
    rw [List.drop_append]
    simp
  rw [happend, split_some crlf_ne_nil (index_append_crlf hlast x), List.take_left, hdrop]
  simp

end Lines

theorem isHostLine_nil : isHostLine [] = false := by decide +kernel

section Head

variable {head : Bytes}

/-- The lines of a head, and those of anything that follows it. -/
theorem RequestHead.lines (h : RequestHead head) :
    ∃ lines, (HasHost head ↔ ∃ line ∈ lines, isHostLine line = true) ∧
      ∀ body, split crlf (head ++ body) = lines ++ split crlf body := by
  have hspec := index_spec h.ends
  have hle := index_le h.ends
  have hfour : (crlf ++ crlf).length = 4 := rfl
  have hend : head.drop (head.length - 4) = crlf ++ crlf := by
    symm
    apply hspec.eq_of_length
    rw [List.length_drop]
    omega
  have hcut : head = (head.take (head.length - 4) ++ crlf) ++ crlf := by
    rw [List.append_assoc, ← hend, List.take_append_drop]
  obtain ⟨lines, hlines⟩ := split_append_crlf (head.take (head.length - 4) ++ crlf)
  have hsplit (body : Bytes) : split crlf (head ++ body) = lines ++ split crlf body := by
    rw [← hlines body, ← List.append_assoc, ← hcut]
  refine ⟨lines, ?_, hsplit⟩
  have hhead := hsplit []
  have hempty : split crlf [] = [[]] := split_none rfl
  rw [List.append_nil, hempty] at hhead
  rw [HasHost, hhead]
  simp [or_and_right, exists_or, isHostLine_nil]

theorem sniffDomain_append_of_host {lines : List Bytes} {line : Bytes} (h : RequestHead head)
    (hline : lines.find? isHostLine = some line) {body : Bytes}
    (hsplit : split crlf (head ++ body) = lines ++ split crlf body) :
    sniffDomain (head ++ body) = hostName line := by
  rw [sniffDomain_of_method (methods_append h.method body)]
  apply sniffHTTP_of_find (methods_append h.method body)
  rw [hsplit, List.find?_append, hline, Option.some_or]

/-- A request without Host line in its head is answered by the first Host line of its body. -/
theorem sniffDomain_append_of_no_host {lines : List Bytes} (h : RequestHead head)
    (hlines : lines.find? isHostLine = none) {body : Bytes}
    (hsplit : split crlf (head ++ body) = lines ++ split crlf body) :
    sniffDomain (head ++ body) = ((split crlf body).find? isHostLine).elim [] hostName := by
  have hmethod := methods_append h.method body
  have hfind : (split crlf (head ++ body)).find? isHostLine = (split crlf body).find? isHostLine := by
    rw [hsplit, List.find?_append, hlines, Option.none_or]
  rw [sniffDomain_of_method hmethod, ← hfind]
  cases hline : (split crlf (head ++ body)).find? isHostLine with
  | some line => exact sniffHTTP_of_find hmethod hline
  | none => simp [sniffHTTP, hline]

/-- The sniffed name is the same for every body exactly if the head has a Host line. -/
theorem sniffDomain_ignores_body_iff (h : RequestHead head) :
    (∀ b₁ b₂, sniffDomain (head ++ b₁) = sniffDomain (head ++ b₂)) ↔ HasHost head := by
  obtain ⟨lines, hhost, hsplit⟩ := h.lines
  rw [hhost]
  constructor
  · intro hsame
    by_contra hnone
    have hfind : lines.find? isHostLine = none := by
      rw [List.find?_eq_none]
      intro line hline hhostline
      exact hnone ⟨line, hline, hhostline⟩
    have hbodies := hsame [] (goString "host:x")
    rw [sniffDomain_append_of_no_host h hfind (hsplit _),
      sniffDomain_append_of_no_host h hfind (hsplit _)] at hbodies
    exact absurd hbodies (by decide +kernel)
  · rintro ⟨line, hline, hhostline⟩ b₁ b₂
    have hsome : (lines.find? isHostLine).isSome = true :=
      List.find?_isSome.mpr ⟨line, hline, hhostline⟩
    obtain ⟨first, hfirst⟩ := Option.isSome_iff_exists.mp hsome
    rw [sniffDomain_append_of_host h hfirst (hsplit b₁),
      sniffDomain_append_of_host h hfirst (hsplit b₂)]

end Head

theorem sniffDomain_ignores_body_iff_named :
    sniffDomain (goString "GET / HTTP/1.1\r\nHost: a.example\r\n\r\n" ++ goString "Host: b.example") =
      sniffDomain (goString "GET / HTTP/1.1\r\nHost: a.example\r\n\r\n" ++ []) :=
  (sniffDomain_ignores_body_iff ⟨by decide +kernel, by decide +kernel⟩).mpr (by decide +kernel) _ _

/-- The body of a request without Host line names the host. -/
theorem body_names_host :
    RequestHead (goString "POST / HTTP/1.0\r\n\r\n") ∧
      sniffDomain (goString "POST / HTTP/1.0\r\n\r\n" ++ []) = [] ∧
      sniffDomain (goString "POST / HTTP/1.0\r\n\r\n" ++ goString "Host: b.example") =
        goString "b.example" := by
  refine ⟨⟨by decide +kernel, by decide +kernel⟩, by decide +kernel, by decide +kernel⟩

end FoloXray.Netstack
