import AdminAccess.Text.Form

/-! # Splitting at a separator

The pieces of a text between the occurrences of a separator: a separator in between splits the
pieces of both sides, and a text without separator is one piece.
-/

namespace AdminAccess

namespace Form

variable {separator : Char}

theorem splitOn_first (separator : Char) (chars : List Char) :
    ∃ piece pieces, splitOn separator chars = piece :: pieces := by
  cases chars with
  | nil => exact ⟨[], [], rfl⟩
  | cons c rest =>
      unfold splitOn
      split
      · exact ⟨_, _, rfl⟩
      · split <;> exact ⟨_, _, rfl⟩

theorem splitOn_cons_self (rest : List Char) :
    splitOn separator (separator :: rest) = [] :: splitOn separator rest := by
  simp [splitOn]

theorem splitOn_prefix {before rest piece : List Char} {pieces : List (List Char)}
    (hbefore : separator ∉ before) (hrest : splitOn separator rest = piece :: pieces) :
    splitOn separator (before ++ rest) = (before ++ piece) :: pieces := by
  induction before with
  | nil => exact hrest
  | cons c before ih =>
      have hc : (c == separator) = false :=
        beq_false_of_ne fun heq => hbefore (heq ▸ List.mem_cons_self)
      have hmore := ih fun hmem => hbefore (List.mem_cons_of_mem c hmem)
      simp [splitOn, hc, hmore]

theorem splitOn_of_not_mem {chars : List Char} (h : separator ∉ chars) :
    splitOn separator chars = [chars] := by
  have hnil : splitOn separator [] = [] :: [] := rfl
  simpa using splitOn_prefix h hnil

theorem splitOn_append (before after : List Char) :
    splitOn separator (before ++ separator :: after) =
      splitOn separator before ++ splitOn separator after := by
  induction before with
  | nil => simp [splitOn]
  | cons c before ih =>
      by_cases hc : c = separator
      · rw [hc, List.cons_append, splitOn_cons_self, splitOn_cons_self, ih, List.cons_append]
      · obtain ⟨piece, pieces, hpieces⟩ := splitOn_first separator before
        have hbeq : (c == separator) = false := beq_false_of_ne hc
        simp [splitOn, hbeq, ih, hpieces]

theorem mem_of_mem_splitOn {chars piece : List Char} {c : Char}
    (hpiece : piece ∈ splitOn separator chars) (hc : c ∈ piece) : c ∈ chars ∧ c ≠ separator := by
  induction chars generalizing piece with
  | nil =>
      rw [List.mem_singleton.1 hpiece] at hc
      cases hc
  | cons d rest ih =>
      by_cases hd : d = separator
      · rw [hd, splitOn_cons_self] at hpiece
        rcases List.mem_cons.1 hpiece with rfl | hmem
        · cases hc
        · exact (ih hmem hc).imp_left (List.mem_cons_of_mem d)
      · obtain ⟨first, pieces, hpieces⟩ := splitOn_first separator rest
        have hnot : separator ∉ [d] := fun hmem => hd (List.mem_singleton.1 hmem).symm
        have hsplit := splitOn_prefix hnot hpieces
        rw [List.singleton_append] at hsplit
        rw [hsplit] at hpiece
        rcases List.mem_cons.1 hpiece with rfl | hmem
        · rcases List.mem_cons.1 hc with rfl | hfirst
          · exact ⟨List.mem_cons_self, hd⟩
          · refine (ih ?_ hfirst).imp_left (List.mem_cons_of_mem d)
            rw [hpieces]
            exact List.mem_cons_self
        · refine (ih ?_ hc).imp_left (List.mem_cons_of_mem d)
          rw [hpieces]
          exact List.mem_cons_of_mem first hmem

end Form

end AdminAccess
