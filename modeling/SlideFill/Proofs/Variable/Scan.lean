import Mathlib.Data.List.Infix
import SlideFill.Proofs.Variable.Grammar
import SlideFill.Proofs.Variable.Occurrences

/-!
# What the scan for variables finds

The scan tries each offset that it does not skip, so what it finds at an offset is what the text starts with there
(`lead?_of_mem_occurrencesFrom`), and an offset at which it finds nothing is no start of a variable or lies within one
that it has found (`occurrencesFrom_covers`). `scan_finds_variables` puts this in terms of stretches of the text and of
reading whole texts.
-/

namespace SlideFill

namespace Variable

/-- The stretch of a text from the character at one offset up to that at another. -/
def stretch (t : String) (i j : Nat) : String :=
  String.ofList ((t.toList.drop i).take (j - i))

/-! ## Where the scan finds something -/

/-- What follows a variable is what is left once the characters before it are dropped. -/
theorem drop_of_lead? {c : Char} {cs rest : List Char} {v : Variable} (h : lead? (c :: cs) = some (v, rest)) :
    cs.drop (cs.length - rest.length) = rest := by
  obtain ⟨s, hs, -⟩ := lead?_eq_some_iff.mp h
  rw [Spelled.toList_text, List.cons_append, List.cons.injEq] at hs
  obtain ⟨-, rfl⟩ := hs
  rw [List.length_append, Nat.add_sub_cancel, List.drop_left]

/-- What a text starts with at an occurrence is the same, whether or not a character before the occurrence is counted. -/
theorem lead?_drop_cons {i : Nat} {c : Char} {rest : List Char} {o : Occurrence} (hstart : i + 1 ≤ o.start)
    (hstop : i + 1 ≤ o.stop)
    (h : lead? (rest.drop (o.start - (i + 1))) = some (o.var, rest.drop (o.stop - (i + 1)))) :
    lead? ((c :: rest).drop (o.start - i)) = some (o.var, (c :: rest).drop (o.stop - i)) := by
  rw [show o.start - i = o.start - (i + 1) + 1 by omega, show o.stop - i = o.stop - (i + 1) + 1 by omega]
  exact h

/-- What the scan finds is what the text starts with there. -/
theorem lead?_of_mem_occurrencesFrom (i skip : Nat) (cs : List Char) :
    ∀ o ∈ occurrencesFrom i skip cs, lead? (cs.drop (o.start - i)) = some (o.var, cs.drop (o.stop - i)) := by
  fun_induction occurrencesFrom i skip cs with
  | case1 => simp
  | case2 i skip c rest ih =>
    intro o ho
    have hbounds := occurrencesFrom_bounds _ _ _ o ho
    exact lead?_drop_cons (by omega) (by omega) (ih o ho)
  | case3 i c rest hnone ih =>
    intro o ho
    have hbounds := occurrencesFrom_bounds _ _ _ o ho
    exact lead?_drop_cons (by omega) (by omega) (ih o ho)
  | case4 i c rest v after hfound width ih =>
    intro o ho
    rcases List.mem_cons.mp ho with rfl | ho
    · simp only [Nat.sub_self, List.drop_zero, show i + 1 + width - i = width + 1 by omega, List.drop_succ_cons]
      rw [drop_of_lead? hfound]
      exact hfound
    · have hbounds := occurrencesFrom_bounds _ _ _ o ho
      exact lead?_drop_cons (by omega) (by omega) (ih o ho)

/-- No start of a variable is missed, unless it is skipped or within a variable that has been found. -/
theorem occurrencesFrom_covers (i skip : Nat) (cs : List Char) :
    ∀ k, skip ≤ k → (lead? (cs.drop k)).isSome → ∃ o ∈ occurrencesFrom i skip cs, o.start ≤ i + k ∧ i + k < o.stop := by
  -- Where the scan skips, it is within an occurrence; so what could be read there is covered by that one.
  fun_induction occurrencesFrom i skip cs with
  | case1 =>
    intro k _ h
    rw [List.drop_nil] at h
    cases h
  | case2 i skip c rest ih =>
    intro k hk h
    obtain ⟨k, rfl⟩ : ∃ k', k = k' + 1 := ⟨k - 1, by omega⟩
    rw [List.drop_succ_cons] at h
    obtain ⟨o, ho, hstart, hstop⟩ := ih k (by omega) h
    exact ⟨o, ho, by omega, by omega⟩
  | case3 i c rest hnone ih =>
    intro k _ h
    cases k with
    | zero => simp [hnone] at h
    | succ k =>
      obtain ⟨o, ho, hstart, hstop⟩ := ih k (Nat.zero_le k) h
      exact ⟨o, ho, by omega, by omega⟩
  | case4 i c rest v after hfound width ih =>
    intro k _ h
    by_cases hk : k ≤ width
    · refine ⟨_, List.mem_cons_self, ?_, ?_⟩
      · exact Nat.le_add_right i k
      · change i + k < i + 1 + width
        omega
    · obtain ⟨k, rfl⟩ : ∃ k', k = k' + 1 := ⟨k - 1, by omega⟩
      obtain ⟨o, ho, hstart, hstop⟩ := ih k (by omega) h
      exact ⟨o, List.mem_cons_of_mem _ ho, by omega, by omega⟩

/-! ## Stretches that spell variables -/

/-- A stretch that spells a variable is what the rest of the text starts with. -/
theorem lead?_of_parse?_stretch {t : String} {i j : Nat} {v : Variable} (h : parse? (stretch t i j) = some v) :
    lead? (t.toList.drop i) = some (v, (t.toList.drop i).drop (j - i)) := by
  obtain ⟨s, htext, rfl⟩ := parse?_eq_some_iff.mp h
  rw [lead?_eq_some_iff]
  refine ⟨s, ?_, rfl⟩
  rw [htext, stretch, String.toList_ofList, List.take_append_drop]

/-- A stretch that spells a variable is not empty and starts within the text. -/
theorem bounds_of_parse?_stretch {t : String} {i j : Nat} {v : Variable} (h : parse? (stretch t i j) = some v) :
    i < j ∧ i < t.length := by
  obtain ⟨s, htext, -⟩ := parse?_eq_some_iff.mp h
  have hpos : 0 < s.text.toList.length := by
    rw [Spelled.toList_text]
    exact Nat.succ_pos _
  rw [htext, stretch, String.toList_ofList, List.length_take, List.length_drop, String.length_toList] at hpos
  omega

/-- What is read between two offsets is a variable by itself. -/
theorem parse?_stretch_of_lead? {t : String} {i j : Nat} {v : Variable} (hij : i ≤ j) (hj : j ≤ t.length)
    (h : lead? (t.toList.drop i) = some (v, t.toList.drop j)) : parse? (stretch t i j) = some v := by
  obtain ⟨s, htext, rfl⟩ := lead?_eq_some_iff.mp h
  refine parse?_eq_some_iff.mpr ⟨s, ?_, rfl⟩
  have hlength : s.text.toList.length = j - i := by
    have := congrArg List.length htext
    simp only [List.length_append, List.length_drop, String.length_toList] at this ⊢
    omega
  rw [stretch, ← htext, List.take_left' hlength, String.ofList_toList]

/-- Stretches from one offset on that spell variables end at the same offset; an end behind the text is the end of the
text. -/
theorem stretch_end_unique {t : String} {i j j' : Nat} {v v' : Variable} (h : parse? (stretch t i j) = some v)
    (h' : parse? (stretch t i j') = some v') : min j t.length = min j' t.length := by
  have hlead := lead?_of_parse?_stretch h
  rw [lead?_of_parse?_stretch h'] at hlead
  have hrest := congrArg List.length (Prod.mk.inj (Option.some.inj hlead)).2
  have hbounds := bounds_of_parse?_stretch h
  have hbounds' := bounds_of_parse?_stretch h'
  simp only [List.length_drop, String.length_toList] at hrest
  omega

/-- A variable starts with `$/`, so a text without these has no occurrences. -/
theorem occurrences_of_unmarked {t : String} (h : ¬['$', '/'] <:+: t.toList) : occurrences t = [] := by
  rw [List.eq_nil_iff_forall_not_mem]
  intro o ho
  obtain ⟨s, htext, -⟩ := lead?_eq_some_iff.mp (lead?_of_mem_occurrencesFrom 0 0 t.toList o ho)
  rw [Spelled.toList_text] at htext
  have hmark : ['$', '/'] <+: t.toList.drop (o.start - 0) := ⟨_, htext⟩
  exact h (hmark.isInfix.trans (List.drop_suffix (o.start - 0) t.toList).isInfix)

/-- The scan for variables finds stretches of the text that are not empty, in order and apart, and that spell the
variables it reports. From one offset on, a single stretch spells a variable (an end behind the text counts as that of
the text); and wherever one starts, a stretch that is found has started and not ended. To scan no text but such as hold
`$/` comes to the same. -/
theorem scan_finds_variables (t : String) :
    ((occurrences t).Pairwise fun a b => a.stop ≤ b.start) ∧
    (∀ o ∈ occurrences t, o.start < o.stop ∧ o.stop ≤ t.length ∧ parse? (stretch t o.start o.stop) = some o.var) ∧
    (∀ i j j', (parse? (stretch t i j)).isSome → (parse? (stretch t i j')).isSome →
      min j t.length = min j' t.length) ∧
    (∀ i j, (parse? (stretch t i j)).isSome → ∃ o ∈ occurrences t, o.start ≤ i ∧ i < o.stop) ∧
    (if ['$', '/'] <:+: t.toList then occurrences t else []) = occurrences t := by
  refine ⟨occurrences_pairwise t, ?_, ?_, ?_, ?_⟩
  · intro o ho
    obtain ⟨hne, hstop⟩ := occurrences_bounds ho
    have hlead := lead?_of_mem_occurrencesFrom 0 0 t.toList o ho
    exact ⟨hne, hstop, parse?_stretch_of_lead? (Nat.le_of_lt hne) hstop hlead⟩
  · intro i j j' h h'
    obtain ⟨v, hv⟩ := Option.isSome_iff_exists.mp h
    obtain ⟨v', hv'⟩ := Option.isSome_iff_exists.mp h'
    exact stretch_end_unique hv hv'
  · intro i j h
    obtain ⟨v, hv⟩ := Option.isSome_iff_exists.mp h
    have hlead : (lead? (t.toList.drop i)).isSome := by
      rw [lead?_of_parse?_stretch hv]
      rfl
    obtain ⟨o, ho, hstart, hstop⟩ := occurrencesFrom_covers 0 0 t.toList i (Nat.zero_le i) hlead
    exact ⟨o, ho, by omega, by omega⟩
  · split
    · rfl
    · rename_i h
      exact (occurrences_of_unmarked h).symm

/-- In `$/x $/b/` the scan finds a variable named `x $`, and the start of another one lies within it. -/
theorem scan_finds_variables_nested :
    (⟨0, 6, ⟨"x $", none⟩⟩ ∈ occurrences "$/x $/b/" ∧
      parse? (stretch "$/x $/b/" 0 6) = some ⟨"x $", none⟩) ∧
    ((parse? (stretch "$/x $/b/" 4 8)).isSome ∧ ∃ o ∈ occurrences "$/x $/b/", o.start ≤ 4 ∧ 4 < o.stop) ∧
    ((parse? (stretch "$/x $/b/" 4 9)).isSome ∧ min 8 8 = min 9 8) := by
  have h := scan_finds_variables "$/x $/b/"
  have hfound : ⟨0, 6, ⟨"x $", none⟩⟩ ∈ occurrences "$/x $/b/" := by decide +kernel
  have hwithin : (parse? (stretch "$/x $/b/" 4 8)).isSome := by decide +kernel
  have hbehind : (parse? (stretch "$/x $/b/" 4 9)).isSome := by decide +kernel
  exact ⟨⟨hfound, (h.2.1 _ hfound).2.2⟩, ⟨hwithin, h.2.2.2.1 4 8 hwithin⟩, hbehind, h.2.2.1 4 8 9 hwithin hbehind⟩

end Variable

end SlideFill
