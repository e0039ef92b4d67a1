import SlideFill.Proofs.Data.Entrywise

/-!
# Issues grouped by section

A rejection reads the section of an issue off its text. Grouping loses no issue and changes none, and the texts of issues
about entries are read as what they are about, whatever the names of the entries are (`grouping_keeps_issues`).
-/

namespace SlideFill

namespace Rejection

/-- The section that an issue is filed under. -/
def sectionOf? (issue : String) : Option DataSection :=
  (filed issue).1

/-- An issue as it was before it was filed under a heading. -/
def restored (heading : Option DataSection) (text : String) : String :=
  match heading with
  | some s => s.name ++ "." ++ text
  | none => text

/-- The texts under a heading. -/
def under (r : Rejection) (heading : Option DataSection) : List String :=
  (r.bySection.lookup heading).getD []

/-- Whether groups hold all of some issues, each once: the headings are distinct and in the order of their first issues, and
under each heading stand the issues of its section in their order. -/
structure IsGrouping (issues : List String) (groups : List (Option DataSection × List String)) : Prop where
  order : groups.map (·.1) = (issues.map sectionOf?).eraseDups
  distinct : (groups.map (·.1)).Nodup
  texts : ∀ g ∈ groups, g.2.map (restored g.1) = issues.filter (sectionOf? · = g.1)
  all : (groups.flatMap fun g => g.2.map (restored g.1)).Perm issues

/-! ## Filing one issue -/

/-- The name of a section is read as that section. -/
theorem ofName?_name (s : DataSection) : DataSection.ofName? s.name = some s := by
  cases s <;> decide

/-- Only the name of a section is read as that section. -/
theorem eq_name_of_ofName? {name : String} {s : DataSection} (h : DataSection.ofName? name = some s) : name = s.name :=
  (beq_iff_eq.mp (List.find?_some (p := (DataSection.name · == name)) h)).symm

/-- An issue that begins with a section and a point and goes on is filed under the section. -/
theorem filed_append (s : DataSection) {rest : String} (h : rest ≠ "") : filed (s.name ++ "." ++ rest) = (some s, rest) := by
  have hplain : s.name.toList.all (· ≠ '.') := by cases s <;> decide
  have hname := List.all_eq_true.mp hplain
  have hchars : (s.name ++ "." ++ rest).toList = s.name.toList ++ '.' :: rest.toList := by
    rw [String.toList_append, String.toList_append, List.append_assoc]
    rfl
  have hbefore : (s.name ++ "." ++ rest).toList.takeWhile (· ≠ '.') = s.name.toList := by
    rw [hchars, List.takeWhile_append_of_pos hname, List.takeWhile_cons_of_neg (by decide), List.append_nil]
  have hbehind : (s.name ++ "." ++ rest).toList.dropWhile (· ≠ '.') = '.' :: rest.toList := by
    rw [hchars, List.dropWhile_append_of_pos hname, List.dropWhile_cons_of_neg (by decide)]
  rw [filed, hbefore, hbehind]
  simp only [String.ofList_toList, ofName?_name, List.drop_succ_cons, List.drop_zero, if_neg h]

/-- An issue either is left as it is or begins with the section that it is filed under. -/
theorem filed_cases (issue : String) :
    filed issue = (none, issue) ∨
      ∃ s rest, rest ≠ "" ∧ issue = DataSection.name s ++ "." ++ rest ∧ filed issue = (some s, rest) := by
  cases hsection : DataSection.ofName? (String.ofList (issue.toList.takeWhile (· ≠ '.'))) with
  | none => exact .inl (by simp only [filed, hsection])
  | some s =>
    cases hbehind : issue.toList.dropWhile (· ≠ '.') with
    | nil =>
      refine .inl ?_
      simp only [filed, hsection, hbehind]
      rfl
    | cons c rest =>
      have hdot : c = '.' := by
        have hnot := List.head?_dropWhile_not (· ≠ '.') issue.toList
        rw [hbehind] at hnot
        simpa using hnot
      have hissue : issue = s.name ++ "." ++ String.ofList rest := by
        have hsplit := List.takeWhile_append_dropWhile (p := (· ≠ '.')) (l := issue.toList)
        rw [hbehind, hdot] at hsplit
        apply String.toList_inj.mp
        rw [← hsplit, ← eq_name_of_ofName? hsection]
        simp only [String.toList_append, String.toList_ofList, List.append_assoc]
        rfl
      by_cases hrest : String.ofList rest = ""
      · refine .inl ?_
        simp only [filed, hsection, hbehind, List.drop_succ_cons, List.drop_zero, if_pos hrest]
      · refine .inr ⟨s, String.ofList rest, hrest, hissue, ?_⟩
        rw [hissue, filed_append s hrest]

/-- An issue is filed under a section exactly if it begins with its name and a point, and goes on. -/
theorem sectionOf?_eq_some_iff {issue : String} {s : DataSection} :
    sectionOf? issue = some s ↔ ∃ rest, rest ≠ "" ∧ issue = s.name ++ "." ++ rest := by
  constructor
  · intro h
    unfold sectionOf? at h
    rcases filed_cases issue with hnone | ⟨s', rest, hne, hissue, hsome⟩
    · rw [hnone] at h
      cases h
    · rw [hsome] at h
      cases h
      exact ⟨rest, hne, hissue⟩
  · rintro ⟨rest, hne, rfl⟩
    rw [sectionOf?, filed_append s hne]

/-- Filing takes nothing away. -/
theorem restored_filed (issue : String) : restored (sectionOf? issue) (filed issue).2 = issue := by
  unfold sectionOf?
  rcases filed_cases issue with hnone | ⟨s, rest, -, hissue, hsome⟩
  · rw [hnone]
    rfl
  · rw [hsome]
    exact hissue.symm

/-! ## Grouping issues -/

/-- The texts that issues have under a heading. -/
def gathered (issues : List String) (heading : Option DataSection) : List String :=
  (issues.filter (sectionOf? · = heading)).map fun issue => (filed issue).2

/-- One more issue is gathered under its heading, behind the others. -/
theorem gathered_concat (issues : List String) (issue : String) (heading : Option DataSection) :
    gathered (issues ++ [issue]) heading =
      if sectionOf? issue = heading then gathered issues heading ++ [(filed issue).2] else gathered issues heading := by
  unfold gathered
  rw [List.filter_append, List.map_append]
  by_cases h : sectionOf? issue = heading
  · simp [h]
  · simp [h]

/-- Nothing is gathered under a heading that no issue has. -/
theorem gathered_of_not_mem {issues : List String} {heading : Option DataSection} (h : heading ∉ issues.map sectionOf?) :
    gathered issues heading = [] := by
  rw [gathered, List.map_eq_nil_iff, List.filter_eq_nil_iff]
  intro issue hissue hsection
  exact h (List.mem_map.mpr ⟨issue, hissue, of_decide_eq_true hsection⟩)

/-- An issue joins the texts under its heading, which comes last if it is new. -/
theorem addTo_gathered (issues : List String) (issue : String) :
    addTo ((issues.map sectionOf?).eraseDups.map fun s => (s, gathered issues s)) (sectionOf? issue) (filed issue).2 =
      ((issues ++ [issue]).map sectionOf?).eraseDups.map fun s => (s, gathered (issues ++ [issue]) s) := by
  rw [List.map_append, List.map_singleton, eraseDups_concat, addTo]
  by_cases hmem : sectionOf? issue ∈ issues.map sectionOf?
  · rw [if_pos (by simpa using hmem), if_pos hmem, List.map_map]
    apply List.map_congr_left
    intro s _
    simp only [Function.comp_apply, gathered_concat, eq_comm (a := s)]
    by_cases hs : sectionOf? issue = s
    · rw [if_pos hs, if_pos hs]
    · rw [if_neg hs, if_neg hs]
  · rw [if_neg (by simpa using hmem), if_neg hmem, List.map_append]
    congr 1
    · apply List.map_congr_left
      intro s hs
      have hne : sectionOf? issue ≠ s := by
        rintro rfl
        exact hmem (List.mem_eraseDups.mp hs)
      rw [gathered_concat, if_neg hne]
    · simp [gathered_concat, gathered_of_not_mem hmem]

/-- The groups of issues: one for each section that occurs, with what is filed under it. -/
theorem bySection_eq (r : Rejection) :
    r.bySection = (r.issues.map sectionOf?).eraseDups.map fun s => (s, gathered r.issues s) := by
  rw [bySection]
  induction r.issues using List.reverseRecOn with
  | nil => rfl
  | append_singleton issues issue ih => rw [List.foldl_append, List.foldl_cons, List.foldl_nil, ih, ← addTo_gathered]; rfl

/-- Put behind their heading again, the texts are the issues that were filed under it. -/
theorem restored_gathered (issues : List String) (heading : Option DataSection) :
    (gathered issues heading).map (restored heading) = issues.filter (sectionOf? · = heading) := by
  rw [gathered, List.map_map]
  calc _ = (issues.filter (sectionOf? · = heading)).map id := by
        apply List.map_congr_left
        intro issue hissue
        have hsection : sectionOf? issue = heading := of_decide_eq_true (List.mem_filter.mp hissue).2
        rw [Function.comp_apply, ← hsection]
        exact restored_filed issue
    _ = issues.filter (sectionOf? · = heading) := List.map_id _

/-- Sorting issues by distinct headings keeps how often each of theirs occurs. -/
theorem count_filtered {headings : List (Option DataSection)} (hnodup : headings.Nodup) (issues : List String)
    (issue : String) : (headings.flatMap fun s => issues.filter (sectionOf? · = s)).count issue =
      if sectionOf? issue ∈ headings then issues.count issue else 0 := by
  induction headings with
  | nil => rfl
  | cons s rest ih =>
    obtain ⟨hs, hrest⟩ := List.nodup_cons.mp hnodup
    rw [List.flatMap_cons, List.count_append, ih hrest]
    by_cases hsection : sectionOf? issue = s
    · subst hsection
      rw [List.count_filter (by simp), if_neg hs, if_pos List.mem_cons_self, Nat.add_zero]
    · have hnot : issue ∉ issues.filter (sectionOf? · = s) := by simp [hsection]
      rw [List.count_eq_zero_of_not_mem hnot, Nat.zero_add]
      simp [hsection]

/-- Every rejection groups its issues faithfully. -/
theorem isGrouping_bySection (r : Rejection) : IsGrouping r.issues r.bySection := by
  have hheadings : r.bySection.map (·.1) = (r.issues.map sectionOf?).eraseDups := by
    rw [bySection_eq, List.map_map]
    exact List.map_id _
  have hnodup := nodup_eraseDups (r.issues.map sectionOf?)
  have htexts : ∀ g ∈ r.bySection, g.2.map (restored g.1) = r.issues.filter (sectionOf? · = g.1) := by
    intro g hg
    rw [bySection_eq] at hg
    obtain ⟨s, -, rfl⟩ := List.mem_map.mp hg
    exact restored_gathered r.issues s
  refine ⟨hheadings, hheadings ▸ hnodup, htexts, ?_⟩
  have hflat : (r.bySection.flatMap fun g => g.2.map (restored g.1)) =
      (r.issues.map sectionOf?).eraseDups.flatMap fun s => r.issues.filter (sectionOf? · = s) := by
    rw [List.flatMap_congr htexts, ← hheadings, List.flatMap_map]
  rw [hflat, List.perm_iff_count]
  intro issue
  rw [count_filtered hnodup]
  by_cases hissue : issue ∈ r.issues
  · rw [if_pos (List.mem_eraseDups.mpr (List.mem_map_of_mem hissue))]
  · rw [List.count_eq_zero_of_not_mem hissue, ite_self]

/-- Each heading is paired with its own value. -/
theorem lookup_map_pair (headings : List (Option DataSection)) (f : Option DataSection → List String)
    (heading : Option DataSection) :
    (headings.map fun s => (s, f s)).lookup heading = if heading ∈ headings then some (f heading) else none := by
  induction headings with
  | nil => rfl
  | cons s rest ih =>
    rw [List.map_cons, List.lookup_cons, ih]
    by_cases h : heading = s
    · simp [h]
    · rw [beq_false_of_ne h]
      simp [h]

/-- Under a heading stands what is gathered there. -/
theorem under_eq (r : Rejection) (heading : Option DataSection) : r.under heading = gathered r.issues heading := by
  rw [under, bySection_eq, lookup_map_pair]
  split
  · rfl
  · rename_i h
    rw [gathered_of_not_mem fun hmem => h (List.mem_eraseDups.mpr hmem)]
    rfl

/-! ## Rejecting again -/

/-- Kept are the trimmed texts that are not empty, and a fallback if all are. -/
theorem kept_eq_ite (texts : List String) :
    kept texts = if ∀ t ∈ texts, Text.trim t = "" then [fallback] else (texts.map Text.trim).filter (· ≠ "") := by
  rw [kept]
  simp

/-- What is kept is trimmed and not empty. -/
theorem mem_kept {texts : List String} {t : String} (h : t ∈ kept texts) : Text.trim t = t ∧ t ≠ "" := by
  unfold kept at h
  simp only at h
  split at h
  · rw [List.mem_singleton.mp h]
    decide +kernel
  · obtain ⟨hmem, hne⟩ := List.mem_filter.mp h
    obtain ⟨s, -, rfl⟩ := List.mem_map.mp hmem
    exact ⟨Text.trim_trim s, of_decide_eq_true hne⟩

/-- Some text is always kept. -/
theorem kept_ne_nil (texts : List String) : kept texts ≠ [] := by
  unfold kept
  simp only
  split
  · exact List.cons_ne_nil _ _
  · rename_i h
    simpa using h

/-- What has been kept is kept. -/
theorem kept_kept (texts : List String) : kept (kept texts) = kept texts := by
  rw [kept_eq (kept_ne_nil texts) fun t ht => by rw [(mem_kept ht).1]; exact (mem_kept ht).2]
  calc (kept texts).map Text.trim = (kept texts).map id := List.map_congr_left fun t ht => (mem_kept ht).1
    _ = kept texts := List.map_id _

/-! ## Data -/

/-- What is reported of an entry is filed under its section, whatever its name is. -/
theorem sectionOf?_of_mem_each {s : DataSection} {j : Json} {t : String} (h : t ∈ reportedEach s j) : sectionOf? t = some s := by
  cases j with
  | object entries =>
    obtain ⟨e, -, he⟩ := List.mem_flatMap.mp h
    rw [reported_alone] at he
    obtain ⟨i, hi, rfl⟩ := List.mem_map.mp he
    obtain ⟨remark, hne, htrim⟩ := Issue.trim_message_remarks (Check.subject_of_mem_entry hi)
    have hrest : e.1 ++ remark ≠ "" := fun hempty => hne (String.append_eq_empty_iff.mp hempty).2
    rw [htrim, Issue.about, String.append_assoc, sectionOf?, filed_append s hrest]
  | _ => cases h

/-- An issue with the shape of a section is filed under no section. -/
theorem sectionOf?_of_mem_shape {s : DataSection} {j : Json} {t : String} (h : t ∈ reportedShape s j) : sectionOf? t = none := by
  have hnone : sectionOf? (s.name ++ " must be an object mapping variable names to values") = none := by
    cases s <;> decide +kernel
  cases j with
  | null => cases h
  | object entries => cases h
  | _ => rwa [List.mem_singleton.mp h]

/-- An issue with unknown sections is filed under no section. -/
theorem sectionOf?_of_mem_unknown {keys : List String} {t : String} (h : t ∈ reportedUnknown keys) : sectionOf? t = none := by
  unfold reportedUnknown at h
  rw [Check.eq_of_mem_unless h]
  rw [Option.eq_none_iff_forall_ne_some]
  intro s hs
  obtain ⟨rest, -, hissue⟩ := sectionOf?_eq_some_iff.mp hs
  have hhead : ("Unsupported top-level keys: " ++ ", ".intercalate keys ++
      " (supported: text, hide, style, images)").toList.head? = some 'U' := by
    rw [String.toList_append, String.toList_append]
    rfl
  rw [hissue, String.toList_append, String.toList_append] at hhead
  cases s <;> cases hhead

/-- Texts that are all filed under one section are found under that heading and under no other. -/
theorem filter_section {texts : List String} {s : Option DataSection} (h : ∀ t ∈ texts, sectionOf? t = s)
    (heading : Option DataSection) : texts.filter (sectionOf? · = heading) = if heading = s then texts else [] := by
  split
  · subst_vars
    exact List.filter_eq_self.mpr fun t ht => decide_eq_true (h t ht)
  · rename_i hne
    exact List.filter_eq_nil_iff.mpr fun t ht => by simpa [h t ht] using Ne.symm hne

/-- Under a section stand the issues of its entries, and under the heading of the data all others. -/
theorem under_of_validate {fields : List (String × Json)} {r : Rejection} (h : validate (.object fields) = .error r) :
    (∀ s : DataSection, (r.under (some s)).map (restored (some s)) = reportedEach s ((fields.lookup s.name).getD .null)) ∧
      r.under none = reportedUnknown (Check.unknownKeys (DataSection.all.map DataSection.name) fields) ++
        DataSection.all.flatMap fun s => reportedShape s ((fields.lookup s.name).getD .null) := by
  have hunder : ∀ heading, (r.under heading).map (restored heading) =
      (reported (.object fields)).filter (sectionOf? · = heading) := by
    intro heading
    rw [under_eq, restored_gathered, reported, h]
  have hunknown : ∀ keys heading, (reportedUnknown keys).filter (sectionOf? · = heading) =
      if heading = none then reportedUnknown keys else [] :=
    fun _ => filter_section fun _ => sectionOf?_of_mem_unknown
  have hshape : ∀ s j heading, (reportedShape s j).filter (sectionOf? · = heading) =
      if heading = none then reportedShape s j else [] :=
    fun _ _ => filter_section fun _ => sectionOf?_of_mem_shape
  have heach : ∀ s j heading, (reportedEach s j).filter (sectionOf? · = heading) =
      if heading = some s then reportedEach s j else [] :=
    fun _ _ => filter_section fun _ => sectionOf?_of_mem_each
  -- Each kind of issue has one heading, whatever the names in it are, so filtering keeps it or drops it as a whole.
  constructor
  · intro s
    rw [hunder, reported_object]
    simp only [List.filter_append, List.filter_flatMap, hunknown, hshape, heach]
    cases s <;> simp [DataSection.all]
  · have hnone := hunder none
    have hid : restored none = id := rfl
    rw [hid, List.map_id] at hnone
    rw [hnone, reported_object]
    simp only [List.filter_append, List.filter_flatMap, hunknown, hshape, heach]
    simp

/-- What is kept of some texts are the trimmed ones that are not empty, or one text alone if all are blank. A rejection
groups all of it and changes none of it, and made again from its issues it has the same issues and groups. In the rejection
of data, the issues of an entry stand under its section, whatever its name is, and those of unknown keys and of sections
that are no objects under the heading of the data. -/
theorem grouping_keeps_issues :
    (∀ (texts : List String) (source : Option Path),
      ((ofTexts texts source).issues =
        if ∀ t ∈ texts, Text.trim t = "" then [fallback] else (texts.map Text.trim).filter (· ≠ "")) ∧
      IsGrouping (ofTexts texts source).issues (ofTexts texts source).bySection ∧
      ∀ source' : Option Path,
        (ofTexts (ofTexts texts source).issues source').issues = (ofTexts texts source).issues ∧
        (ofTexts (ofTexts texts source).issues source').bySection = (ofTexts texts source).bySection) ∧
    ∀ (fields : List (String × Json)) (r : Rejection), validate (.object fields) = .error r →
      (∀ s : DataSection,
        (r.under (some s)).map (restored (some s)) = reportedEach s ((fields.lookup s.name).getD .null)) ∧
      r.under none = reportedUnknown (Check.unknownKeys (DataSection.all.map DataSection.name) fields) ++
        DataSection.all.flatMap fun s => reportedShape s ((fields.lookup s.name).getD .null) := by
  refine ⟨fun texts source => ⟨kept_eq_ite texts, isGrouping_bySection _, fun source' => ?_⟩,
    fun fields r => under_of_validate⟩
  have hissues : (ofTexts (ofTexts texts source).issues source').issues = (ofTexts texts source).issues := kept_kept texts
  exact ⟨hissues, by rw [bySection, bySection, hissues]⟩

/-- Data with a key that is no section, a section that is no object, and entries whose names look like sections. -/
def misleadingFields : List (String × Json) :=
  [("text", .object [("style.a", .null), ("", .object [])]), ("hide", .object [("data", .null)]), ("style", .bool true),
    ("images.b", .null)]

/-- Names that look like issues of other sections mislead the filing of none. -/
theorem grouping_keeps_issues_misleading :
    ∃ r, validate (.object misleadingFields) = .error r ∧
      (r.under (some .text)).map (restored (some .text)) =
        ["text.style.a must be a string or a number", "text. must be a string or a number"] ∧
      (r.under (some .hide)).map (restored (some .hide)) =
        ["hide.data must be a boolean or a list of argument strings"] ∧
      r.under none = ["Unsupported top-level keys: images.b (supported: text, hide, style, images)",
        "style must be an object mapping variable names to values"] := by
  obtain ⟨r, hr⟩ : ∃ r, validate (.object misleadingFields) = .error r := by
    rcases validate_cases (.object misleadingFields) with ⟨hnil, -⟩ | ⟨-, herror⟩
    · exact absurd hnil (by decide +kernel)
    · exact ⟨_, herror⟩
  obtain ⟨hsections, hdata⟩ := grouping_keeps_issues.2 misleadingFields r hr
  exact ⟨r, hr, (hsections .text).trans (by decide +kernel), (hsections .hide).trans (by decide +kernel),
    hdata.trans (by decide +kernel)⟩

end Rejection

end SlideFill
