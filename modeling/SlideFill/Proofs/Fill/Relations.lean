import SlideFill.Fill.Package
import SlideFill.Proofs.Fill.Directives
import SlideFill.Proofs.Fill.Secrecy
import SlideFill.Proofs.Lists

/-!
# What is hidden stays among the relations

A fill takes what is hidden off the slides, and keeps what it related to: the images of hidden pictures and the addresses
in the text of hidden boxes stay in the package. `fill_alike` says that this is all that can tell apart what becomes of
two packages that differ in what is hidden only. The books of addresses are compared loss by loss
(`AddressBook.count_after`), and what is lost is accounted for against the links that there are (`Slide.count_losses`).
-/

namespace SlideFill

/-! ## Address books -/

/-- The address to which a link is lost. -/
def LinkLoss.address : LinkLoss → String
  | .cleared a => a
  | .removed a => a

namespace AddressBook

variable {linked linked' : List String} {book book' : AddressBook} {a : String}

/-- Losing a link takes it out of the links that there are, whether or not its address is struck out. -/
theorem lose_linked (linked : List String) (book : AddressBook) (loss : LinkLoss) :
    (lose (linked, book) loss).1 = linked.erase loss.address := by
  cases loss <;> rfl

/-- What becomes of an address depends on how often it is linked to and how often it stands in the book. -/
theorem count_lose (loss : LinkLoss) (hlinked : linked.count a = linked'.count a)
    (hbook : book.count a = book'.count a) :
    (lose (linked, book) loss).1.count a = (lose (linked', book') loss).1.count a ∧
      (lose (linked, book) loss).2.count a = (lose (linked', book') loss).2.count a := by
  refine ⟨by rw [lose_linked, lose_linked, List.count_erase, List.count_erase, hlinked], ?_⟩
  cases loss with
  | cleared b =>
    by_cases hb : b = a
    · rw [hb]
      simp only [lose, hlinked]
      split
      · rw [List.count_erase_self, List.count_erase_self, hbook]
      · exact hbook
    · have herase : ∀ (n : Nat) (bk : AddressBook), (if n < 2 then bk.erase b else bk).count a = bk.count a := by
        intro n bk
        split
        · exact List.count_erase_of_ne (Ne.symm hb)
        · rfl
      simp only [lose, herase, hbook]
  | removed b => exact hbook

/-- The same losses leave an address as often in both books if it was linked to and stood there as often before. -/
theorem count_after (losses : List LinkLoss) (hlinked : linked.count a = linked'.count a)
    (hbook : book.count a = book'.count a) :
    (losses.foldl lose (linked, book)).2.count a = (losses.foldl lose (linked', book')).2.count a := by
  induction losses generalizing linked linked' book book' with
  | nil => exact hbook
  | cons loss rest ih =>
    obtain ⟨hlinked, hbook⟩ := count_lose loss hlinked hbook
    exact ih hlinked hbook

/-- Losing a link strikes its address out only if it is the last one to it. -/
theorem mem_lose {loss : LinkLoss} (hmem : a ∈ book) (hlinked : loss.address = a → 1 < linked.count a) :
    a ∈ (lose (linked, book) loss).2 := by
  cases loss with
  | cleared b =>
    simp only [lose]
    by_cases hb : b = a
    · have hleft : ¬linked.count b < 2 := hb ▸ Nat.not_lt.mpr (hlinked hb)
      rwa [if_neg hleft]
    · split
      · exact (List.mem_erase_of_ne (Ne.symm hb)).mpr hmem
      · exact hmem
  | removed b => exact hmem

/-- An address that has more links than are lost stays in the book. -/
theorem mem_after_of_linked (losses : List LinkLoss) (hmem : a ∈ book)
    (hlinked : (losses.map LinkLoss.address).count a < linked.count a) : a ∈ (losses.foldl lose (linked, book)).2 := by
  induction losses generalizing linked book with
  | nil => exact hmem
  | cons loss rest ih =>
    rw [List.map_cons, List.count_cons] at hlinked
    have hleft : (rest.map LinkLoss.address).count a < (lose (linked, book) loss).1.count a := by
      rw [lose_linked, List.count_erase]
      omega
    refine ih (mem_lose hmem fun hloss => ?_) hleft
    rw [hloss, beq_self_eq_true, if_pos rfl] at hlinked
    omega

end AddressBook

variable {m : Mapping}

/-! ## Links of runs -/

/-- Following the link of a run clears it if it is a directive that can be followed, unless the run takes its paragraph
along. -/
theorem Run.direct_link (m : Mapping) (alone : Bool) (r : Run) :
    (r.direct m alone).after.link =
      if r.variable?.isNone || (r.styleFault? m).isSome || (alone && r.isHidden m) then r.link else none := by
  rw [direct_eq, styleFault?, isHidden]
  cases r.variable? with
  | none => rfl
  | some v =>
    cases hs : (m.restyle v r.font).2 with
    | some e => simp [hs]
    | none => cases hh : m.hides v <;> cases alone <;> simp [hs, hh]

namespace Item

/-- The address that an item links to once its own link has been followed. -/
def keptAddress? (m : Mapping) (alone : Bool) (item : Item) : Option String :=
  (item.direct m alone).after.address?

/-- The address that an item loses when its link is followed. -/
def clearedAddress? (m : Mapping) (alone : Bool) (item : Item) : Option String :=
  item.lostAddress? (item.direct m alone).after

/-- Blanking keeps the address that an item links to. -/
theorem blank_address (m : Mapping) (item : Item) : (item.blank m).address? = item.address? := by
  cases item with
  | run r => rw [blank, address?, address?, Run.blank_link]
  | lineBreak => rfl
  | field text => rfl

/-- What an item links to once its link has been followed does not depend on its text. -/
theorem blank_keptAddress (m : Mapping) (alone : Bool) (item : Item) :
    (item.blank m).keptAddress? m alone = item.keptAddress? m alone := by
  cases item with
  | run r =>
    have hlink : ((r.blank m).direct m alone).after.link = (r.direct m alone).after.link := by
      rw [Run.direct_link, Run.direct_link, Run.blank_variable, Run.blank_styleFault, Run.blank_isHidden, Run.blank_link]
    exact congrArg (fun link : Option Link => link.bind Link.address?) hlink
  | lineBreak => rfl
  | field text => rfl

/-- What an item loses when its link is followed does not depend on its text. -/
theorem blank_clearedAddress (m : Mapping) (alone : Bool) (item : Item) :
    (item.blank m).clearedAddress? m alone = item.clearedAddress? m alone := by
  have hkept : ((item.blank m).direct m alone).after.address? = (item.direct m alone).after.address? :=
    item.blank_keptAddress m alone
  rw [clearedAddress?, clearedAddress?, lostAddress?, lostAddress?, hkept, blank_address]

/-- The address of an item is either cleared or kept. -/
theorem address_split (m : Mapping) (alone : Bool) (item : Item) :
    item.address? = (item.clearedAddress? m alone).or (item.keptAddress? m alone) ∧
      (item.keptAddress? m alone = none ∨ item.clearedAddress? m alone = none) := by
  have hkept : item.keptAddress? m alone = item.address? ∨ item.keptAddress? m alone = none := by
    cases item with
    | run r =>
      rw [keptAddress?, direct, Passage.mapAfter, address?, Run.direct_link]
      split
      · exact .inl rfl
      · exact .inr rfl
    | lineBreak => exact .inl rfl
    | field text => exact .inl rfl
  have hcleared : item.clearedAddress? m alone = if (item.keptAddress? m alone).isSome then none else item.address? := rfl
  rw [hcleared]
  rcases hkept with h | h
  · cases ha : item.address? <;> simp [h, ha]
  · simp [h]

end Item

/-! ## Paragraphs and bodies of text -/

namespace Paragraph

/-- The addresses whose links are cleared when the links of a paragraph are followed. -/
def clearedAddresses (m : Mapping) (p : Paragraph) : List String :=
  p.items.filterMap (Item.clearedAddress? m (p.runs.length == 1))

/-- The addresses that the runs of a paragraph link to once their links have been followed. -/
def keptAddresses (m : Mapping) (p : Paragraph) : List String :=
  p.items.filterMap (Item.keptAddress? m (p.runs.length == 1))

/-- The links that filling a paragraph loses: cleared ones and, if it goes, those that are left. -/
def removedAddresses (m : Mapping) (p : Paragraph) : List String :=
  if p.isDoomed m then p.keptAddresses m else []

/-- Which links of a paragraph are cleared does not depend on what is hidden in it. -/
theorem blank_clearedAddresses (m : Mapping) (p : Paragraph) : (p.blank m).clearedAddresses m = p.clearedAddresses m := by
  rw [clearedAddresses, blank_runs, List.length_map, blank, List.filterMap_map, clearedAddresses]
  exact List.filterMap_congr fun item _ => item.blank_clearedAddress m _

/-- Which links of a paragraph are kept does not depend on what is hidden in it. -/
theorem blank_keptAddresses (m : Mapping) (p : Paragraph) : (p.blank m).keptAddresses m = p.keptAddresses m := by
  rw [keptAddresses, blank_runs, List.length_map, blank, List.filterMap_map, keptAddresses]
  exact List.filterMap_congr fun item _ => item.blank_keptAddress m _

/-- Which links go with a paragraph does not depend on what is hidden in it. -/
theorem blank_removedAddresses (m : Mapping) (p : Paragraph) :
    (p.blank m).removedAddresses m = p.removedAddresses m := by
  rw [removedAddresses, blank_isDoomed, blank_keptAddresses, removedAddresses]

/-- Blanking keeps the addresses that a paragraph links to. -/
theorem blank_addresses (m : Mapping) (p : Paragraph) : (p.blank m).addresses = p.addresses := by
  rw [addresses, blank, List.filterMap_map, addresses]
  exact List.filterMap_congr fun item _ => item.blank_address m

/-- Every link of a paragraph is either cleared or kept. -/
theorem count_addresses (m : Mapping) (p : Paragraph) (a : String) :
    (p.clearedAddresses m).count a + (p.keptAddresses m).count a = p.addresses.count a := by
  unfold clearedAddresses keptAddresses addresses
  generalize (p.runs.length == 1) = alone
  induction p.items with
  | nil => rfl
  | cons item rest ih =>
    obtain ⟨hsplit, hone⟩ := item.address_split m alone
    rw [List.filterMap_cons, List.filterMap_cons, List.filterMap_cons, hsplit]
    rcases hone with h | h
    · rw [h, Option.or_none]
      cases item.clearedAddress? m alone with
      | none => exact ih
      | some b =>
        simp only [List.count_cons]
        omega
    · rw [h, Option.none_or]
      cases item.keptAddress? m alone with
      | none => exact ih
      | some b =>
        simp only [List.count_cons]
        omega

/-- Substituting changes no link. -/
theorem substitute_addresses (m : Mapping) (p : Paragraph) :
    (p.substitute m).after.items.map Item.address? = p.items.map Item.address? :=
  map_updateTexts (fun r text => congrArg (Option.bind · Link.address?) (r.updateText_link text)) _ _

/-- A paragraph that is filled links to what its items are left with. -/
theorem fill_addresses {p : Paragraph} (h : (p.fill m).outcome.isOk) :
    (p.fill m).after.items.map Item.address? = p.items.map (Item.keptAddress? m (p.runs.length == 1)) := by
  rw [fill_after h, substitute_addresses, directed_eq_map (fill_isOk_iff.mp h).1, List.map_map]
  rfl

/-- Items that are known to link to something else afterwards have lost the addresses that they linked to before. -/
theorem lostAddresses_of_map {f : Item → Option String} {before after : List Item}
    (h : after.map Item.address? = before.map f) :
    (before.zip after).filterMap (fun (b, a) => (b.lostAddress? a).map LinkLoss.cleared) =
      (before.filterMap fun b => if (f b).isSome then none else b.address?).map .cleared := by
  induction before generalizing after with
  | nil => rfl
  | cons b before ih =>
    cases after with
    | nil => cases h
    | cons a after =>
      obtain ⟨ha, hafter⟩ := List.cons.inj h
      have hlost : b.lostAddress? a = if (f b).isSome then none else b.address? := by rw [Item.lostAddress?, ha]
      rw [List.zip_cons_cons, List.filterMap_cons, List.filterMap_cons, ih hafter]
      simp only [hlost]
      cases f b <;> cases b.address? <;> rfl

/-- A paragraph that is filled has lost the links that are cleared. -/
theorem fill_lostAddresses {p : Paragraph} (h : (p.fill m).outcome.isOk) :
    (p.items.zip (p.fill m).after.items).filterMap (fun (b, a) => (b.lostAddress? a).map LinkLoss.cleared) =
      (p.clearedAddresses m).map .cleared :=
  lostAddresses_of_map (fill_addresses h)

/-- Filling paragraphs loses no more links than they have. -/
theorem count_lostAddresses (m : Mapping) (body : List Paragraph) (a : String) :
    (body.flatMap (clearedAddresses m) ++ body.flatMap (removedAddresses m)).count a ≤
      (body.flatMap addresses).count a := by
  induction body with
  | nil => exact le_rfl
  | cons p rest ih =>
    have hp := p.count_addresses m a
    have hremoved : (p.removedAddresses m).count a ≤ (p.keptAddresses m).count a := by
      rw [removedAddresses]
      split
      · exact le_rfl
      · exact Nat.zero_le _
    simp only [List.flatMap_cons, List.count_append] at ih ⊢
    omega

end Paragraph

/-- The links that a body of text loses when it is filled: those of its runs first, then those in paragraphs that go. -/
theorem bodyLosses_eq {body : List Paragraph} (h : ∀ p ∈ body, (p.fill m).outcome.isOk) :
    bodyLosses m body =
      (body.flatMap (Paragraph.clearedAddresses m)).map .cleared ++
        (body.flatMap (Paragraph.removedAddresses m)).map .removed := by
  have hok := Passage.each_isOk_iff.mpr h
  obtain ⟨flags, hflags⟩ := isOk_iff.mp hok
  have hresults := Passage.each_results Paragraph.fill_result hflags
  rw [bodyLosses]
  simp only [hflags, Passage.each_after hok, hresults, List.zip_map', List.flatMap_map, List.map_flatMap]
  congr 1
  · have hzip : body.zip (body.map fun p => (p.fill m).after) = body.map fun p => (p, (p.fill m).after) := by
      conv_lhs => rw [← List.map_id body, List.map_map, List.zip_map']
      rfl
    rw [hzip, List.flatMap_map]
    exact List.flatMap_congr fun p hp => Paragraph.fill_lostAddresses (h p hp)
  · apply List.flatMap_congr
    intro p hp
    have hkept : (p.fill m).after.addresses = p.keptAddresses m := by
      have hitems := congrArg (List.filterMap id) (Paragraph.fill_addresses (h p hp))
      rwa [List.filterMap_map, List.filterMap_map, Function.id_comp, Function.id_comp] at hitems
    rw [Paragraph.removedAddresses, hkept]
    cases p.isDoomed m <;> rfl

/-- The links that a body of text loses do not depend on what is hidden in it. -/
theorem bodyLosses_blank {body : List Paragraph} (h : ∀ p ∈ body, (p.fill m).outcome.isOk) :
    bodyLosses m (body.map (Paragraph.blank m)) = bodyLosses m body := by
  have hblank : ∀ p ∈ body.map (Paragraph.blank m), (p.fill m).outcome.isOk := by
    rw [List.forall_mem_map]
    exact fun p hp => (Paragraph.fill_isOk_blank.mp (h p hp)).1
  rw [bodyLosses_eq h, bodyLosses_eq hblank]
  simp only [List.flatMap_map, Paragraph.blank_clearedAddresses, Paragraph.blank_removedAddresses]

/-- A body of text loses no more links than it has. -/
theorem count_bodyLosses {body : List Paragraph} (h : ∀ p ∈ body, (p.fill m).outcome.isOk) (a : String) :
    ((bodyLosses m body).map LinkLoss.address).count a ≤ (body.flatMap Paragraph.addresses).count a := by
  have hlosses : (bodyLosses m body).map LinkLoss.address =
      body.flatMap (Paragraph.clearedAddresses m) ++ body.flatMap (Paragraph.removedAddresses m) := by
    rw [bodyLosses_eq h, List.map_append, List.map_map, List.map_map]
    exact congrArg₂ (· ++ ·) (List.map_id _) (List.map_id _)
  rw [hlosses]
  exact Paragraph.count_lostAddresses m body a

/-! ## Shapes -/

/-- The losses along a list in which all work succeeds. -/
theorem lossesAlong_of_succeeds {α : Type} {succeeds : α → Bool} {losses : α → List LinkLoss} {xs : List α}
    (h : ∀ x ∈ xs, succeeds x) : lossesAlong succeeds losses xs = xs.flatMap losses := by
  induction xs with
  | nil => rfl
  | cons x rest ih =>
    obtain ⟨hx, hrest⟩ := List.forall_mem_cons.mp h
    rw [lossesAlong, if_pos hx, ih hrest, List.flatMap_cons]

namespace Shape

/-- The addresses that are linked to in the text of a shape that is hidden. -/
def hiddenAddresses (m : Mapping) (s : Shape) : List String :=
  if s.isHidden m then s.paragraphs.flatMap Paragraph.addresses else []

/-- The images of a shape that is hidden. -/
def hiddenImages (m : Mapping) (s : Shape) : List EncodedImage :=
  if s.isHidden m then s.images else []

/-- A table is never hidden. -/
@[simp]
theorem hiddenAddresses_table (m : Mapping) (t : Table) : (Shape.table t).hiddenAddresses m = [] :=
  rfl

/-- A picture has no text to be hidden. -/
@[simp]
theorem hiddenAddresses_picture (m : Mapping) (p : Picture) : (Shape.picture p).hiddenAddresses m = [] :=
  ite_self _

/-- A connector has no text to be hidden. -/
@[simp]
theorem hiddenAddresses_connector (m : Mapping) (id : Nat) (name : String) :
    (Shape.connector id name).hiddenAddresses m = [] :=
  rfl

/-- The text of a group is not filled, so none of it is hidden. -/
@[simp]
theorem hiddenAddresses_group (m : Mapping) (id : Nat) (name : String) (children : List Shape) :
    (Shape.group id name children).hiddenAddresses m = [] :=
  rfl

end Shape

/-- The links that a table loses when it is filled. -/
theorem Table.losses_eq {t : Table} (h : (t.fill m).outcome.isOk) :
    (Shape.table t).losses m = t.rows.flatten.flatMap fun cell => bodyLosses m (cell.getD []) := by
  apply lossesAlong_of_succeeds
  intro cell hcell
  obtain ⟨row, hrow, hcell⟩ := List.mem_flatten.mp hcell
  have hrows : (Passage.each (Passage.each (fillCell m)) t.rows).outcome.isOk := by simpa [fill] using h
  exact Passage.each_isOk_iff.mp (Passage.each_isOk_iff.mp hrows row hrow) cell hcell

namespace Shape

/-- The links that a shape loses do not depend on what is hidden in it. -/
theorem losses_blank {s : Shape} (h : (s.fill m).outcome.isOk) : (s.blank m).losses m = s.losses m := by
  obtain ⟨hlink, hparagraphs⟩ := fill_isOk_iff.mp h
  -- Only a box can be hidden along with a text, and a box that is hidden loses no link in its text.
  cases s with
  | text box =>
    obtain ⟨v, hv⟩ := isOk_iff.mp hlink
    have hv : shapeVariable box.link = .ok v := hv
    have hhidden : (Shape.text box).isHidden m = v.any m.hides := by rw [isHidden, link, linkVariable?_of_ok hv]
    cases v with
    | none =>
      have hbody : bodyLosses m (box.body.map (Paragraph.blank m)) = bodyLosses m box.body :=
        bodyLosses_blank (hparagraphs hhidden)
      simpa only [blank, losses, hv, hhidden, Option.any_none, Bool.false_eq_true, if_false] using hbody
    | some v =>
      cases hh : m.hides v with
      | true => simp only [blank, losses, hv, hh, if_true]
      | false =>
        have hshown : (Shape.text box).isHidden m = false := hhidden.trans hh
        have hbody : bodyLosses m (box.body.map (Paragraph.blank m)) = bodyLosses m box.body :=
          bodyLosses_blank (hparagraphs hshown)
        simp only [blank, losses, hv, hh, hshown, hbody, Bool.false_eq_true, if_false]
  | table t =>
    have hblank : (Table.fill m { t with rows := t.rows.map (List.map (Option.map (List.map (Paragraph.blank m)))) }).outcome.isOk :=
      (fill_isOk_blank.mp h).1
    rw [blank, Table.losses_eq hblank, Table.losses_eq h, ← List.map_flatten, List.flatMap_map]
    apply List.flatMap_congr
    intro cell hcell
    cases cell with
    | none => rfl
    | some body =>
      have hbody : ∀ p ∈ body, (p.fill m).outcome.isOk := fun p hp =>
        hparagraphs rfl p (List.mem_flatMap.mpr ⟨some body, hcell, hp⟩)
      exact bodyLosses_blank hbody
  | picture p => rfl
  | connector id name => rfl
  | group id name children => rfl

/-- A shape loses no more links than it has outside its hidden text. -/
theorem count_losses {s : Shape} (h : (s.fill m).outcome.isOk) (a : String) :
    ((s.losses m).map LinkLoss.address).count a + (s.hiddenAddresses m).count a ≤ s.addresses.count a := by
  obtain ⟨hlink, hparagraphs⟩ := fill_isOk_iff.mp h
  have hown : ∀ link : Option Link, (ownLoss link).map LinkLoss.address = (link.bind Link.address?).toList := by
    intro link
    cases hl : link.bind Link.address? <;> simp [ownLoss, hl, LinkLoss.address]
  -- What a hidden box has in its text is not lost, so it adds to what is lost of all others.
  cases s with
  | text box =>
    obtain ⟨v, hv⟩ := isOk_iff.mp hlink
    have hv : shapeVariable box.link = .ok v := hv
    have hhidden : (Shape.text box).isHidden m = v.any m.hides := by rw [isHidden, link, linkVariable?_of_ok hv]
    rw [addresses, List.count_append, hiddenAddresses, hhidden]
    cases v with
    | none =>
      have hbody := count_bodyLosses (hparagraphs hhidden) a
      simp only [losses, hv, Option.any_none, Bool.false_eq_true, if_false, List.count_nil]
      exact Nat.le_add_left_of_le hbody
    | some v =>
      cases hh : m.hides v with
      | true => simp [losses, hv, hh, hown, paragraphs]
      | false =>
        have hbody := count_bodyLosses (hparagraphs (hhidden.trans hh)) a
        simpa [losses, hv, hh, hown, paragraphs] using hbody
  | table t =>
    rw [hiddenAddresses_table, Table.losses_eq h, addresses, List.map_flatMap]
    refine count_flatMap_le fun cell hcell => count_bodyLosses (fun p hp => ?_) a
    exact hparagraphs rfl p (List.mem_flatMap.mpr ⟨cell, hcell, hp⟩)
  | picture p =>
    rw [hiddenAddresses_picture, addresses, losses]
    split
    · rw [hown]
      exact le_rfl
    · exact Nat.zero_le _
  | connector id name => exact Nat.zero_le _
  | group id name children => exact Nat.zero_le _

/-- Blanking takes the addresses in hidden text away and no others. -/
theorem count_addresses_blank (m : Mapping) (s : Shape) (a : String) :
    (s.blank m).addresses.count a + (s.hiddenAddresses m).count a = s.addresses.count a := by
  have hbody : ∀ body : List Paragraph,
      (body.map (Paragraph.blank m)).flatMap Paragraph.addresses = body.flatMap Paragraph.addresses := by
    intro body
    rw [List.flatMap_map]
    exact List.flatMap_congr fun p _ => p.blank_addresses m
  cases s with
  | text box =>
    cases hhidden : (Shape.text box).isHidden m with
    | true => simp [blank, addresses, hiddenAddresses, hhidden, paragraphs]
    | false => simp [blank, addresses, hiddenAddresses, hhidden, hbody]
  | table t =>
    have hcells : (t.rows.map (List.map (Option.map (List.map (Paragraph.blank m))))).flatten.flatMap
        (fun cell => (cell.getD []).flatMap Paragraph.addresses) =
          t.rows.flatten.flatMap fun cell => (cell.getD []).flatMap Paragraph.addresses := by
      rw [← List.map_flatten, List.flatMap_map]
      apply List.flatMap_congr
      intro cell _
      cases cell with
      | none => rfl
      | some body => exact hbody body
    rw [blank, addresses, hcells, hiddenAddresses_table, addresses, List.count_nil, Nat.add_zero]
  | picture p =>
    rw [blank, addresses, addresses, hiddenAddresses_picture, List.count_nil, Nat.add_zero]
  | connector id name => simp [blank]
  | group id name children => simp [blank]

end Shape

/-! ## Slides -/

namespace Slide

/-- The addresses that are linked to in hidden text. -/
def hiddenAddresses (m : Mapping) (s : Slide) : List String :=
  s.flatMap (Shape.hiddenAddresses m)

/-- The images of hidden pictures. -/
def hiddenImages (m : Mapping) (s : Slide) : List EncodedImage :=
  s.flatMap (Shape.hiddenImages m)

/-- Shapes link to what each of them links to. -/
theorem addressesOfAll_eq (s : Slide) : Shape.addressesOfAll s = s.flatMap Shape.addresses := by
  induction s with
  | nil => rfl
  | cons x rest ih => rw [Shape.addressesOfAll, ih, List.flatMap_cons]

/-- Shapes have the images that each of them has. -/
theorem imagesOfAll_eq (s : Slide) : Shape.imagesOfAll s = s.flatMap Shape.images := by
  induction s with
  | nil => rfl
  | cons x rest ih => rw [Shape.imagesOfAll, ih, List.flatMap_cons]

variable {s : Slide}

/-- A slide whose shapes are all filled loses the links that they lose. -/
theorem losses_eq (h : ∀ x ∈ s, (x.fill m).outcome.isOk) : s.losses m = s.flatMap (Shape.losses m) :=
  lossesAlong_of_succeeds h

/-- The links that a slide loses do not depend on what is hidden on it. -/
theorem losses_blank (h : ∀ x ∈ s, (x.fill m).outcome.isOk) :
    Slide.losses m (s.map (Shape.blank m)) = s.losses m := by
  have hblank : ∀ x ∈ s.map (Shape.blank m), (x.fill m).outcome.isOk := by
    rw [List.forall_mem_map]
    exact fun x hx => (Shape.fill_isOk_blank.mp (h x hx)).1
  rw [losses_eq h, losses_eq hblank, List.flatMap_map]
  exact List.flatMap_congr fun x hx => Shape.losses_blank (h x hx)

/-- A slide loses no more links than it has outside its hidden text. -/
theorem count_losses (h : ∀ x ∈ s, (x.fill m).outcome.isOk) (a : String) :
    ((s.losses m).map LinkLoss.address).count a + (s.hiddenAddresses m).count a ≤ (Shape.addressesOfAll s).count a := by
  rw [losses_eq h, addressesOfAll_eq, hiddenAddresses]
  induction s with
  | nil => exact le_rfl
  | cons x rest ih =>
    obtain ⟨hx, hrest⟩ := List.forall_mem_cons.mp h
    have hfirst := Shape.count_losses hx a
    have hothers := ih hrest
    simp only [List.flatMap_cons, List.map_append, List.count_append]
    omega

/-- Blanking takes the addresses in hidden text away and no others. -/
theorem count_addresses_blank (m : Mapping) (s : Slide) (a : String) :
    (Shape.addressesOfAll (s.map (Shape.blank m))).count a + (s.hiddenAddresses m).count a =
      (Shape.addressesOfAll s).count a := by
  induction s with
  | nil => rfl
  | cons x rest ih =>
    have hx := x.count_addresses_blank m a
    simp only [hiddenAddresses] at ih
    simp only [List.map_cons, Shape.addressesOfAll, hiddenAddresses, List.flatMap_cons, List.count_append]
    omega

/-- Addresses outside hidden text are linked to as often on slides that are alike. -/
theorem count_addresses_of_alike {s₁ s₂ : Slide} (h : s₁.map (Shape.blank m) = s₂.map (Shape.blank m)) {a : String}
    (h₁ : a ∉ s₁.hiddenAddresses m) (h₂ : a ∉ s₂.hiddenAddresses m) :
    (Shape.addressesOfAll s₁).count a = (Shape.addressesOfAll s₂).count a := by
  rw [← count_addresses_blank m s₁, ← count_addresses_blank m s₂, List.count_eq_zero.mpr h₁, List.count_eq_zero.mpr h₂,
    h]

/-- Hidden text is text of the slide. -/
theorem mem_addressesOfAll_of_hidden {a : String} (h : a ∈ s.hiddenAddresses m) : a ∈ Shape.addressesOfAll s := by
  have hcount := count_addresses_blank m s a
  have hpos := List.count_pos_iff.mpr h
  exact List.count_pos_iff.mp (by omega)

/-- Each image is that of a shape that is shown or of a hidden picture. -/
theorem mem_imagesOfAll_iff {image : EncodedImage} :
    image ∈ Shape.imagesOfAll s ↔ image ∈ (s.shown m).flatMap Shape.images ∨ image ∈ s.hiddenImages m := by
  rw [imagesOfAll_eq, hiddenImages]
  induction s with
  | nil => simp [shown]
  | cons x rest ih =>
    rw [List.flatMap_cons, List.flatMap_cons, List.mem_append, List.mem_append, ih, Shape.hiddenImages]
    cases hx : x.isHidden m with
    | true =>
      rw [shown_cons_of_hidden hx, if_pos rfl]
      exact or_left_comm
    | false =>
      rw [shown_cons_of_shown hx, if_neg Bool.false_ne_true, List.flatMap_cons, List.mem_append]
      simp only [List.not_mem_nil, false_or]
      exact or_assoc.symm

/-- Blanking leaves the images of shapes that are shown. -/
theorem images_shown_blank (m : Mapping) (s : Slide) :
    (shown m (s.map (Shape.blank m))).flatMap Shape.images = (s.shown m).flatMap Shape.images := by
  rw [shown, List.filter_map, List.flatMap_map, shown]
  have hsame : ((!·.isHidden m) ∘ Shape.blank m : Shape → Bool) = (!·.isHidden m) :=
    funext fun x => congrArg not (x.blank_isHidden m)
  rw [hsame]
  apply List.flatMap_congr
  intro x hx
  have hshown : x.isHidden m = false := by simpa using (List.mem_filter.mp hx).2
  cases x with
  | picture p => simp [Shape.blank, Shape.images, hshown]
  | text box => rfl
  | table t => rfl
  | connector id name => rfl
  | group id name children => rfl

/-- Images other than hidden ones are on both of two slides that are alike, or on none. -/
theorem mem_images_of_alike {s₁ s₂ : Slide} (h : s₁.map (Shape.blank m) = s₂.map (Shape.blank m))
    {image : EncodedImage} (h₁ : image ∉ s₁.hiddenImages m) (h₂ : image ∉ s₂.hiddenImages m) :
    image ∈ Shape.imagesOfAll s₁ ↔ image ∈ Shape.imagesOfAll s₂ := by
  rw [mem_imagesOfAll_iff (m := m), mem_imagesOfAll_iff (m := m), or_iff_left h₁, or_iff_left h₂,
    ← images_shown_blank m s₁, ← images_shown_blank m s₂, h]

end Slide

/-! ## What slides relate to -/

namespace Relations

/-- Whether what two slides relate to differs in no more than the addresses in hidden text and the images of hidden
pictures. -/
structure Alike (m : Mapping) (s₁ s₂ : Slide) (r₁ r₂ : Relations) : Prop where
  addresses : ∀ a, a ∉ s₁.hiddenAddresses m → a ∉ s₂.hiddenAddresses m →
    r₁.addresses.count a = r₂.addresses.count a
  images : ∀ i, i ∉ s₁.hiddenImages m → i ∉ s₂.hiddenImages m → (i ∈ r₁.images ↔ i ∈ r₂.images)

/-- Whether a slide relates to all addresses that it links to and all images of its pictures. -/
structure Covers (r : Relations) (s : Slide) : Prop where
  addresses : ∀ a ∈ Shape.addressesOfAll s, a ∈ r.addresses
  images : ∀ i ∈ Shape.imagesOfAll s, i ∈ r.images

variable {number number₁ number₂ : Nat} {s s₁ s₂ : Slide} {r r₁ r₂ : Relations}

/-- Slides that are alike are left alike by what is lost and gained in filling them. -/
theorem Alike.filled (hslides : s₁.map (Shape.blank m) = s₂.map (Shape.blank m)) (h : Alike m s₁ s₂ r₁ r₂)
    (hok₁ : (Slide.fill m number₁ s₁).outcome.isOk) (hok₂ : (Slide.fill m number₂ s₂).outcome.isOk) :
    Alike m s₁ s₂ (r₁.filled m number₁ s₁) (r₂.filled m number₂ s₂) where
  addresses a h₁ h₂ := by
    -- Losses do not depend on what is hidden, so both slides lose the same links, one after the other.
    have hlosses : s₁.losses m = s₂.losses m := by
      rw [← Slide.losses_blank (Slide.fill_isOk_iff.mp hok₁).1, ← Slide.losses_blank (Slide.fill_isOk_iff.mp hok₂).1,
        hslides]
    rw [Relations.filled, Relations.filled, AddressBook.after, AddressBook.after, hlosses]
    exact AddressBook.count_after _ (Slide.count_addresses_of_alike hslides h₁ h₂) (h.addresses a h₁ h₂)
  images i h₁ h₂ := by
    have hafter : (Slide.fill m number₁ s₁).after = (Slide.fill m number₂ s₂).after := by
      rw [Slide.fill_after hok₁, Slide.fill_after hok₂, ← Slide.replaceAll_blank (Slide.fill_isOk_iff.mp hok₁).1,
        ← Slide.replaceAll_blank (Slide.fill_isOk_iff.mp hok₂).1, hslides]
    simp only [Relations.filled, List.mem_eraseDups, List.mem_append, hafter, h.images i h₁ h₂]

/-- What a slide relates to for the sake of hidden text and hidden pictures, it goes on to relate to. -/
theorem Covers.filled_keeps (h : r.Covers s) (hok : (Slide.fill m number s).outcome.isOk) :
    (∀ a ∈ s.hiddenAddresses m, a ∈ (r.filled m number s).addresses) ∧
      ∀ i ∈ s.hiddenImages m, i ∈ (r.filled m number s).images := by
  constructor
  · intro a ha
    have hcount := Slide.count_losses (Slide.fill_isOk_iff.mp hok).1 a
    have hpos := List.count_pos_iff.mpr ha
    exact AddressBook.mem_after_of_linked _ (h.addresses a (Slide.mem_addressesOfAll_of_hidden ha)) (by omega)
  · intro i hi
    exact List.mem_eraseDups.mpr (List.mem_append_left _ (h.images i (Slide.mem_imagesOfAll_iff.mpr (.inr hi))))

/-- A slide that has lost nothing relates to all that it links to and shows. -/
theorem covers_ofSlide (s : Slide) : (ofSlide s).Covers s where
  addresses _ ha := List.mem_eraseDups.mpr ha
  images _ hi := List.mem_eraseDups.mpr hi

/-- Slides that are alike and have lost nothing relate to the same but for what is hidden. -/
theorem alike_ofSlide (h : s₁.map (Shape.blank m) = s₂.map (Shape.blank m)) :
    Alike m s₁ s₂ (ofSlide s₁) (ofSlide s₂) where
  addresses a h₁ h₂ := by
    have hmem : a ∈ Shape.addressesOfAll s₁ ↔ a ∈ Shape.addressesOfAll s₂ := by
      rw [← List.count_pos_iff, ← List.count_pos_iff, Slide.count_addresses_of_alike h h₁ h₂]
    rw [ofSlide, ofSlide, (nodup_eraseDups _).count, (nodup_eraseDups _).count]
    simp only [List.mem_eraseDups, hmem]
  images i h₁ h₂ := by
    rw [ofSlide, ofSlide, List.mem_eraseDups, List.mem_eraseDups, Slide.mem_images_of_alike h h₁ h₂]

end Relations

/-! ## Packages -/

namespace Package

/-- Whether slides relate to the same, one by one, but for what is hidden on them. -/
def RelationsAlike (m : Mapping) (d₁ d₂ : Deck) (rs₁ rs₂ : List Relations) : Prop :=
  ∀ (k : Nat) (s₁ s₂ : Slide) (r₁ r₂ : Relations), d₁[k]? = some s₁ → d₂[k]? = some s₂ → rs₁[k]? = some r₁ →
    rs₂[k]? = some r₂ → Relations.Alike m s₁ s₂ r₁ r₂

/-- Two packages that differ only in what a mapping hides, and in what that relates to. -/
structure Alike (m : Mapping) (p₁ p₂ : Package) : Prop where
  deck : p₁.deck.Alike m p₂.deck
  relations : RelationsAlike m p₁.deck p₂.deck p₁.relations p₂.relations

/-- Whether each slide relates to all addresses that it links to and all images of its pictures. -/
def IsWhole (p : Package) : Prop :=
  ∀ (k : Nat) (s : Slide) (r : Relations), p.deck[k]? = some s → p.relations[k]? = some r → r.Covers s

/-- Whether a package relates to what is hidden on the slides of a deck: the addresses in hidden text and the images of
hidden pictures. -/
def KeepsHidden (m : Mapping) (d : Deck) (p : Package) : Prop :=
  ∀ (k : Nat) (s : Slide) (r : Relations), d[k]? = some s → p.relations[k]? = some r →
    (∀ a ∈ s.hiddenAddresses m, a ∈ r.addresses) ∧ ∀ i ∈ s.hiddenImages m, i ∈ r.images

/-- What a slide relates to after a fill comes from what it related to before. -/
theorem relationsFrom_getElem? {number : Nat} {d : Deck} {rs : List Relations}
    (hok : (Deck.fillFrom m number d).outcome.isOk) {k : Nat} {s : Slide} {r' : Relations} (hs : d[k]? = some s)
    (hr' : (relationsFrom m number d rs)[k]? = some r') :
    ∃ r, rs[k]? = some r ∧ r' = r.filled m (number + k) s ∧ (Slide.fill m (number + k) s).outcome.isOk := by
  -- The fill succeeds, so no slide is left out behind one that it stops at.
  induction d generalizing number rs k with
  | nil => cases hs
  | cons first rest ih =>
    obtain ⟨t, ht⟩ := isOk_iff.mp (Deck.fillFrom_isOk_iff.mp hok first List.mem_cons_self)
    rw [Deck.fillFrom_cons_ok ht, isOk_map] at hok
    cases rs with
    | nil => cases hr'
    | cons r others =>
      rw [relationsFrom, ht, isOk_ok, if_pos rfl] at hr'
      cases k with
      | zero =>
        obtain rfl : first = s := Option.some.inj hs
        exact ⟨r, rfl, (Option.some.inj hr').symm, isOk_iff.mpr ⟨t, ht⟩⟩
      | succ k =>
        have hnumber : number + 1 + k = number + (k + 1) := by omega
        obtain ⟨r₀, hr₀, hfilled, hfill⟩ := ih hok hs hr'
        rw [hnumber] at hfilled hfill
        exact ⟨r₀, hr₀, hfilled, hfill⟩

/-- Slides of decks that are alike are alike. -/
theorem blank_getElem? {d₁ d₂ : Deck} (h : d₁.Alike m d₂) {k : Nat} {s₁ s₂ : Slide} (h₁ : d₁[k]? = some s₁)
    (h₂ : d₂[k]? = some s₂) : s₁.map (Shape.blank m) = s₂.map (Shape.blank m) := by
  have hslide := congrArg (·[k]?) h
  simpa only [Deck.blank, List.getElem?_map, h₁, h₂, Option.map_some, Option.some.injEq] using hslide

/-- Packages that are alike relate to the same after their fills, but for what is hidden. -/
theorem Alike.fill_relations {p₁ p₂ : Package} (h : p₁.Alike m p₂) (hok₁ : (p₁.fill m).outcome.isOk)
    (hok₂ : (p₂.fill m).outcome.isOk) :
    RelationsAlike m p₁.deck p₂.deck (p₁.fill m).after.relations (p₂.fill m).after.relations := by
  intro k s₁ s₂ r₁' r₂' hs₁ hs₂ hr₁' hr₂'
  obtain ⟨r₁, hr₁, rfl, hfill₁⟩ := relationsFrom_getElem? (Deck.fill_isOk_iff.mp hok₁) hs₁ hr₁'
  obtain ⟨r₂, hr₂, rfl, hfill₂⟩ := relationsFrom_getElem? (Deck.fill_isOk_iff.mp hok₂) hs₂ hr₂'
  exact (h.relations k s₁ s₂ r₁ r₂ hs₁ hs₂ hr₁ hr₂).filled (blank_getElem? h.deck hs₁ hs₂) hfill₁ hfill₂

/-- A package that is filled goes on to relate to what is hidden. -/
theorem IsWhole.fill_keepsHidden {p : Package} (h : p.IsWhole) (hok : (p.fill m).outcome.isOk) :
    KeepsHidden m p.deck (p.fill m).after := by
  intro k s r' hs hr'
  obtain ⟨r, hr, rfl, hfill⟩ := relationsFrom_getElem? (Deck.fill_isOk_iff.mp hok) hs hr'
  exact (h k s r hs hr).filled_keeps hfill

/-- Decks that are alike are alike as packages that have lost nothing. -/
theorem alike_ofDeck {d₁ d₂ : Deck} (h : d₁.Alike m d₂) : (ofDeck d₁).Alike m (ofDeck d₂) where
  deck := h
  relations k s₁ s₂ r₁ r₂ hs₁ hs₂ hr₁ hr₂ := by
    have hrelations : ∀ (d : Deck) (s : Slide) (r : Relations), d[k]? = some s → (ofDeck d).relations[k]? = some r →
        r = Relations.ofSlide s := by
      intro d s r hs hr
      rw [ofDeck, List.getElem?_map, hs] at hr
      exact (Option.some.inj hr).symm
    rw [hrelations d₁ s₁ r₁ hs₁ hr₁, hrelations d₂ s₂ r₂ hs₂ hr₂]
    exact Relations.alike_ofSlide (blank_getElem? h hs₁ hs₂)

/-- A deck that has lost nothing is whole as a package. -/
theorem isWhole_ofDeck (d : Deck) : (ofDeck d).IsWhole := by
  intro k s r hs hr
  have hs : d[k]? = some s := hs
  rw [ofDeck, List.getElem?_map, hs] at hr
  rw [← Option.some.inj hr]
  exact Relations.covers_ofSlide s

end Package

/-- Nothing of what is hidden reaches the filled slides, and of what it related to just the addresses in hidden text and
the images of hidden pictures stay. Of two packages that differ in what is hidden only, one is filled exactly when the
other is, if in both all paragraphs that go can be substituted first; a package in which one cannot is not filled. If both
are filled, their slides are left the same, the same is told of them, and what the slides relate to is the same but for
those addresses and images, which the package keeps. -/
theorem fill_alike (m : Mapping) (p₁ p₂ : Package) (h : p₁.Alike m p₂) :
    (p₁.deck.IsClean m → p₂.deck.IsClean m → ((p₁.fill m).outcome.isOk ↔ (p₂.fill m).outcome.isOk)) ∧
    ((p₁.fill m).outcome.isOk → p₁.deck.IsClean m) ∧
    ((p₁.fill m).outcome.isOk → (p₂.fill m).outcome.isOk →
      (p₁.fill m).after.deck = (p₂.fill m).after.deck ∧ (p₁.fill m).log = (p₂.fill m).log ∧
      Package.RelationsAlike m p₁.deck p₂.deck (p₁.fill m).after.relations (p₂.fill m).after.relations) ∧
    ((p₁.fill m).outcome.isOk → p₁.IsWhole → Package.KeepsHidden m p₁.deck (p₁.fill m).after) := by
  obtain ⟨hiff, hclean, hsame⟩ := Deck.fill_of_alike m p₁.deck p₂.deck h.deck
  refine ⟨hiff, hclean, fun hok₁ hok₂ => ?_, fun hok hwhole => hwhole.fill_keepsHidden hok⟩
  obtain ⟨hafter, hlog⟩ := hsame hok₁ hok₂
  exact ⟨hafter, hlog, h.fill_relations hok₁ hok₂⟩

namespace RelationsWitness

/-- A mapping that hides what carries one variable and has a text for another one. -/
def mapping (text : String) : Mapping :=
  { Mapping.silent with
    hide := fun v => some (v.name == "secret")
    text := fun v => if v.name = "user" then some text else none }

/-- A link that makes what carries it hidden. -/
def link : Option Link :=
  some ⟨.external "$/secret/", none⟩

/-- A deck with a paragraph whose only run is hidden. -/
def deck (text : String) : Deck :=
  [[.text ⟨2, "Box", none, [⟨[.run ⟨text, link, {}⟩]⟩]⟩]]

/-- A picture of one dot. -/
def dot (red : Nat) : EncodedImage :=
  ⟨.png, ⟨.rgb, 1, [[red, 0, 0]]⟩⟩

/-- A deck that keeps a text with a link in a hidden box, an image in a hidden picture, and a text in a hidden run. -/
def keeper (text url : String) (red : Nat) : Deck :=
  [.text ⟨3, "Note", link, [⟨[.run ⟨text, some ⟨.external url, none⟩, {}⟩]⟩]⟩, .picture ⟨4, "Photo", link, none, dot red⟩] ::
    deck text

/-- The link hides what carries it, whatever the text of the mapping is. -/
theorem link_hides (value : String) : (linkVariable? link).any (mapping value).hides := by
  have hname : (linkVariable? link).any (mapping "").hides = true := by decide +kernel
  exact hname

/-- A run with that link is hidden. -/
theorem run_isHidden (value text : String) (font : Font) : (⟨text, link, font⟩ : Run).isHidden (mapping value) := by
  have hname : ((link.bind Link.runAddress?).bind Variable.parse?).any (mapping "").hides = true := by decide +kernel
  exact hname

/-- The text of the hidden run is all that can differ. -/
theorem deck_alike (value text text' : String) : (deck text).Alike (mapping value) (deck text') := by
  have hshown : ∀ body, (Shape.text ⟨2, "Box", none, body⟩).isHidden (mapping value) = false := fun _ => rfl
  simp [Deck.Alike, deck, Deck.blank, Shape.blank, hshown, Paragraph.blank, Item.blank, Run.blank, run_isHidden]

/-- The hidden texts, their link and the hidden image are all that can differ. -/
theorem keeper_alike (value text text' url url' : String) (red red' : Nat) :
    (keeper text url red).Alike (mapping value) (keeper text' url' red') := by
  have hdeck : (deck text).blank (mapping value) = (deck text').blank (mapping value) := deck_alike value text text'
  have hbox : ∀ body, (Shape.text ⟨3, "Note", link, body⟩).isHidden (mapping value) := fun _ => link_hides value
  have hpicture : ∀ image, (Shape.picture ⟨4, "Photo", link, none, image⟩).isHidden (mapping value) :=
    fun _ => link_hides value
  rw [Deck.Alike, keeper, keeper, Deck.blank, Deck.blank, List.map_cons, List.map_cons]
  refine congrArg₂ List.cons ?_ hdeck
  simp [Shape.blank, hbox, hpicture]

end RelationsWitness

open RelationsWitness in
/-- Alice and Carol differ in what they keep hidden. The address and the image of Alice stay among the relations. -/
theorem fill_alike_keeper :
    let alice := Package.ofDeck (keeper "Alice" "https://a/" 10)
    let carol := Package.ofDeck (keeper "Carol, $/user/" "https://c/" 20)
    alice.Alike (mapping "Bob") carol ∧ alice.deck.IsClean (mapping "Bob") ∧ carol.deck.IsClean (mapping "Bob") ∧
      (alice.fill (mapping "Bob")).after.deck = (carol.fill (mapping "Bob")).after.deck ∧
      (alice.fill (mapping "Bob")).log = (carol.fill (mapping "Bob")).log ∧
      Package.RelationsAlike (mapping "Bob") alice.deck carol.deck (alice.fill (mapping "Bob")).after.relations
        (carol.fill (mapping "Bob")).after.relations ∧
      Package.KeepsHidden (mapping "Bob") alice.deck (alice.fill (mapping "Bob")).after ∧
      (alice.fill (mapping "Bob")).after.relations = [⟨["https://a/"], [dot 10]⟩, ⟨["$/secret/"], []⟩] := by
  intro alice carol
  have halike : alice.Alike (mapping "Bob") carol := Package.alike_ofDeck (keeper_alike "Bob" _ _ _ _ _ _)
  have hreverse : carol.Alike (mapping "Bob") alice := Package.alike_ofDeck (keeper_alike "Bob" _ _ _ _ _ _)
  have hok : (alice.fill (mapping "Bob")).outcome.isOk := by decide +kernel
  obtain ⟨hiff, hclean, hsame, hkeeps⟩ := fill_alike (mapping "Bob") alice carol halike
  have hclean' : carol.deck.IsClean (mapping "Bob") :=
    (fill_alike (mapping "Bob") carol alice hreverse).2.1 (by decide +kernel)
  obtain ⟨hdeck, hlog, hrelations⟩ := hsame hok ((hiff (hclean hok) hclean').mp hok)
  exact ⟨halike, hclean hok, hclean', hdeck, hlog, hrelations, hkeeps hok (Package.isWhole_ofDeck _), by decide +kernel⟩

/-- Two packages that are alike need not be filled alike in all respects. The text of a run that is hidden and alone is
substituted, and its value can be a text that a deck cannot hold, so one is filled without the other; and if both are
filled, an address in hidden text tells them apart. -/
theorem fill_alike_fully_false :
    (¬∀ (m : Mapping) (p₁ p₂ : Package), p₁.Alike m p₂ →
      ((p₁.fill m).outcome.isOk ↔ (p₂.fill m).outcome.isOk)) ∧
    ¬∀ (m : Mapping) (p₁ p₂ : Package), p₁.Alike m p₂ → (p₁.fill m).outcome.isOk → (p₂.fill m).outcome.isOk →
      (p₁.fill m).after = (p₂.fill m).after := by
  constructor
  · intro h
    have hok : ((Package.ofDeck (RelationsWitness.deck "Alice")).fill (RelationsWitness.mapping "\uFFFE")).outcome.isOk := by
      decide +kernel
    have hfault : ((Package.ofDeck (RelationsWitness.deck "$/user/")).fill
        (RelationsWitness.mapping "\uFFFE")).outcome.isOk = false := by decide +kernel
    rw [h _ _ _ (Package.alike_ofDeck (RelationsWitness.deck_alike "\uFFFE" "Alice" "$/user/")), hfault] at hok
    cases hok
  · intro h
    have hsame := congrArg Package.relations <|
      h (RelationsWitness.mapping "Bob") _ _
        (Package.alike_ofDeck (RelationsWitness.keeper_alike "Bob" "Alice" "Alice" "https://a/" "https://c/" 10 10))
        (by decide +kernel) (by decide +kernel)
    revert hsame
    decide +kernel

end SlideFill
