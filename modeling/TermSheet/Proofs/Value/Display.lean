import TermSheet.Proofs.Contract.Rendering
import TermSheet.Proofs.Json.Plain
import TermSheet.Proofs.Value.Logged

/-!
# Texts for display

A rendering for display is for payments, contracts without foreign leaves and settlements of such
contracts, for texts, whole numbers of at most 4300 digits, truth values and no value, and for
lists and tuples of all these. `Shows` says what such a value is as JSON: payments, contracts and
settlements are their objects, lists and tuples are arrays.

The text for display is the text of that JSON value in the layout that was asked for. Reading it
back gives the same value for every layout.

Results:
* `IsDisplayable.exists_shows`: every value of these kinds is shown.
* `Shows.display`, `Shows.displayText`: the rendering gives what is shown.
* `displayText_shows`: the text exists, it is plain, and it is read back as what is shown.
-/

namespace TermSheet

/-! ## Objects whose numbers are finite -/

@[simp] theorem Payment.isFinite_toJson (p : Payment) : p.toJson.isFinite = true := by
  simp [Payment.toJson]

namespace Contract

variable {F : Type} {c : Contract F} {j : Json}

/-- What is rendered has no foreign leaf. -/
theorem isWhole_of_toJson? (h : c.toJson? = .ok j) : c.IsWhole := by
  rw [← foreignLeaves_eq_nil_iff]
  cases leaves : c.foreignLeaves with
  | nil => rfl
  | cons leaf others =>
    rw [toJson?_of_head?_foreignLeaves (by rw [leaves, List.head?_cons])] at h
    cases h

theorem isFinite_of_toJson? (h : c.toJson? = .ok j) : j.isFinite = true := by
  induction c generalizing j with
  | zero =>
    cases h
    simp
  | one currency =>
    cases h
    simp
  | multiple factor inner ih =>
    obtain ⟨part, hp, rfl⟩ := bind_pure_eq_ok_iff.mp h
    simp [ih hp]
  | later date inner ih =>
    obtain ⟨part, hp, rfl⟩ := bind_pure_eq_ok_iff.mp h
    simp [ih hp]
  | give inner ih =>
    obtain ⟨part, hp, rfl⟩ := bind_pure_eq_ok_iff.mp h
    simp [ih hp]
  | both left right ihl ihr =>
    obtain ⟨a, ha, rest⟩ := bind_eq_ok_iff.mp h
    obtain ⟨b, hb, rfl⟩ := bind_pure_eq_ok_iff.mp rest
    simp [ihl ha, ihr hb]
  | foreign leaf => cases h

end Contract

namespace Settlement

variable {F : Type} {s : Settlement F} {j : Json}

theorem toJson?_eq_ok_iff : s.toJson? = .ok j ↔ ∃ residual, s.residual.toJson? = .ok residual ∧
    j = .object [("payments", .array (s.payments.map Payment.toJson)), ("residual", residual)] :=
  bind_pure_eq_ok_iff

theorem isFinite_of_toJson? (h : s.toJson? = .ok j) : j.isFinite = true := by
  obtain ⟨residual, hr, rfl⟩ := toJson?_eq_ok_iff.mp h
  simp [Contract.isFinite_of_toJson? hr]

end Settlement

namespace Value

/-! ## What is shown -/

/-- The values that a rendering for display is for. -/
inductive IsDisplayable : Value → Prop
  | none : IsDisplayable none
  | bool (b : Bool) : IsDisplayable (bool b)
  | int {i : Int} (h : i.natAbs < digitLimit) : IsDisplayable (int i)
  | text (s : String) : IsDisplayable (text s)
  | payment (p : Payment) : IsDisplayable (payment p)
  | contract {c : Contract Value} (h : c.IsWhole) : IsDisplayable (contract c)
  | settlement {s : Settlement Value} (h : s.residual.IsWhole) : IsDisplayable (settlement s)
  | list {items : List Value} (h : ∀ item ∈ items, IsDisplayable item) :
    IsDisplayable (list items)
  | tuple {items : List Value} (h : ∀ item ∈ items, IsDisplayable item) :
    IsDisplayable (tuple items)

/-- What a value is shown as: payments, contracts and settlements as their objects, lists and
    tuples as arrays of what their items are shown as, and all else as itself. -/
inductive Shows : Value → Json → Prop
  | none : Shows none .null
  | bool (b : Bool) : Shows (bool b) (.bool b)
  | int {i : Int} (h : i.natAbs < digitLimit) : Shows (int i) (.int i)
  | text (s : String) : Shows (text s) (.text s)
  | payment (p : Payment) : Shows (payment p) p.toJson
  | contract {c : Contract Value} {j : Json} (h : c.toJson? = .ok j) : Shows (contract c) j
  | settlement {s : Settlement Value} {j : Json} (h : s.toJson? = .ok j) : Shows (settlement s) j
  | list {items : List Value} {shown : List Json} (same : items.length = shown.length)
    (h : ∀ v j, (v, j) ∈ items.zip shown → Shows v j) : Shows (list items) (.array shown)
  | tuple {items : List Value} {shown : List Json} (same : items.length = shown.length)
    (h : ∀ v j, (v, j) ∈ items.zip shown → Shows v j) : Shows (tuple items) (.array shown)

theorem IsDisplayable.exists_shows {v : Value} (h : v.IsDisplayable) : ∃ j, Shows v j := by
  induction h with
  | none => exact ⟨_, .none⟩
  | bool b => exact ⟨_, .bool b⟩
  | int h => exact ⟨_, .int h⟩
  | text s => exact ⟨_, .text s⟩
  | payment p => exact ⟨_, .payment p⟩
  | contract whole =>
    obtain ⟨j, hj⟩ := Contract.exists_toJson?_of_isWhole whole
    exact ⟨j, .contract hj⟩
  | settlement whole =>
    obtain ⟨j, hj⟩ := Contract.exists_toJson?_of_isWhole whole
    exact ⟨_, .settlement (Settlement.toJson?_eq_ok_iff.mpr ⟨j, hj, rfl⟩)⟩
  | list _ ih =>
    obtain ⟨shown, same, each⟩ := exists_zip ih
    exact ⟨_, .list same each⟩
  | tuple _ ih =>
    obtain ⟨shown, same, each⟩ := exists_zip ih
    exact ⟨_, .tuple same each⟩

/-! ## The rendering -/

theorem Shows.isFinite {v : Value} {j : Json} (h : Shows v j) : j.isFinite = true := by
  induction h with
  | payment p => exact p.isFinite_toJson
  | contract h => exact Contract.isFinite_of_toJson? h
  | settlement h => exact Settlement.isFinite_of_toJson? h
  | list same _ ih => exact Json.isFinite_array_iff.mpr (forall_of_zip_right same ih)
  | tuple same _ ih => exact Json.isFinite_array_iff.mpr (forall_of_zip_right same ih)
  | _ => rfl

theorem foreignLeafList?_eq_none {items : List Value}
    (h : ∀ v ∈ items, v.foreignLeaf? = Option.none) : foreignLeafList? items = Option.none := by
  induction items with
  | nil => rfl
  | cons v items ih =>
    rw [foreignLeafList?, h v List.mem_cons_self,
      ih fun w hw => h w (List.mem_cons_of_mem v hw)]
    rfl

theorem displayList_eq_ok {layout : Json.Layout} {items : List Value} {shown : List Json}
    (h : List.Forall₂ (fun v j => v.displayForm layout = .ok j) items shown) :
    displayList layout items = .ok shown := by
  induction h with
  | nil => rfl
  | cons first _ ih => rw [displayList, first, ok_bind, ih, ok_bind]; rfl

theorem Shows.foreignLeaf? {v : Value} {j : Json} (h : Shows v j) :
    v.foreignLeaf? = Option.none := by
  induction h with
  | none => rfl
  | bool b => rfl
  | int h => rfl
  | text s => rfl
  | payment p => rfl
  | contract h => exact Contract.isWhole_of_toJson? h
  | settlement h =>
    obtain ⟨residual, hr, -⟩ := Settlement.toJson?_eq_ok_iff.mp h
    exact Contract.isWhole_of_toJson? hr
  | list same _ ih => exact foreignLeafList?_eq_none (forall_of_zip_left same ih)
  | tuple same _ ih => exact foreignLeafList?_eq_none (forall_of_zip_left same ih)

theorem displayForm_int {i : Int} (h : i.natAbs < digitLimit) (layout : Json.Layout) :
    displayForm layout (int i) = .ok (.int i) := by
  have same : displayForm layout (int i) = intJson? i := by simp only [Value.displayForm, encode]
  rw [same, intJson?_of_lt h]

theorem Shows.displayForm {v : Value} {j : Json} (h : Shows v j) (layout : Json.Layout) :
    v.displayForm layout = .ok j := by
  induction h with
  | none => rfl
  | bool b => rfl
  | int h => exact displayForm_int h layout
  | text s => rfl
  | payment p => rfl
  | contract h =>
    rw [Value.displayForm, h]
    rfl
  | settlement h =>
    rw [Value.displayForm, h]
    rfl
  | list same _ ih =>
    rw [Value.displayForm, displayList_eq_ok (List.forall₂_iff_zip.mpr ⟨same, fun {v j} => ih v j⟩)]
    rfl
  | tuple same _ ih =>
    rw [Value.displayForm, displayList_eq_ok (List.forall₂_iff_zip.mpr ⟨same, fun {v j} => ih v j⟩)]
    rfl

theorem Shows.display {v : Value} {j : Json} (h : Shows v j) {layout : Json.Layout}
    (fits : layout.fault? = Option.none) : v.display layout = .ok j := by
  unfold Value.display
  rw [h.foreignLeaf?, fits]
  exact h.displayForm layout

theorem Shows.displayText {v : Value} {j : Json} (h : Shows v j) {layout : Json.Layout}
    (fits : layout.fault? = Option.none) : v.displayText layout = .ok (j.render layout) := by
  rw [Value.displayText, h.display fits]
  rfl

/-- A value for display is shown as JSON. Its text exists in every layout that can be written, is
    ASCII, is read back as what is shown, whatever the layout, and stands on one line in the layout
    without lines. -/
theorem displayText_shows {v : Value} (h : v.IsDisplayable) :
    (∃ j, v.Shows j) ∧ ∀ j, v.Shows j → ∀ layout : Json.Layout, layout.fault? = Option.none →
      ∃ s, v.displayText layout = .ok s ∧ Json.ofText? s = some j ∧
        (∀ c ∈ s.toList, c.toNat < 0x80) ∧ (layout = Option.none → '\n' ∉ s.toList) := by
  refine ⟨h.exists_shows, fun j shown layout fits => ⟨Json.render layout j, ?_, ?_, ?_, ?_⟩⟩
  · exact shown.displayText fits
  · exact Json.ofText?_render shown.isFinite layout
  · exact Json.ascii_of_mem_render j layout
  · rintro rfl
    exact Json.newline_not_mem_render j

/-- A tuple beside a settlement of a debt, on lines and on one line. -/
theorem displayText_shows_of_tuple_and_settlement :
    let p : Payment := ⟨.long, ⟨⟨false, 150, -2⟩⟩, .eur⟩
    let v : Value := list [tuple [text "é", int (-5)], settlement ⟨[p], .give (.one .gbp)⟩]
    let j : Json := .array [.array [.text "é", .int (-5)], .object [("payments", .array [p.toJson]),
      ("residual", .object [("type", .text "Give"),
        ("contract", .object [("type", .text "One"), ("currency", .text "GBP")])])]]
    v.IsDisplayable ∧ v.Shows j ∧
      (∃ s, v.displayText (some 2) = .ok s ∧ Json.ofText? s = some j) ∧
      ∃ s, v.displayText Option.none = .ok s ∧ Json.ofText? s = some j ∧ '\n' ∉ s.toList := by
  intro p v j
  have short : (-5 : Int).natAbs < digitLimit := lt_digitLimit (by decide)
  have displayable : v.IsDisplayable := by
    refine .list fun item h => ?_
    simp only [List.mem_cons, List.not_mem_nil, or_false] at h
    rcases h with rfl | rfl
    · refine .tuple fun item h => ?_
      simp only [List.mem_cons, List.not_mem_nil, or_false] at h
      rcases h with rfl | rfl
      · exact .text _
      · exact .int short
    · exact .settlement rfl
  have shows : v.Shows j := by
    refine .list rfl fun item shown h => ?_
    simp only [List.zip_cons_cons, List.zip_nil_right, List.mem_cons, List.not_mem_nil, or_false,
      Prod.mk.injEq] at h
    rcases h with ⟨rfl, rfl⟩ | ⟨rfl, rfl⟩
    · refine .tuple rfl fun item shown h => ?_
      simp only [List.zip_cons_cons, List.zip_nil_right, List.mem_cons, List.not_mem_nil, or_false,
        Prod.mk.injEq] at h
      rcases h with ⟨rfl, rfl⟩ | ⟨rfl, rfl⟩
      · exact .text _
      · exact .int short
    · exact .settlement rfl
  obtain ⟨-, written⟩ := displayText_shows displayable
  obtain ⟨s, hs, read, -, -⟩ := written j shows (some 2) rfl
  obtain ⟨t, ht, readLine, -, line⟩ := written j shows Option.none rfl
  exact ⟨displayable, shows, ⟨s, hs, read⟩, t, ht, readLine, line rfl⟩

end Value

end TermSheet
