import TermSheet.Demo.Report
import TermSheet.Proofs.Contract.Bond
import TermSheet.Proofs.Value.Display

/-!
# What the demonstration reports

The portfolio is a holding of legs, and a holding settles leg by leg: those that are due pay, and
the others make the next holding. So before a day of a run the holding has the legs that none of
the earlier days has reached, and each leg pays on the first day that is not before its maturity
and on no other.

An entry of the report is made as an object, and apart from that its payments and its residual are
displayed and printed. What is printed is read back as what the object has.

Results:
* `settle_holding`: one settlement of a holding.
* `stop_follow_holding`: the stop of a run on each of its days.
* `toJson_holding`: a holding as JSON.
* `Entry.isPrinted_text`: the text of an entry is read back as the fields of its object.
* `report_pays_each_leg_once`: all of this for the report of a configuration.
-/

namespace TermSheet

/-! ## Contracts without foreign leaves -/

namespace Contract

variable {F : Type}

/-- A contract without foreign leaves among those that may have some. -/
def widened : Contract Empty → Contract F
  | zero => zero
  | one currency => one currency
  | multiple factor inner => multiple factor inner.widened
  | later date inner => later date inner.widened
  | give inner => give inner.widened
  | both left right => both left.widened right.widened

theorem toJson?_eq_ok (c : Contract Empty) : c.toJson? = .ok c.toJson := by
  unfold toJson
  split
  next json found => exact found

theorem toJson_eq_of_toJson? {c : Contract Empty} {j : Json} (h : c.toJson? = .ok j) :
    c.toJson = j :=
  Except.ok.inj ((toJson?_eq_ok c).symm.trans h)

@[simp] theorem toJson_one (currency : Currency) : (one currency).toJson =
    .object [("type", .text "One"), ("currency", .text currency.code)] := rfl

@[simp] theorem toJson_multiple (k : Amount) (c : Contract Empty) : (multiple k c).toJson =
    .object [("type", .text "Multiple"), ("amount", .text k.text), ("contract", c.toJson)] :=
  toJson_eq_of_toJson? (bind_pure_eq_ok_iff.mpr ⟨_, toJson?_eq_ok c, rfl⟩)

@[simp] theorem toJson_later (d : Date) (c : Contract Empty) : (later d c).toJson =
    .object [("type", .text "Later"), ("date", .text d.text), ("contract", c.toJson)] :=
  toJson_eq_of_toJson? (bind_pure_eq_ok_iff.mpr ⟨_, toJson?_eq_ok c, rfl⟩)

@[simp] theorem toJson_both (a b : Contract Empty) : (both a b).toJson =
    .object [("type", .text "And"), ("contract_a", a.toJson), ("contract_b", b.toJson)] :=
  toJson_eq_of_toJson? (bind_eq_ok_iff.mpr
    ⟨_, toJson?_eq_ok a, bind_pure_eq_ok_iff.mpr ⟨_, toJson?_eq_ok b, rfl⟩⟩)

theorem toJson?_widened_of_toJson? {c : Contract Empty} {j : Json} (h : c.toJson? = .ok j) :
    (widened c : Contract F).toJson? = .ok j := by
  induction c generalizing j with
  | zero =>
    cases h
    rfl
  | one currency =>
    cases h
    rfl
  | multiple factor inner ih =>
    obtain ⟨part, hp, rfl⟩ := bind_pure_eq_ok_iff.mp h
    exact bind_pure_eq_ok_iff.mpr ⟨part, ih hp, rfl⟩
  | later date inner ih =>
    obtain ⟨part, hp, rfl⟩ := bind_pure_eq_ok_iff.mp h
    exact bind_pure_eq_ok_iff.mpr ⟨part, ih hp, rfl⟩
  | give inner ih =>
    obtain ⟨part, hp, rfl⟩ := bind_pure_eq_ok_iff.mp h
    exact bind_pure_eq_ok_iff.mpr ⟨part, ih hp, rfl⟩
  | both left right ihl ihr =>
    obtain ⟨a, ha, rest⟩ := bind_eq_ok_iff.mp h
    obtain ⟨b, hb, rfl⟩ := bind_pure_eq_ok_iff.mp rest
    exact bind_eq_ok_iff.mpr ⟨a, ihl ha, bind_pure_eq_ok_iff.mpr ⟨b, ihr hb, rfl⟩⟩
  | foreign leaf => exact leaf.elim

end Contract

/-! ## Holdings -/

namespace Demo

/-- A zero-coupon bond over the face value. -/
structure Leg where
  maturity : Date
  currency : Currency
  deriving DecidableEq

namespace Leg

def bond (leg : Leg) : Contract Empty := .bond leg.maturity faceValue leg.currency

/-- What a leg pays. -/
def payment (leg : Leg) : Payment := ⟨.long, faceValue, leg.currency⟩

/-- A leg as JSON. -/
def toJson (leg : Leg) : Json :=
  .object [("type", .text "Later"), ("date", .text leg.maturity.text),
    ("contract", .object [("type", .text "Multiple"), ("amount", .text "100"),
      ("contract", .object [("type", .text "One"), ("currency", .text leg.currency.code)])])]

/-- What a leg pays as JSON. -/
def paymentJson (leg : Leg) : Json :=
  .object [("direction", .text "Long"), ("amount", .text "100"),
    ("currency", .text leg.currency.code)]

end Leg

/-- Legs held at once, in their order. -/
def holding (legs : List Leg) : Contract Empty :=
  legs.foldr (fun leg rest => leg.bond.join rest) .zero

/-- Legs as JSON, in their order; no legs are the empty contract. -/
def holdingJson : List Leg → Json
  | [] => .object [("type", .text "Zero")]
  | [leg] => leg.toJson
  | leg :: next :: legs =>
    .object [("type", .text "And"), ("contract_a", leg.toJson),
      ("contract_b", holdingJson (next :: legs))]

/-- The legs of the portfolio. -/
def portfolioLegs : List Leg := [⟨euroMaturity, .eur⟩, ⟨poundMaturity, .gbp⟩]

theorem holding_cons (leg : Leg) (legs : List Leg) :
    holding (leg :: legs) = leg.bond.join (holding legs) := rfl

theorem holding_portfolioLegs : holding portfolioLegs = portfolio := by
  rw [portfolioLegs, holding_cons, holding_cons, holding, List.foldr_nil, Contract.join_zero]
  rfl

/-! ### Legs along days -/

/-- The day is the first one that is not before the other day: all days in front of it are. -/
def IsFirstFrom (d : Date) (before : List Date) (day : Date) : Prop :=
  d ≤ day ∧ ∀ s ∈ before, s < d

instance (d : Date) (before : List Date) (day : Date) : Decidable (IsFirstFrom d before day) :=
  inferInstanceAs (Decidable (_ ∧ _))

theorem isFirstFrom_cons {d first : Date} {before : List Date} {day : Date} :
    IsFirstFrom d (first :: before) day ↔ IsFirstFrom d before day ∧ first < d := by
  rw [IsFirstFrom, IsFirstFrom, List.forall_mem_cons, and_assoc, and_comm (a := first < d)]

/-- The legs that become due on a day behind other days. -/
def dueOn (before : List Date) (day : Date) (legs : List Leg) : List Leg :=
  legs.filter fun leg => IsFirstFrom leg.maturity before day

/-- The legs that none of the days has reached. -/
def waiting (days : List Date) (legs : List Leg) : List Leg :=
  legs.filter fun leg => ∀ s ∈ days, s < leg.maturity

/-- The legs that mature after a day. -/
def maturingAfter (day : Date) (legs : List Leg) : List Leg :=
  legs.filter (day < ·.maturity)

theorem waiting_cons (first : Date) (days : List Date) (legs : List Leg) :
    waiting (first :: days) legs = waiting days (maturingAfter first legs) := by
  simp only [waiting, maturingAfter, List.filter_filter, List.forall_mem_cons, Bool.decide_and,
    Bool.and_comm]

theorem dueOn_cons (first : Date) (before : List Date) (day : Date) (legs : List Leg) :
    dueOn (first :: before) day legs = dueOn before day (maturingAfter first legs) := by
  simp only [dueOn, maturingAfter, List.filter_filter, isFirstFrom_cons, Bool.decide_and]

/-- Along rising days, what none of the days has reached is what matures after the last. -/
theorem waiting_append_singleton {before after : List Date} {day : Date}
    (rising : (before ++ day :: after).Pairwise (· ≤ ·)) (legs : List Leg) :
    waiting (before ++ [day]) legs = maturingAfter day legs := by
  obtain ⟨-, -, earlier⟩ := List.pairwise_append.mp rising
  refine List.filter_congr fun leg _ => decide_eq_decide.mpr ⟨fun h => h day (by simp), ?_⟩
  intro early s hs
  rw [List.mem_append, List.mem_singleton] at hs
  rcases hs with hs | rfl
  · -- A day that is not after this one has not reached what matures after this one.
    have order : s ≤ day := earlier s hs day List.mem_cons_self
    exact Date.not_le_iff_lt.mp fun come =>
      Date.not_lt_of_le (Date.le_trans come order) early
  · exact early

/-! ### Settlements -/

theorem isZero_faceValue : faceValue.isZero = false := rfl

theorem isOne_faceValue : faceValue.isOne = false := by decide +kernel

theorem perUnit?_faceValue : faceValue.perUnit? = some faceValue := by decide +kernel

theorem Leg.bond_eq_later (leg : Leg) :
    leg.bond = .later leg.maturity (.multiple faceValue (.one leg.currency)) := by
  have scaled : Contract.scale faceValue (.one leg.currency) =
      (.multiple faceValue (.one leg.currency) : Contract Empty) :=
    Contract.scale_eq_multiple isZero_faceValue isOne_faceValue nofun
  rw [bond, Contract.bond, scaled]
  exact Contract.defer_eq_later leg.maturity nofun

theorem Leg.settle_bond (leg : Leg) (day : Date) :
    leg.bond.settle day =
      .ok (if leg.maturity ≤ day then ⟨[leg.payment], .zero⟩ else ⟨[], leg.bond⟩) := by
  rw [bond, Contract.bond, Contract.settle_defer,
    Contract.settle_scale_one isZero_faceValue, perUnit?_faceValue]
  split <;> rfl

/-- A holding settles leg by leg. -/
theorem settle_holding (legs : List Leg) (day : Date) :
    (holding legs).settle day =
      .ok ⟨(dueOn [] day legs).map Leg.payment, holding (maturingAfter day legs)⟩ := by
  induction legs with
  | nil => rfl
  | cons leg legs ih =>
    rw [holding_cons, Contract.settle_join_eq, leg.settle_bond, ih, ok_bind, ok_bind]
    by_cases due : leg.maturity ≤ day
    · have gone : ¬ day < leg.maturity := Date.not_lt_of_le due
      simp [due, gone, dueOn, IsFirstFrom, maturingAfter, Settlement.joined]
    · have early : day < leg.maturity := Date.not_le_iff_lt.mp due
      simp [due, early, dueOn, IsFirstFrom, maturingAfter, Settlement.joined, holding_cons]

/-! ### Runs -/

theorem follow_holding_cons (legs : List Leg) (day : Date) (days : List Date) :
    (holding legs).follow (day :: days) =
      ⟨(day, ⟨(dueOn [] day legs).map Leg.payment, holding (maturingAfter day legs)⟩) ::
          ((holding (maturingAfter day legs)).follow days).stops,
        ((holding (maturingAfter day legs)).follow days).fault⟩ :=
  Contract.follow_cons_of_settle (settle_holding legs day)

/-- A run of a holding has a stop on every day. -/
theorem days_follow_holding (legs : List Leg) (days : List Date) :
    ((holding legs).follow days).stops.map Prod.fst = days := by
  induction days generalizing legs with
  | nil => rfl
  | cons day days ih => rw [follow_holding_cons, List.map_cons, ih]

/-- On each day of a run, the legs that become due are paid and those that no day has reached are
    left. -/
theorem stop_follow_holding (legs : List Leg) (before : List Date) (day : Date)
    (after : List Date) :
    ((holding legs).follow (before ++ day :: after)).stops[before.length]? =
      some (day, ⟨(dueOn before day legs).map Leg.payment,
        holding (waiting (before ++ [day]) legs)⟩) := by
  -- What the first day leaves is a holding again, so the induction is on the days in front.
  induction before generalizing legs with
  | nil =>
    have left : waiting [day] legs = maturingAfter day legs := by simp [waiting, maturingAfter]
    rw [List.nil_append, List.nil_append, follow_holding_cons, left]
    rfl
  | cons first before ih =>
    rw [List.cons_append, follow_holding_cons, List.length_cons, List.getElem?_cons_succ, ih,
      List.cons_append, waiting_cons, dueOn_cons]

/-! ### JSON -/

theorem text_faceValue : faceValue.text = "100" := by decide +kernel

theorem Leg.toJson_payment (leg : Leg) : leg.payment.toJson = leg.paymentJson := by
  rw [payment, Payment.toJson, text_faceValue]
  rfl

theorem Leg.toJson_bond (leg : Leg) : leg.bond.toJson = leg.toJson := by
  rw [bond_eq_later, Contract.toJson_later, Contract.toJson_multiple, Contract.toJson_one,
    text_faceValue]
  rfl

theorem Leg.bond_ne_zero (leg : Leg) : leg.bond ≠ .zero := by
  rw [bond_eq_later]
  nofun

theorem holding_cons_ne_zero (leg : Leg) (legs : List Leg) : holding (leg :: legs) ≠ .zero := by
  have bond := leg.bond_ne_zero
  rcases Contract.join_cases leg.bond (holding legs) with h | h | ⟨-, -, h⟩
  · exact absurd h bond
  · rwa [holding_cons, h, Contract.join_zero]
  · rw [holding_cons, h]
    nofun

theorem toJson_holding (legs : List Leg) : (holding legs).toJson = holdingJson legs := by
  fun_induction holdingJson legs with
  | case1 => rfl
  | case2 leg => rw [holding_cons, holding, List.foldr_nil, Contract.join_zero, leg.toJson_bond]
  | case3 leg next legs ih =>
    rw [holding_cons, Contract.join_eq_both leg.bond_ne_zero (holding_cons_ne_zero next legs),
      Contract.toJson_both, leg.toJson_bond, ih]

/-! ## Printed texts -/

theorem shows_payments (payments : List Payment) :
    (Value.list (payments.map Value.payment)).Shows (.array (payments.map Payment.toJson)) := by
  refine .list (by simp) fun v j h => ?_
  rw [List.zip_map', List.mem_map] at h
  obtain ⟨p, -, h⟩ := h
  cases h
  exact .payment p

theorem shows_contract (c : Contract Empty) : (Value.contract c.widened).Shows c.toJson :=
  .contract (Contract.toJson?_widened_of_toJson? (Contract.toJson?_eq_ok c))

namespace Entry

/-- A text is what is printed of an entry: the line of its day, and then two texts with a line end
    behind each. They are what the payments and the residual are displayed as, and they are read
    back as the fields of the entry. -/
def IsPrinted (layout : Json.Layout) (e : Entry) (s : String) : Prop :=
  ∃ payments residual : String, ∃ p r : Json,
    s = "# " ++ e.asOf.text ++ "\n" ++ payments ++ "\n" ++ residual ++ "\n" ∧
      (Value.list (e.payments.map Value.payment)).displayText layout = .ok payments ∧
      (Value.contract e.residual.widened).displayText layout = .ok residual ∧
      e.toJson = .object [("as_of", .text e.asOf.text), ("payments", p), ("residual", r)] ∧
      Json.ofText? payments = some p ∧ Json.ofText? residual = some r

theorem isPrinted_text {layout : Json.Layout} (writable : layout.fault? = none) (e : Entry) :
    e.IsPrinted layout (e.text layout) := by
  have payments := shows_payments e.payments
  have residual := shows_contract e.residual
  exact ⟨e.paymentsJson.render layout, e.residual.toJson.render layout, e.paymentsJson,
    e.residual.toJson, rfl, payments.displayText writable, residual.displayText writable, rfl,
    Json.ofText?_render payments.isFinite layout, Json.ofText?_render residual.isFinite layout⟩

end Entry

/-! ## The report -/

theorem asOf_report (schedule : Schedule) : (report schedule).map Entry.asOf = schedule.days := by
  rw [report, List.map_map, ← holding_portfolioLegs]
  exact days_follow_holding portfolioLegs schedule.days

theorem entry_report {schedule : Schedule} {before after : List Date} {day : Date}
    (split : schedule.days = before ++ day :: after) :
    (report schedule)[before.length]? =
      some ⟨day, (dueOn before day portfolioLegs).map Leg.payment,
        holding (maturingAfter day portfolioLegs)⟩ := by
  have rising := schedule.rising
  rw [split] at rising
  rw [report, List.getElem?_map, ← holding_portfolioLegs, split, stop_follow_holding,
    waiting_append_singleton rising]
  rfl

theorem toJson_entry (asOf : Date) (paid left : List Leg) :
    Entry.toJson ⟨asOf, paid.map Leg.payment, holding left⟩ =
      .object [("as_of", .text asOf.text), ("payments", .array (paid.map Leg.paymentJson)),
        ("residual", holdingJson left)] := by
  simp only [Entry.toJson, Entry.paymentsJson, List.map_map, Function.comp_def,
    Leg.toJson_payment, toJson_holding]

theorem payments_dueOn_portfolioLegs (before : List Date) (day : Date) :
    (dueOn before day portfolioLegs).map Leg.payment =
      (if IsFirstFrom euroMaturity before day then [⟨.long, faceValue, .eur⟩] else []) ++
        (if IsFirstFrom poundMaturity before day then [⟨.long, faceValue, .gbp⟩] else []) := by
  simp only [dueOn, portfolioLegs, List.filter_cons, List.filter_nil, decide_eq_true_eq]
  split_ifs <;> rfl

/-- In a layout that can be written, every entry is printed in its place. -/
theorem printout_report {layout : Json.Layout} (writable : layout.fault? = none)
    (entries : List Entry) :
    ∃ texts, List.Forall₂ (Entry.IsPrinted layout) entries texts ∧
      printout layout entries = ⟨String.join texts, entries, none⟩ := by
  refine ⟨entries.map (Entry.text layout), ?_, printout_of_writable writable entries⟩
  rw [List.forall₂_map_right_iff, List.forall₂_same]
  exact fun e _ => e.isPrinted_text writable

/-- **The report of the demonstration.** It has an entry for every day of the schedule, in order.
    The bond in euros is paid on the first day that is not before its maturity and on no other, and
    so is the bond in pounds, behind it when both are paid on one day; nothing else is ever paid.
    The residual of an entry has the legs that mature after its day. In every layout that can be
    written, each entry is printed as the line of its day and two texts that are read back as its
    payments and its residual. -/
theorem report_pays_each_leg_once (config : Config) (writable : config.layout.fault? = none) :
    (report config.schedule).map Entry.asOf = config.schedule.days ∧
      (∀ before day after, config.schedule.days = before ++ day :: after →
        ∃ e, (report config.schedule)[before.length]? = some e ∧
          e.asOf = day ∧
          e.payments =
            (if IsFirstFrom euroMaturity before day then [⟨.long, faceValue, .eur⟩] else []) ++
              (if IsFirstFrom poundMaturity before day then [⟨.long, faceValue, .gbp⟩] else []) ∧
          e.toJson = .object [("as_of", .text day.text),
            ("payments", .array ((dueOn before day portfolioLegs).map Leg.paymentJson)),
            ("residual", holdingJson (maturingAfter day portfolioLegs))]) ∧
      ∃ texts, List.Forall₂ (Entry.IsPrinted config.layout) (report config.schedule) texts ∧
        printout config.layout (report config.schedule) =
          ⟨String.join texts, report config.schedule, none⟩ := by
  refine ⟨asOf_report config.schedule, fun before day after split => ?_,
    printout_report writable (report config.schedule)⟩
  exact ⟨_, entry_report split, rfl, payments_dueOn_portfolioLegs before day, toJson_entry day _ _⟩

/-- A day that comes twice and a layout of lines, and both bonds on one day in a single line. -/
theorem report_pays_each_leg_once_of_repeated_day :
    let eve : Date := ⟨2020, 12, 23, by decide⟩
    let gap : Date := ⟨2020, 12, 25, by decide⟩
    let late : Date := ⟨2021, 1, 1, by decide⟩
    let euros : Leg := ⟨euroMaturity, .eur⟩
    let pounds : Leg := ⟨poundMaturity, .gbp⟩
    let lines : Config := { schedule := ⟨[eve, gap, gap, late], by decide⟩, layout := some 3 }
    let line : Config := { schedule := ⟨[late], by decide⟩, layout := none }
    lines.layout.fault? = none ∧ line.layout.fault? = none ∧
      (∃ e, (report lines.schedule)[1]? = some e ∧
        e.toJson = .object [("as_of", .text gap.text), ("payments", .array [euros.paymentJson]),
          ("residual", pounds.toJson)]) ∧
      (∃ e, (report lines.schedule)[2]? = some e ∧
        e.toJson = .object [("as_of", .text gap.text), ("payments", .array []),
          ("residual", pounds.toJson)]) ∧
      (∃ e, (report line.schedule)[0]? = some e ∧
        e.toJson = .object [("as_of", .text late.text),
          ("payments", .array [euros.paymentJson, pounds.paymentJson]),
          ("residual", .object [("type", .text "Zero")])]) ∧
      ∃ texts, List.Forall₂ (Entry.IsPrinted (some 3)) (report lines.schedule) texts ∧
        (printout (some 3) (report lines.schedule)).text = String.join texts := by
  intro eve gap late euros pounds lines line
  have hl : lines.layout.fault? = none := by decide +kernel
  have hn : line.layout.fault? = none := by decide +kernel
  obtain ⟨-, entries, texts, printed, all⟩ := report_pays_each_leg_once lines hl
  obtain ⟨-, only, -⟩ := report_pays_each_leg_once line hn
  obtain ⟨second, hs, -, -, secondJson⟩ := entries [eve] gap [gap, late] rfl
  obtain ⟨third, ht, -, -, thirdJson⟩ := entries [eve, gap] gap [late] rfl
  obtain ⟨single, ho, -, -, singleJson⟩ := only [] late [] rfl
  have first : dueOn [eve] gap portfolioLegs = [euros] := by decide
  have again : dueOn [eve, gap] gap portfolioLegs = [] := by decide
  have both : dueOn [] late portfolioLegs = [euros, pounds] := by decide
  have left : maturingAfter gap portfolioLegs = [pounds] := by decide
  have nothing : maturingAfter late portfolioLegs = [] := by decide
  rw [first, left] at secondJson
  rw [again, left] at thirdJson
  rw [both, nothing] at singleJson
  exact ⟨hl, hn, ⟨second, hs, secondJson⟩, ⟨third, ht, thirdJson⟩, ⟨single, ho, singleJson⟩,
    texts, printed, congrArg Printout.text all⟩

end Demo

end TermSheet
