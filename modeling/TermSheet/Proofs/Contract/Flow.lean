import TermSheet.Proofs.Calendar.Order
import TermSheet.Proofs.Contract.Normal

/-!
# Cash flows

A contract stands for a list of cash flows, one for each of its units of a currency, from left to
right. What a flow is can be read off the layers between the unit and the root: it is due when the
latest of the days above it has come, it is paid by the holder when the contract is turned round an
odd number of times above it, and its amount is one, multiplied by the factors above it from the
inside out.

Results:
* `map_payments_of_settle`: a settlement pays exactly the flows that are due.
* `settle_eq_ok_iff_flows`: when a whole contract can be settled.
* `flows_outstanding`: what is outstanding of a normal contract has exactly the other flows.
* `settle_pays_due_flows`: both for the contracts that the builders make, with the condition under
  which they can be settled.
-/

namespace TermSheet

/-! ## Layers and flows -/

/-- A step from a contract to the one that holds it. -/
inductive Layer
  | factor (k : Amount)
  | date (d : Date)
  | side
  deriving DecidableEq

namespace Layer

/-- The factor of a scaling layer. -/
def factor? : Layer → Option Amount
  | factor k => some k
  | _ => none

/-- The day of a deferring layer. -/
def date? : Layer → Option Date
  | date d => some d
  | _ => none

end Layer

/-- A cash flow: the day from which it is due, if it has to wait, its direction, its amount, if no
    product overflows on the way, and its currency. -/
structure Flow where
  due : Option Date
  direction : Direction
  amount? : Option Amount
  currency : Currency
  deriving DecidableEq

namespace Flow

/-- The flow of a unit of a currency under a path of layers, the outermost first. -/
def ofPath (path : List Layer) (currency : Currency) : Flow where
  due := (path.filterMap Layer.date?).max?
  direction := if path.count Layer.side % 2 = 0 then .long else .short
  amount? := (path.filterMap Layer.factor?).foldrM Amount.mul? Amount.unit
  currency

/-- The day of a flow has come. A flow without a day is always due. -/
def IsDue (f : Flow) (t : Date) : Prop := ∀ d ∈ f.due, d ≤ t

instance (f : Flow) (t : Date) : Decidable (f.IsDue t) := Option.decidableForallMem f.due

/-- The payment that a flow becomes. -/
def payment? (f : Flow) : Option Payment :=
  f.amount?.map fun amount => ⟨f.direction, amount, f.currency⟩

/-- A flow with one more layer around it. -/
def under (f : Flow) : Layer → Flow
  | .factor k => { f with amount? := f.amount?.bind k.mul? }
  | .date d => { f with due := some (f.due.elim d (max d)) }
  | .side => { f with direction := f.direction.inverted }

theorem ofPath_cons (layer : Layer) (path : List Layer) (currency : Currency) :
    ofPath (layer :: path) currency = (ofPath path currency).under layer := by
  cases layer with
  | factor k =>
    simp only [ofPath, under, List.filterMap_cons, Layer.factor?, Layer.date?, List.foldrM_cons]
    rw [List.count_cons_of_ne (by simp)]
    rfl
  | date d =>
    simp only [ofPath, under, List.filterMap_cons, Layer.factor?, Layer.date?, List.max?_cons]
    rw [List.count_cons_of_ne (by simp)]
  | side =>
    simp only [ofPath, under, List.filterMap_cons, Layer.factor?, Layer.date?,
      List.count_cons_self]
    congr 1
    rcases Nat.mod_two_eq_zero_or_one (path.count Layer.side) with even | odd
    · rw [if_pos even, if_neg (by omega), Direction.inverted]
    · rw [if_pos (by omega), if_neg (by omega), Direction.inverted]

/-! ## When a flow is due, and what it pays -/

theorem IsDue.mono {f : Flow} {s t : Date} (h : f.IsDue s) (order : s ≤ t) : f.IsDue t := by
  intro day hday
  exact Date.le_trans (h day hday) order

theorem isDue_date_iff {f : Flow} {d t : Date} :
    (f.under (.date d)).IsDue t ↔ d ≤ t ∧ f.IsDue t := by
  obtain ⟨due, direction, amount, currency⟩ := f
  cases due with
  | none => simp [under, IsDue]
  | some e => simp [under, IsDue, Date.max_le_iff]

/-- A day that has come does not matter to a flow that has to wait anyway. -/
theorem under_date_of_not_isDue {f : Flow} {d t : Date} (hd : d ≤ t) (hf : ¬ f.IsDue t) :
    f.under (.date d) = f := by
  obtain ⟨due, direction, amount, currency⟩ := f
  cases due with
  | none => exact absurd (by simp [IsDue]) hf
  | some e =>
    have wait : ¬ e ≤ t := by simpa [IsDue] using hf
    have order : d ≤ e := by
      rw [Date.not_le_iff_lt] at wait
      exact Date.le_trans hd (Nat.le_of_lt wait)
    simp only [under, Option.elim, Date.max_eq_right order]

theorem payment?_factor (f : Flow) (k : Amount) :
    (f.under (.factor k)).payment? = f.payment?.bind (·.scaled? k) := by
  obtain ⟨due, direction, amount, currency⟩ := f
  cases amount <;> rfl

theorem payment?_side (f : Flow) :
    (f.under .side).payment? = f.payment?.bind fun p => some p.inverted := by
  obtain ⟨due, direction, amount, currency⟩ := f
  cases amount <;> rfl

theorem map_payment?_factor (k : Amount) (fs : List Flow) :
    (fs.map (·.under (.factor k))).map payment? =
      fs.map fun f => f.payment?.bind (·.scaled? k) := by
  rw [List.map_map]
  apply List.map_congr_left
  intro f _
  exact payment?_factor f k

theorem map_payment?_side (fs : List Flow) :
    (fs.map (·.under .side)).map payment? =
      fs.map fun f => f.payment?.bind fun p => some p.inverted := by
  rw [List.map_map]
  apply List.map_congr_left
  intro f _
  exact payment?_side f

/-- When a payment is due does not change what is paid. -/
theorem map_payment?_date (d : Date) (fs : List Flow) :
    (fs.map (·.under (.date d))).map payment? = fs.map payment? := by
  rw [List.map_map]
  rfl

theorem isSome_payment?_iff {f : Flow} : f.payment?.isSome ↔ f.amount?.isSome := by
  rw [payment?, Option.isSome_map]

end Flow

namespace Contract

variable {F : Type} {t : Date}

/-- The units of a currency in a contract from left to right, each with the layers above it, the
    outermost first. -/
def leaves : Contract F → List (List Layer × Currency)
  | zero | foreign _ => []
  | one currency => [([], currency)]
  | multiple factor inner => inner.leaves.map (·.map (.factor factor :: ·) id)
  | later date inner => inner.leaves.map (·.map (.date date :: ·) id)
  | give inner => inner.leaves.map (·.map (.side :: ·) id)
  | both left right => left.leaves ++ right.leaves

/-- The cash flows of a contract, from left to right. -/
def flows (c : Contract F) : List Flow := c.leaves.map fun leaf => .ofPath leaf.1 leaf.2

/-! ## The flows of each variant -/

theorem flows_multiple (k : Amount) (c : Contract F) :
    (multiple k c).flows = c.flows.map (·.under (.factor k)) := by
  simp only [flows, leaves, List.map_map, Function.comp_def, Prod.map, id, Flow.ofPath_cons]

theorem flows_later (d : Date) (c : Contract F) :
    (later d c).flows = c.flows.map (·.under (.date d)) := by
  simp only [flows, leaves, List.map_map, Function.comp_def, Prod.map, id, Flow.ofPath_cons]

theorem flows_give (c : Contract F) : (give c).flows = c.flows.map (·.under .side) := by
  simp only [flows, leaves, List.map_map, Function.comp_def, Prod.map, id, Flow.ofPath_cons]

theorem flows_both (a b : Contract F) : (both a b).flows = a.flows ++ b.flows := by
  rw [flows, leaves, List.map_append]
  rfl

theorem flows_scale {k : Amount} (hz : k.isZero = false) (ho : k.isOne = false)
    (c : Contract F) : (scale k c).flows = c.flows.map (·.under (.factor k)) := by
  rw [apply_scale flows hz ho rfl, flows_multiple]

theorem flows_reverse (c : Contract F) : (reverse c).flows = c.flows.map (·.under .side) := by
  rw [apply_reverse flows rfl, flows_give]

theorem flows_join (a b : Contract F) : (join a b).flows = a.flows ++ b.flows := by
  have right (c : Contract F) : (both c zero).flows = c.flows := by
    rw [flows_both]
    exact List.append_nil c.flows
  rw [apply_join flows (fun _ => rfl) right, flows_both]

/-! ## Flows that are due, and flows that are not -/

/-- The flows of a contract whose day has come, or those whose day has not. -/
def flowsWhere (t : Date) (due : Bool) (c : Contract F) : List Flow :=
  c.flows.filter fun f => decide (f.IsDue t) == due

variable {due : Bool}

theorem flowsWhere_multiple (k : Amount) (c : Contract F) :
    (multiple k c).flowsWhere t due = (c.flowsWhere t due).map (·.under (.factor k)) := by
  rw [flowsWhere, flows_multiple, List.filter_map]
  rfl

theorem flowsWhere_give (c : Contract F) :
    (give c).flowsWhere t due = (c.flowsWhere t due).map (·.under .side) := by
  rw [flowsWhere, flows_give, List.filter_map]
  rfl

theorem flowsWhere_both (a b : Contract F) :
    (both a b).flowsWhere t due = a.flowsWhere t due ++ b.flowsWhere t due := by
  rw [flowsWhere, flows_both, List.filter_append]
  rfl

theorem flowsWhere_later_of_le {d : Date} (h : d ≤ t) (c : Contract F) :
    (later d c).flowsWhere t due = (c.flowsWhere t due).map (·.under (.date d)) := by
  rw [flowsWhere, flows_later, List.filter_map, flowsWhere]
  congr 2
  funext f
  simp [Flow.isDue_date_iff, h]

/-- A day that has come can be dropped: the flows that stay open wait for a later one. -/
theorem openFlows_later_of_le {d : Date} (h : d ≤ t) (c : Contract F) :
    (later d c).flowsWhere t false = c.flowsWhere t false := by
  rw [flowsWhere_later_of_le h]
  conv_rhs => rw [← List.map_id (c.flowsWhere t false)]
  apply List.map_congr_left
  intro f hf
  have waits : ¬ f.IsDue t := by simpa using (List.mem_filter.mp hf).2
  exact Flow.under_date_of_not_isDue h waits

theorem not_isDue_of_mem_flows_later {d : Date} (h : ¬ d ≤ t) {c : Contract F} {f : Flow}
    (hf : f ∈ (later d c).flows) : ¬ f.IsDue t := by
  rw [flows_later] at hf
  obtain ⟨g, -, rfl⟩ := List.mem_map.mp hf
  rw [Flow.isDue_date_iff]
  exact fun come => h come.1

theorem dueFlows_later_of_lt {d : Date} (h : ¬ d ≤ t) (c : Contract F) :
    (later d c).flowsWhere t true = [] := by
  rw [flowsWhere, List.filter_eq_nil_iff]
  intro f hf
  simpa using not_isDue_of_mem_flows_later h hf

theorem openFlows_later_of_lt {d : Date} (h : ¬ d ≤ t) (c : Contract F) :
    (later d c).flowsWhere t false = (later d c).flows := by
  rw [flowsWhere, List.filter_eq_self]
  intro f hf
  simpa using not_isDue_of_mem_flows_later h hf

/-! ## Settling -/

/-- A settlement pays exactly the flows that are due. -/
theorem map_payments_of_settle {c : Contract F} {s : Settlement F} (h : c.settle t = .ok s) :
    s.payments.map some = (c.flowsWhere t true).map Flow.payment? := by
  induction c generalizing s with
  | zero =>
    cases h
    rfl
  | one currency =>
    cases h
    rfl
  | multiple factor inner ih =>
    -- The payments of the inner contract come first, then their products.
    obtain ⟨r, hr, scaled, -⟩ := settle_multiple_eq_ok_iff.mp h
    rw [flowsWhere_multiple, Flow.map_payment?_factor, map_some_eq_map_bind_iff]
    exact ⟨r.payments, ih hr, scaled⟩
  | later date inner ih =>
    by_cases due : date ≤ t
    · rw [settle_later_of_le due] at h
      rw [flowsWhere_later_of_le due, Flow.map_payment?_date, ih h]
    · rw [settle_later_of_lt due] at h
      cases h
      rw [dueFlows_later_of_lt due]
      rfl
  | give inner ih =>
    obtain ⟨r, hr, rfl⟩ := settle_give_eq_ok_iff.mp h
    rw [flowsWhere_give, Flow.map_payment?_side, map_some_eq_map_bind_iff]
    exact ⟨r.payments, ih hr, List.map_map⟩
  | both left right ihl ihr =>
    obtain ⟨r, u, hr, hu, rfl⟩ := settle_both_eq_ok_iff.mp h
    rw [flowsWhere_both, List.map_append, List.map_append, ihl hr, ihr hu]
  | foreign leaf => cases h

theorem payments_eq_of_settle {c : Contract F} {s : Settlement F} (h : c.settle t = .ok s)
    {ps : List Payment} (paid : ps.map some = (c.flowsWhere t true).map Flow.payment?) :
    s.payments = ps :=
  List.map_injective_iff.mpr (Option.some_injective Payment)
    ((map_payments_of_settle h).trans paid.symm)

/-- A contract without foreign leaves can be settled when its due flows can be paid. -/
theorem exists_settle_of_flows {c : Contract F} (h : c.IsWhole) {ps : List Payment}
    (paid : ps.map some = (c.flowsWhere t true).map Flow.payment?) : ∃ s, c.settle t = .ok s := by
  induction c generalizing ps with
  | zero => exact ⟨_, rfl⟩
  | one currency => exact ⟨_, rfl⟩
  | multiple factor inner ih =>
    rw [flowsWhere_multiple, Flow.map_payment?_factor, map_some_eq_map_bind_iff] at paid
    obtain ⟨rs, hrs, scaled⟩ := paid
    obtain ⟨r, hr⟩ := ih h hrs
    rw [← payments_eq_of_settle hr hrs] at scaled
    exact ⟨⟨ps, scale factor r.residual⟩, settle_multiple_eq_ok_iff.mpr ⟨r, hr, scaled, rfl⟩⟩
  | later date inner ih =>
    by_cases due : date ≤ t
    · rw [flowsWhere_later_of_le due, Flow.map_payment?_date] at paid
      rw [settle_later_of_le due]
      exact ih h paid
    · exact ⟨_, settle_later_of_lt due inner⟩
  | give inner ih =>
    rw [flowsWhere_give, Flow.map_payment?_side, map_some_eq_map_bind_iff] at paid
    obtain ⟨rs, hrs, -⟩ := paid
    obtain ⟨r, hr⟩ := ih h hrs
    exact ⟨_, settle_give_eq_ok_iff.mpr ⟨r, hr, rfl⟩⟩
  | both left right ihl ihr =>
    obtain ⟨hl, hr⟩ := isWhole_both_iff.mp h
    rw [flowsWhere_both, List.map_append, List.map_eq_append_iff] at paid
    obtain ⟨rs, us, -, hrs, hus⟩ := paid
    obtain ⟨r, settledl⟩ := ihl hl hrs
    obtain ⟨u, settledr⟩ := ihr hr hus
    exact ⟨_, settle_both_eq_ok_iff.mpr ⟨r, u, settledl, settledr, rfl⟩⟩
  | foreign leaf => cases h

/-- Settling a contract without foreign leaves pays exactly the flows that are due and leaves what
    is outstanding; it fails when the amount of one of these flows cannot be computed. -/
theorem settle_eq_ok_iff_flows {c : Contract F} (h : c.IsWhole) {s : Settlement F} :
    c.settle t = .ok s ↔
      s.payments.map some = (c.flowsWhere t true).map Flow.payment? ∧
        s.residual = c.outstanding t := by
  constructor
  · exact fun settled => ⟨map_payments_of_settle settled, residual_eq_outstanding settled⟩
  · rintro ⟨paid, residual⟩
    obtain ⟨u, settled⟩ := exists_settle_of_flows h paid
    have same : s = u := Settlement.eq_of_parts (payments_eq_of_settle settled paid).symm
      (residual.trans (residual_eq_outstanding settled).symm)
    rw [same, settled]

/-- A contract without foreign leaves can be settled when the amounts of its due flows can be
    computed. -/
theorem exists_settle_iff_flows {c : Contract F} (h : c.IsWhole) :
    (∃ s, c.settle t = .ok s) ↔ ∀ f ∈ c.flowsWhere t true, f.amount?.isSome := by
  have paid : (∃ s, c.settle t = .ok s) ↔
      ∃ ps : List Payment, ps.map some = (c.flowsWhere t true).map Flow.payment? :=
    ⟨fun ⟨s, hs⟩ => ⟨s.payments, map_payments_of_settle hs⟩,
      fun ⟨_, hps⟩ => exists_settle_of_flows h hps⟩
  rw [paid, exists_map_some_iff]
  simp only [List.forall_mem_map, Flow.isSome_payment?_iff]

/-! ## What stays open -/

/-- What is outstanding of a normal contract has exactly the flows that were open. -/
theorem flows_outstanding {c : Contract F} (h : c.IsNormal) :
    (c.outstanding t).flows = c.flowsWhere t false := by
  rcases h with rfl | h
  · rfl
  induction c with
  | zero => exact absurd rfl h.ne_zero
  | one currency => simp [outstanding, flows, leaves, flowsWhere, Flow.ofPath, Flow.IsDue]
  | multiple factor inner ih =>
    -- A factor of one would be dropped, and the product with it could be written differently.
    obtain ⟨hz, ho, hi⟩ := isTight_multiple_iff.mp h
    rw [outstanding, flows_scale hz ho, ih hi, flowsWhere_multiple]
  | later date inner ih =>
    by_cases due : date ≤ t
    · rw [outstanding, if_pos due, ih h, openFlows_later_of_le due]
    · rw [outstanding, if_neg due, openFlows_later_of_lt due]
  | give inner ih => rw [outstanding, flows_reverse, ih h, flowsWhere_give]
  | both left right ihl ihr => rw [outstanding, flows_join, ihl h.1, ihr h.2, flowsWhere_both]
  | foreign leaf => rfl

/-- **Cash flows.** A contract made with the builders can be settled exactly when the amounts of
    its due flows can be computed. It then pays these flows in their order, and its residual has the
    other flows in their order, each unchanged. -/
theorem settle_pays_due_flows {c : Contract F} (h : Built c) (t : Date) :
    ((∃ s, c.settle t = .ok s) ↔ ∀ f ∈ c.flows, f.IsDue t → f.amount?.isSome) ∧
      ∀ s, c.settle t = .ok s →
        s.payments.map some = (c.flows.filter (·.IsDue t)).map Flow.payment? ∧
        s.residual.flows = c.flows.filter (¬ ·.IsDue t) := by
  constructor
  · rw [exists_settle_iff_flows h.isWhole]
    simp only [flowsWhere, List.mem_filter, beq_true, decide_eq_true_eq, and_imp]
  · intro s hs
    obtain ⟨payments, residual⟩ := (settle_eq_ok_iff_flows h.isWhole).mp hs
    have waiting : (fun f : Flow => decide (f.IsDue t) == false) =
        fun f => decide (¬ f.IsDue t) := by
      funext f
      simp
    rw [flowsWhere] at payments
    rw [residual, flows_outstanding h.isNormal, flowsWhere, waiting]
    exact ⟨by simpa only [beq_true] using payments, rfl⟩

/-- A bond that has to wait, and a debt of three pounds that is due. -/
theorem settle_pays_due_flows_of_bond_and_debt :
    Built (join (bond ⟨2021, 5, 2, by decide⟩ ⟨⟨false, 250, -2⟩⟩ .eur)
      (reverse (scale ⟨⟨false, 3, 0⟩⟩ (one .gbp))) : Contract Empty) ∧
    ∃ s, (join (bond ⟨2021, 5, 2, by decide⟩ ⟨⟨false, 250, -2⟩⟩ .eur)
        (reverse (scale ⟨⟨false, 3, 0⟩⟩ (one .gbp))) : Contract Empty).settle
          ⟨2021, 5, 1, by decide⟩ = .ok s ∧
      s.payments.map some = [some ⟨.short, ⟨⟨false, 3, 0⟩⟩, .gbp⟩] ∧
      s.residual.flows =
        [⟨some ⟨2021, 5, 2, by decide⟩, .long, some ⟨⟨false, 250, -2⟩⟩, .eur⟩] := by
  have built : Built (join (bond ⟨2021, 5, 2, by decide⟩ ⟨⟨false, 250, -2⟩⟩ .eur)
      (reverse (scale ⟨⟨false, 3, 0⟩⟩ (one .gbp))) : Contract Empty) :=
    .join (.bond _ _ _) (.reverse (.scale _ (.one _)))
  obtain ⟨computed, paid⟩ := settle_pays_due_flows built ⟨2021, 5, 1, by decide⟩
  obtain ⟨s, hs⟩ := computed.mpr (by decide +kernel)
  obtain ⟨payments, flows⟩ := paid s hs
  exact ⟨built, s, hs, payments.trans (by decide +kernel), flows.trans (by decide +kernel)⟩

end Contract

end TermSheet
