import TermSheet.Proofs.Contract.Flow
import TermSheet.Proofs.Contract.Run

/-!
# Which fault is reported

Settling a contract visits its parts from left to right, and the contract under a factor before the
products with that factor, which are computed in the order of the payments. What waits for a day
that has not come is not visited. On its way the visit meets foreign leaves and products;
`Contract.visit` lists them, as if nothing could end it. The contract is settled when no foreign
leaf and no product that overflows is in the list, and otherwise the first of them is the fault.

Results:
* `fault?_settle`: the fault of a settlement is the first one on the visit.
* `settle_eq_error_iff`, `exists_settle_iff_visit`: the two outcomes of a settlement.
* `foreign_mem_visit_iff`: the visit meets the foreign leaves that do not wait.
-/

namespace TermSheet

variable {F : Type}

/-- What a visit can end with. -/
inductive Encounter (F : Type)
  /-- A foreign leaf. -/
  | foreign (leaf : F)
  /-- The product of a factor and the amount of a payment. -/
  | product (factor amount : Amount)
  deriving DecidableEq

/-- A foreign leaf is a fault, and so is a product that overflows. -/
def Encounter.fault? : Encounter F → Option (SettlementFault F)
  | foreign leaf => some (.foreign leaf)
  | product factor amount =>
    if (factor.mul? amount).isSome then none else some (.overflow factor amount)

theorem Encounter.fault?_eq_foreign_iff {e : Encounter F} {leaf : F} :
    e.fault? = some (.foreign leaf) ↔ e = .foreign leaf := by
  cases e with
  | foreign other => simp [fault?]
  | product factor amount => simp [fault?]

theorem fault?_scaledOrFault (k : Amount) (p : Payment) :
    fault? (p.scaledOrFault (F := F) k) = (Encounter.product k p.amount).fault? := by
  rw [Payment.scaledOrFault, Payment.scaled?, Encounter.fault?]
  cases k.mul? p.amount <;> rfl

theorem Settlement.fault?_scaled (k : Amount) (s : Settlement F) :
    fault? (s.scaled k) =
      ((s.payments.map Payment.amount).map (Encounter.product k)).findSome? Encounter.fault? := by
  rw [Settlement.scaled, fault?_bind_pure, fault?_mapM, List.findSome?_map, List.findSome?_map]
  congr 1
  funext p
  exact fault?_scaledOrFault k p

namespace Layer

/-- Every day on a path has come. -/
def AreDue (path : List Layer) (t : Date) : Prop := ∀ d ∈ path.filterMap date?, d ≤ t

instance (path : List Layer) (t : Date) : Decidable (AreDue path t) :=
  inferInstanceAs (Decidable (∀ d ∈ path.filterMap date?, d ≤ t))

theorem areDue_cons_iff {layer : Layer} {path : List Layer} {t : Date} :
    AreDue (layer :: path) t ↔ (∀ d ∈ layer.date?, d ≤ t) ∧ AreDue path t := by
  unfold AreDue
  cases layer <;> simp [date?]

/-- One more layer around some paths. -/
theorem exists_areDue_under {α : Type} {layer : Layer} {paths : List (List Layer × α)} {a : α}
    {t : Date} :
    (∃ path, (path, a) ∈ paths.map (·.map (layer :: ·) id) ∧ AreDue path t) ↔
      (∀ d ∈ layer.date?, d ≤ t) ∧ ∃ path, (path, a) ∈ paths ∧ AreDue path t := by
  constructor
  · rintro ⟨_, mem, due⟩
    obtain ⟨⟨path, b⟩, found, same⟩ := List.mem_map.mp mem
    cases same
    obtain ⟨first, rest⟩ := areDue_cons_iff.mp due
    exact ⟨first, path, found, rest⟩
  · rintro ⟨first, path, found, rest⟩
    exact ⟨layer :: path, List.mem_map.mpr ⟨_, found, rfl⟩, areDue_cons_iff.mpr ⟨first, rest⟩⟩

end Layer

namespace Contract

variable {t : Date}

/-- The foreign leaves and the products on the visit to a contract, in order. The payments that are
    multiplied are the flows that are due. -/
def visit (t : Date) : Contract F → List (Encounter F)
  | zero | one _ => []
  | multiple factor inner =>
    inner.visit t ++ ((inner.flowsWhere t true).filterMap Flow.amount?).map (.product factor)
  | later date inner => if date ≤ t then inner.visit t else []
  | give inner => inner.visit t
  | both left right => left.visit t ++ right.visit t
  | foreign leaf => [.foreign leaf]

/-! ## Faults -/

/-- The amounts that a contract pays are those of its due flows. -/
theorem map_amount_of_settle {c : Contract F} {s : Settlement F} (h : c.settle t = .ok s) :
    s.payments.map Payment.amount = (c.flowsWhere t true).filterMap Flow.amount? := by
  have paid := eq_filterMap_of_map_some_eq (map_payments_of_settle h)
  have amounts (f : Flow) : f.payment?.map Payment.amount = f.amount? := by
    rw [Flow.payment?, Option.map_map]
    exact Option.map_id'
  rw [paid, List.map_filterMap]
  exact congrArg (List.filterMap · _) (funext amounts)

/-- The fault of a settlement is the first one on the visit. The induction is on the contract: a
    part is visited only when the parts in front of it were settled, and then nothing in front of it
    is a fault. -/
theorem fault?_settle (t : Date) (c : Contract F) :
    fault? (c.settle t) = (c.visit t).findSome? Encounter.fault? := by
  induction c with
  | zero => rfl
  | one currency => rfl
  | multiple factor inner ih =>
    rw [settle_multiple, visit, List.findSome?_append, ← ih]
    cases settled : inner.settle t with
    | error fault => exact fault?_bind_of_error rfl _
    | ok s =>
      rw [fault?_bind_of_ok rfl, Settlement.fault?_scaled, map_amount_of_settle settled]
      rfl
  | later date inner ih =>
    rw [visit]
    by_cases come : date ≤ t
    · rw [settle_later_of_le come, if_pos come, ih]
    · rw [settle_later_of_lt come, if_neg come]
      rfl
  | give inner ih =>
    rw [settle_give, visit, ← ih]
    exact fault?_bind_pure _ _
  | both left right ihl ihr =>
    rw [settle_both, visit, List.findSome?_append, ← ihl, ← ihr]
    cases settled : left.settle t with
    | error fault => exact fault?_bind_of_error rfl _
    | ok s =>
      rw [fault?_bind_of_ok rfl]
      exact fault?_bind_pure _ _
  | foreign leaf => rfl

theorem exists_settle_iff_visit {c : Contract F} :
    (∃ s, c.settle t = .ok s) ↔ ∀ e ∈ c.visit t, e.fault? = none := by
  rw [← fault?_eq_none_iff, fault?_settle, List.findSome?_eq_none_iff]

theorem settle_eq_error_iff {c : Contract F} {fault : SettlementFault F} :
    c.settle t = .error fault ↔
      ∃ before e after, c.visit t = before ++ e :: after ∧
        e.fault? = some fault ∧ ∀ x ∈ before, x.fault? = none := by
  rw [← fault?_eq_some_iff, fault?_settle, List.findSome?_eq_some_iff]

/-! ## Foreign leaves -/

/-- The foreign leaves in a contract from left to right, each with the layers above it, the
    outermost first. -/
def foreignPaths : Contract F → List (List Layer × F)
  | zero | one _ => []
  | multiple factor inner => inner.foreignPaths.map (·.map (.factor factor :: ·) id)
  | later date inner => inner.foreignPaths.map (·.map (.date date :: ·) id)
  | give inner => inner.foreignPaths.map (·.map (.side :: ·) id)
  | both left right => left.foreignPaths ++ right.foreignPaths
  | foreign leaf => [([], leaf)]

theorem foreignPaths_eq_nil_iff {c : Contract F} : c.foreignPaths = [] ↔ c.IsWhole := by
  induction c with
  | zero => exact iff_of_true rfl rfl
  | one currency => exact iff_of_true rfl rfl
  | multiple factor inner ih => exact List.map_eq_nil_iff.trans ih
  | later date inner ih => exact List.map_eq_nil_iff.trans ih
  | give inner ih => exact List.map_eq_nil_iff.trans ih
  | both left right ihl ihr =>
    rw [foreignPaths, List.append_eq_nil_iff, ihl, ihr, isWhole_both_iff]
  | foreign leaf => exact iff_of_false (List.cons_ne_nil _ _) nofun

/-- The visit meets the foreign leaves that do not wait. -/
theorem foreign_mem_visit_iff {c : Contract F} {leaf : F} :
    .foreign leaf ∈ c.visit t ↔
      ∃ path, (path, leaf) ∈ c.foreignPaths ∧ Layer.AreDue path t := by
  induction c with
  | zero => simp [visit, foreignPaths]
  | one currency => simp [visit, foreignPaths]
  | multiple factor inner ih =>
    have other : Encounter.foreign leaf ∉
        ((inner.flowsWhere t true).filterMap Flow.amount?).map (.product factor) := by
      simp
    rw [visit, List.mem_append, or_iff_left other, ih, foreignPaths, Layer.exists_areDue_under]
    simp [Layer.date?]
  | later date inner ih =>
    rw [visit, foreignPaths, Layer.exists_areDue_under]
    by_cases come : date ≤ t
    · rw [if_pos come, ih]
      exact (and_iff_right (by simpa [Layer.date?] using come)).symm
    · rw [if_neg come]
      simp [Layer.date?, come]
  | give inner ih =>
    rw [visit, ih, foreignPaths, Layer.exists_areDue_under]
    simp [Layer.date?]
  | both left right ihl ihr =>
    rw [visit, List.mem_append, ihl, ihr, ← exists_or]
    simp only [foreignPaths, List.mem_append, or_and_right]
  | foreign other => simp [visit, foreignPaths, Layer.AreDue]

/-- A foreign leaf is the fault only where every day above it has come. -/
theorem exists_path_of_foreign {c : Contract F} {leaf : F}
    (h : c.settle t = .error (.foreign leaf)) :
    ∃ path, (path, leaf) ∈ c.foreignPaths ∧ Layer.AreDue path t := by
  obtain ⟨before, e, after, split, found, -⟩ := settle_eq_error_iff.mp h
  rw [← foreign_mem_visit_iff, split, ← Encounter.fault?_eq_foreign_iff.mp found]
  exact List.mem_append_right before List.mem_cons_self

/-- Without foreign leaves only a product can be the fault. -/
theorem IsWhole.settle_ne_foreign {c : Contract F} (h : c.IsWhole) (leaf : F) :
    c.settle t ≠ .error (.foreign leaf) := by
  intro fault
  obtain ⟨path, found, -⟩ := exists_path_of_foreign fault
  rw [foreignPaths_eq_nil_iff.mpr h] at found
  cases found

end Contract

end TermSheet
