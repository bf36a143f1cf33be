import TermSheet.Proofs.Calendar.Text
import TermSheet.Proofs.Contract.Normal
import TermSheet.Proofs.Decimal.Text
import TermSheet.Value.Json
import TermSheet.Value.Word

/-!
# Rendering loses nothing

A contract over the six variants is rendered as an object, and so is every payment. The objects
can be read back, field by field under their names: the variant is taken from its field, the amount
and the day from their texts, the parts from theirs. What comes back is what was rendered, down to
the representation of each amount. Hence different contracts have different objects.

The reader is open in how it reads an amount. With the reader of amounts from outside it finds
every contract whose amounts are numbers that can be kept; with the reader of numbers of any size
it finds every contract.

A contract that has foreign leaves is refused, and the leaf that it is refused for is the first one
from left to right.

Results:
* `ofJson?_eq_some_iff`, `Payment.ofJson?_toJson_eq_some_iff`: what is read back from a rendered
  contract and from a rendered payment.
* `toJson?_injective`, `Payment.toJson_injective`: what is rendered is known from its object.
* `toJson?_of_head?_foreignLeaves`: which leaf is refused.
* `rendering_loses_nothing`: all of this together.
-/

namespace TermSheet

/-! ## Fields of an object -/

namespace Json

/-- The text in a field. -/
def textAt? (fields : List (String × Json)) (name : String) : Option String :=
  match fields.lookup name with
  | some (text s) => some s
  | _ => none

/-- What the text in a field stands for. -/
def readAt? {α : Type} (read? : String → Option α) (fields : List (String × Json))
    (name : String) : Option α :=
  (textAt? fields name).bind read?

end Json

/-- A reader of values from outside, for texts. -/
def readText? {ε α : Type} (read : Value → Except ε α) (s : String) : Option α :=
  (read (.text s)).toOption

theorem readText?_currency (c : Currency) : readText? Currency.ofValue? c.code = some c := by
  cases c <;> decide

theorem readText?_direction (d : Direction) : readText? Direction.ofValue? d.word = some d := by
  cases d <;> decide

theorem readText?_date (d : Date) : readText? Date.ofValue? d.text = some d := by
  rw [readText?, Date.ofValue?_text]
  rfl

theorem readText?_amount (a : Amount) :
    readText? Amount.ofValue? a.text = if a.value.Representable then some a else none := by
  rw [readText?, Amount.ofValue?_text]
  split <;> rfl

/-- The amounts that texts from outside stand for are those that can be kept. -/
theorem exists_readText?_amount_iff (a : Amount) :
    (∃ s, readText? Amount.ofValue? s = some a) ↔ a.value.Representable := by
  constructor
  · rintro ⟨s, read⟩
    have accepted : Amount.ofValue? (.text s) = .ok a := by
      unfold readText? at read
      cases result : Amount.ofValue? (.text s) with
      | error fault =>
        rw [result] at read
        cases read
      | ok b =>
        rw [result] at read
        rw [Option.some.inj read]
    simp only [Amount.ofValue?, Value.plain] at accepted
    split at accepted
    · next number =>
      cases accepted
      exact Numeral.representable_of_ofText? number
    · cases accepted
    · cases accepted
  · intro kept
    exact ⟨a.text, by rw [readText?_amount, if_pos kept]⟩

/-- The amount that a text of any size stands for. -/
def Amount.ofText? (s : String) : Option Amount := (Decimal.ofChars? s.toList).map Amount.mk

theorem Amount.ofText?_text (a : Amount) : Amount.ofText? a.text = some a := by
  rw [Amount.ofText?, Amount.text, Decimal.text, String.toList_ofList, Decimal.ofChars?_chars]
  rfl

/-! ## Payments -/

namespace Payment

/-- The payment that an object describes. -/
def ofJson? (amount? : String → Option Amount) : Json → Option Payment
  | .object fields => do
    let direction ← Json.readAt? (readText? Direction.ofValue?) fields "direction"
    let amount ← Json.readAt? amount? fields "amount"
    let currency ← Json.readAt? (readText? Currency.ofValue?) fields "currency"
    return { direction, amount, currency }
  | _ => none

theorem ofJson?_toJson_eq_some_iff (amount? : String → Option Amount) (p : Payment) :
    ofJson? amount? p.toJson = some p ↔ amount? p.amount.text = some p.amount := by
  have read : ofJson? amount? p.toJson =
      (amount? p.amount.text).map fun amount => { p with amount } := by
    simp only [toJson, ofJson?, Json.readAt?, Json.textAt?, List.lookup_cons, String.reduceBEq,
      Option.bind_some, readText?_direction, readText?_currency, Option.bind_eq_bind]
    cases amount? p.amount.text <;> rfl
  rw [read, Option.map_eq_some_iff]
  constructor
  · rintro ⟨a, ha, same⟩
    rw [ha, ← congrArg Payment.amount same]
  · exact fun h => ⟨p.amount, h, rfl⟩

theorem toJson_injective {p q : Payment} (h : p.toJson = q.toJson) : p = q := by
  have read (r : Payment) : ofJson? Amount.ofText? r.toJson = some r :=
    (ofJson?_toJson_eq_some_iff _ r).mpr r.amount.ofText?_text
  have same := read p
  rw [h, read q] at same
  exact (Option.some.inj same).symm

end Payment

/-! ## Contracts -/

namespace Contract

variable {F : Type}

/-- The contract that the fields of an object describe, with its parts under their names. -/
def ofFields? (amount? : String → Option Amount) (fields : List (String × Json))
    (part? : String → Option (Contract F)) : Option (Contract F) :=
  match Json.textAt? fields "type" with
  | some "Zero" => some zero
  | some "One" => do return one (← Json.readAt? (readText? Currency.ofValue?) fields "currency")
  | some "Multiple" => do
    return multiple (← Json.readAt? amount? fields "amount") (← part? "contract")
  | some "Later" => do
    return later (← Json.readAt? (readText? Date.ofValue?) fields "date") (← part? "contract")
  | some "Give" => do return give (← part? "contract")
  | some "And" => do return both (← part? "contract_a") (← part? "contract_b")
  | _ => none

mutual

/-- The contract that an object describes. -/
def ofJson? (amount? : String → Option Amount) : Json → Option (Contract F)
  | .object fields =>
    ofFields? amount? fields fun name => (parts amount? fields).lookup name |>.join
  | _ => none

/-- The contracts that the fields of an object describe. -/
def parts (amount? : String → Option Amount) :
    List (String × Json) → List (String × Option (Contract F))
  | [] => []
  | (name, item) :: fields => (name, ofJson? amount? item) :: parts amount? fields

end

/-- The factors of a contract, from left to right. -/
def amounts : Contract F → List Amount
  | zero | one _ | foreign _ => []
  | multiple factor inner => factor :: inner.amounts
  | later _ inner | give inner => inner.amounts
  | both left right => left.amounts ++ right.amounts

theorem ofJson?_eq_some_iff (amount? : String → Option Amount) {c : Contract F} {j : Json}
    (h : c.toJson? = .ok j) :
    ofJson? amount? j = some c ↔ ∀ a ∈ c.amounts, amount? a.text = some a := by
  induction c generalizing j with
  | zero =>
    cases h
    simp [ofJson?, ofFields?, Json.textAt?, amounts]
  | one currency =>
    cases h
    simp [ofJson?, ofFields?, Json.readAt?, Json.textAt?, List.lookup_cons, amounts,
      readText?_currency]
  | multiple factor inner ih =>
    obtain ⟨part, hp, rfl⟩ := bind_pure_eq_ok_iff.mp h
    simp [ofJson?, ofFields?, parts, Json.readAt?, Json.textAt?, List.lookup_cons, amounts, ← ih hp,
      Option.bind_eq_some_iff]
  | later date inner ih =>
    obtain ⟨part, hp, rfl⟩ := bind_pure_eq_ok_iff.mp h
    simp [ofJson?, ofFields?, parts, Json.readAt?, Json.textAt?, List.lookup_cons, amounts, ← ih hp,
      Option.bind_eq_some_iff, readText?_date]
  | give inner ih =>
    obtain ⟨part, hp, rfl⟩ := bind_pure_eq_ok_iff.mp h
    simp [ofJson?, ofFields?, parts, Json.textAt?, List.lookup_cons, amounts, ← ih hp,
      Option.bind_eq_some_iff]
  | both left right ihl ihr =>
    obtain ⟨a, ha, rest⟩ := bind_eq_ok_iff.mp h
    obtain ⟨b, hb, rfl⟩ := bind_pure_eq_ok_iff.mp rest
    simp [ofJson?, ofFields?, parts, Json.textAt?, List.lookup_cons, amounts, ← ihl ha, ← ihr hb,
      Option.bind_eq_some_iff, or_imp, forall_and]
  | foreign leaf => cases h

theorem toJson?_injective {c d : Contract F} {j : Json} (hc : c.toJson? = .ok j)
    (hd : d.toJson? = .ok j) : c = d := by
  have read {e : Contract F} (he : e.toJson? = .ok j) : ofJson? Amount.ofText? j = some e :=
    (ofJson?_eq_some_iff _ he).mpr fun a _ => a.ofText?_text
  exact Option.some.inj ((read hc).symm.trans (read hd))

/-! ## Foreign leaves -/

/-- The foreign leaves, from left to right. -/
def foreignLeaves : Contract F → List F
  | zero | one _ => []
  | multiple _ inner | later _ inner | give inner => inner.foreignLeaves
  | both left right => left.foreignLeaves ++ right.foreignLeaves
  | foreign leaf => [leaf]

theorem head?_foreignLeaves (c : Contract F) : c.foreignLeaves.head? = c.firstForeign? := by
  induction c with
  | zero => rfl
  | one currency => rfl
  | multiple factor inner ih => exact ih
  | later date inner ih => exact ih
  | give inner ih => exact ih
  | both left right ihl ihr =>
    rw [foreignLeaves, List.head?_append, ihl, ihr, firstForeign?]
  | foreign leaf => rfl

theorem foreignLeaves_eq_nil_iff {c : Contract F} : c.foreignLeaves = [] ↔ c.IsWhole := by
  rw [IsWhole, ← head?_foreignLeaves, List.head?_eq_none_iff]

theorem exists_toJson?_of_isWhole {c : Contract F} (h : c.IsWhole) : ∃ j, c.toJson? = .ok j := by
  induction c with
  | zero => exact ⟨_, rfl⟩
  | one currency => exact ⟨_, rfl⟩
  | multiple factor inner ih =>
    obtain ⟨j, hj⟩ := ih h
    exact ⟨_, bind_pure_eq_ok_iff.mpr ⟨j, hj, rfl⟩⟩
  | later date inner ih =>
    obtain ⟨j, hj⟩ := ih h
    exact ⟨_, bind_pure_eq_ok_iff.mpr ⟨j, hj, rfl⟩⟩
  | give inner ih =>
    obtain ⟨j, hj⟩ := ih h
    exact ⟨_, bind_pure_eq_ok_iff.mpr ⟨j, hj, rfl⟩⟩
  | both left right ihl ihr =>
    obtain ⟨hl, hr⟩ := isWhole_both_iff.mp h
    obtain ⟨j, hj⟩ := ihl hl
    obtain ⟨k, hk⟩ := ihr hr
    exact ⟨_, bind_eq_ok_iff.mpr ⟨j, hj, bind_pure_eq_ok_iff.mpr ⟨k, hk, rfl⟩⟩⟩
  | foreign leaf => cases h

/-- The left side of a pair is rendered first, so a leaf of the right side is only reached when the
    left side has none. -/
theorem toJson?_of_head?_foreignLeaves {c : Contract F} {leaf : F}
    (h : c.foreignLeaves.head? = some leaf) : c.toJson? = .error leaf := by
  induction c with
  | zero => cases h
  | one currency => cases h
  | multiple factor inner ih => rw [toJson?, ih h, error_bind]
  | later date inner ih => rw [toJson?, ih h, error_bind]
  | give inner ih => rw [toJson?, ih h, error_bind]
  | both left right ihl ihr =>
    cases first : left.foreignLeaves with
    | nil =>
      obtain ⟨j, hj⟩ := exists_toJson?_of_isWhole (foreignLeaves_eq_nil_iff.mp first)
      have last : right.foreignLeaves.head? = some leaf := by
        rwa [foreignLeaves, first, List.nil_append] at h
      rw [toJson?, hj, ok_bind, ihr last, error_bind]
    | cons found others =>
      have same : left.foreignLeaves.head? = some leaf := by
        rw [foreignLeaves, first, List.cons_append, List.head?_cons] at h
        rw [first, List.head?_cons, h]
      rw [toJson?, ihl same, error_bind]
  | foreign other =>
    cases h
    rfl

/-! ## All together -/

/-- The amounts that can be kept are those that texts from outside stand for. Every contract
    without foreign leaves is rendered, and reading its object the way texts from outside are read
    gives the same contract back exactly when its amounts can be kept. Payments likewise. Contracts
    or payments with one object are the same, whatever their amounts. With a foreign leaf anywhere,
    the first one is refused with its type. -/
theorem rendering_loses_nothing :
    (∀ a : Amount, (∃ s, readText? Amount.ofValue? s = some a) ↔ a.value.Representable) ∧
    (∀ c : Contract Value, c.foreignLeaves = [] → ∃ j, c.toJson? = .ok j ∧
      (ofJson? (readText? Amount.ofValue?) j = some c ↔ ∀ a ∈ c.amounts, a.value.Representable)) ∧
    (∀ p : Payment, Payment.ofJson? (readText? Amount.ofValue?) p.toJson = some p ↔
      p.amount.value.Representable) ∧
    (∀ c d : Contract Value, ∀ j, c.toJson? = .ok j → d.toJson? = .ok j → c = d) ∧
    (∀ p q : Payment, p.toJson = q.toJson → p = q) ∧
    (∀ c : Contract Value, ∀ leaf others, c.foreignLeaves = leaf :: others →
      ∃ fault, c.toJson?.mapError JsonFault.foreignLeaf = .error fault ∧
        fault.message = "Illegal Contract type: " ++ leaf.typeName) := by
  have kept (a : Amount) :
      readText? Amount.ofValue? a.text = some a ↔ a.value.Representable := by
    rw [readText?_amount]
    split <;> simp_all
  refine ⟨exists_readText?_amount_iff, ?contracts, ?payments, fun c d j => toJson?_injective,
    fun p q => Payment.toJson_injective, ?leaves⟩
  case contracts =>
    intro c whole
    obtain ⟨j, hj⟩ := exists_toJson?_of_isWhole (foreignLeaves_eq_nil_iff.mp whole)
    refine ⟨j, hj, ?_⟩
    simp only [ofJson?_eq_some_iff _ hj, kept]
  case payments =>
    intro p
    rw [Payment.ofJson?_toJson_eq_some_iff, kept]
  case leaves =>
    intro c leaf others h
    have first : c.foreignLeaves.head? = some leaf := by rw [h, List.head?_cons]
    exact ⟨.foreignLeaf leaf, by rw [toJson?_of_head?_foreignLeaves first]; rfl, rfl⟩

/-- A bond of `1.50` on the first of May 2020 beside a debt that has no effect, and two foreign
    leaves, the first of which is put off. -/
theorem rendering_loses_nothing_of_bond_and_leaves :
    let day : Date := { year := 2020, month := 5, day := 1 }
    let bond : Contract Value := both (later day (multiple ⟨⟨false, 150, -2⟩⟩ (one .eur)))
      (give (multiple ⟨⟨true, 0, 7⟩⟩ zero))
    let leaves : Contract Value := both (give (later day (foreign (.text "EUR")))) (foreign .none)
    (bond.foreignLeaves = [] ∧ ∃ j, bond.toJson? = .ok j ∧
      ofJson? (readText? Amount.ofValue?) j = some bond) ∧
    leaves.foreignLeaves = [.text "EUR", .none] ∧
      ∃ fault, leaves.toJson?.mapError JsonFault.foreignLeaf = .error fault ∧
        fault.message = "Illegal Contract type: str" := by
  intro day bond leaves
  obtain ⟨-, contracts, -, -, -, refused⟩ := rendering_loses_nothing
  obtain ⟨j, hj, read⟩ := contracts bond rfl
  refine ⟨⟨rfl, j, hj, read.mpr ?_⟩, rfl, refused leaves (.text "EUR") [.none] rfl⟩
  simp only [bond, amounts, List.cons_append, List.nil_append, List.mem_cons, List.not_mem_nil,
    or_false, forall_eq_or_imp, forall_eq]
  constructor <;> simp [Decimal.Representable, Decimal.adjusted, digitCount]

end Contract

end TermSheet
